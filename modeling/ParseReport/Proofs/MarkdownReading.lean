import ParseReport.Proofs.Fragments

/-!
Reports in Markdown, read back. Escapes, entities, hard breaks and marks are read one after the
other from the left, and what they stand for is the report as plain text.
-/

namespace ParseReport.Markdown

/-- What a text stands for: a backslash is in front of a character that means itself, an ampersand
and a hard blank are entities, a hard break is a line feed, and a mark is nothing. -/
def decode : Text → Text
  | [] => []
  | '\\' :: c :: rest => c :: decode rest
  | '&' :: 'a' :: 'm' :: 'p' :: ';' :: rest => '&' :: decode rest
  | '&' :: 'n' :: 'b' :: 's' :: 'p' :: ';' :: rest => ' ' :: decode rest
  | ' ' :: ' ' :: '\n' :: rest => '\n' :: decode rest
  | '*' :: rest => decode rest
  | c :: rest => c :: decode rest

/-- Where there are two blanks side by side, they are those of a hard break, or the second one is the
first one of a hard break. -/
def BlanksApart (t : Text) : Prop :=
  ∀ rest, ' ' :: ' ' :: rest <:+ t → ['\n'] <+: rest ∨ [' ', '\n'] <+: rest

/-- If a text begins with a blank, it begins with a hard break. -/
def BreakFirst (t : Text) : Prop :=
  ∀ rest, t = ' ' :: rest → [' ', '\n'] <+: rest

theorem breakFirst_of_ne {c : Char} (h : c ≠ ' ') (t : Text) : BreakFirst (c :: t) :=
  fun _ he => absurd (List.cons.inj he).1 h

theorem decode_plain {c : Char} (hb : c ≠ '\\') (ha : c ≠ '&') (hs : c ≠ ' ') (hm : c ≠ '*')
    (rest : Text) : decode (c :: rest) = c :: decode rest := by
  rw [decode]
  all_goals simp [hb, ha, hs, hm]

/-- A blank stands for itself where no hard break begins. -/
theorem decode_blank {rest : Text} (h : BreakFirst rest) :
    decode (' ' :: rest) = ' ' :: decode rest := by
  have hno : ∀ r, rest ≠ ' ' :: '\n' :: r := by
    intro r he
    obtain ⟨s, hs⟩ := h _ he
    cases hs
  rw [decode]
  all_goals simp [hno]

theorem decode_hardBlank (rest : Text) : decode (hardBlank ++ rest) = ' ' :: decode rest :=
  rfl

section

variable {c : Char}

theorem escapeChar_blank : escapeChar ' ' = [' '] := by
  decide

/-- A character is escaped by a word without blanks that stands for it. -/
theorem escapeChar_word (h : c ≠ ' ') :
    escapeChar c ≠ [] ∧ ' ' ∉ escapeChar c ∧
      ∀ rest, decode (escapeChar c ++ rest) = c :: decode rest := by
  unfold escapeChar
  split
  next hamp =>
    subst hamp
    exact ⟨by decide, by decide, fun _ => rfl⟩
  next hamp =>
    split
    next => exact ⟨by simp, by simpa using Ne.symm h, fun _ => rfl⟩
    next hspecial =>
      have hb : c ≠ '\\' := by
        rintro rfl
        exact hspecial (by decide)
      have hm : c ≠ '*' := by
        rintro rfl
        exact hspecial (by decide)
      exact ⟨by simp, by simpa using Ne.symm h, decode_plain hb hamp h hm⟩

theorem keepBlanks_char (h : c ≠ ' ') (hard : Bool) (u : Text) :
    keepBlanks hard (c :: u) = c :: keepBlanks false u := by
  rw [keepBlanks]
  simpa using h

theorem keepBlanks_word {w : Text} (hne : w ≠ []) (h : ' ' ∉ w) (hard : Bool) (u : Text) :
    keepBlanks hard (w ++ u) = w ++ keepBlanks false u := by
  induction w generalizing hard with
  | nil => exact absurd rfl hne
  | cons c w ih =>
    rw [List.mem_cons, not_or] at h
    rw [List.cons_append, keepBlanks_char (Ne.symm h.1)]
    cases w with
    | nil => rfl
    | cons d w => rw [ih (List.cons_ne_nil d w) h.2]; rfl

theorem keepBlanks_hard {hard : Bool} {u : Text} (h : hard = true ∨ u.head? = some ' ') :
    keepBlanks hard (' ' :: u) = hardBlank ++ keepBlanks true u := by
  rw [keepBlanks, if_pos (by simpa using h)]

/-- A blank is kept as a hard one, or is soft with none behind it. -/
theorem keepBlanks_blank (hard : Bool) (u : Text) :
    keepBlanks hard (' ' :: u) = hardBlank ++ keepBlanks true u ∨
    keepBlanks hard (' ' :: u) = ' ' :: keepBlanks false u ∧ u.head? ≠ some ' ' := by
  by_cases h : hard = true ∨ u.head? = some ' '
  · exact .inl (keepBlanks_hard h)
  · refine .inr ⟨?_, (not_or.mp h).2⟩
    rw [keepBlanks, if_neg (by simpa using h)]

end

section

variable {rest : Text}

/-- Where a blank in front would be a hard one, a text with its blanks kept begins with none. -/
theorem breakFirst_keepBlanks {hard : Bool} {u : Text} (hu : hard = true ∨ u.head? ≠ some ' ')
    (hr : BreakFirst rest) : BreakFirst (keepBlanks hard u ++ rest) := by
  cases u with
  | nil => exact hr
  | cons c u =>
    by_cases hc : c = ' '
    · subst hc
      have hhard : hard = true := hu.resolve_right (by simp)
      rw [keepBlanks_hard (.inl hhard)]
      exact breakFirst_of_ne (by decide) _
    · rw [keepBlanks_char hc]
      exact breakFirst_of_ne hc _

theorem decode_keepBlanks (t : Text) (hard : Bool) (hr : BreakFirst rest) :
    decode (keepBlanks hard (t.flatMap escapeChar) ++ rest) = t ++ decode rest := by
  induction t generalizing hard with
  | nil => rfl
  | cons c t ih =>
    rw [List.flatMap_cons]
    by_cases hc : c = ' '
    · subst hc
      rw [escapeChar_blank, List.singleton_append]
      rcases keepBlanks_blank hard (t.flatMap escapeChar) with hb | ⟨hb, hhead⟩
      · rw [hb, List.append_assoc, decode_hardBlank, ih]
        rfl
      · -- what follows a soft blank does not make a hard break of it
        have hafter : BreakFirst (keepBlanks false (t.flatMap escapeChar) ++ rest) :=
          breakFirst_keepBlanks (.inr hhead) hr
        rw [hb, List.cons_append, decode_blank hafter, ih]
        rfl
    · obtain ⟨hne, hblank, hdecode⟩ := escapeChar_word hc
      rw [keepBlanks_word hne hblank, List.append_assoc, hdecode, ih]
      rfl

theorem BlanksApart.cons {c : Char} {t : Text} (h : BlanksApart t) (hc : c = ' ' → BreakFirst t) :
    BlanksApart (c :: t) := by
  intro r hr
  rcases List.suffix_cons_iff.mp hr with he | hr
  · obtain ⟨hb, ht⟩ := List.cons.inj he
    exact .inr (hc hb.symm r ht.symm)
  · exact h r hr

theorem BlanksApart.word {w t : Text} (h : BlanksApart t) (hw : ' ' ∉ w) : BlanksApart (w ++ t) := by
  induction w with
  | nil => exact h
  | cons c w ih =>
    rw [List.mem_cons, not_or] at hw
    exact (ih hw.2).cons fun hc => absurd hc.symm hw.1

theorem BlanksApart.hardBreak {t : Text} (h : BlanksApart t) :
    BlanksApart (' ' :: ' ' :: '\n' :: t) := by
  have hsecond : BlanksApart (' ' :: '\n' :: t) :=
    (h.word (w := ['\n']) (by decide)).cons fun _ => breakFirst_of_ne (by decide) t
  intro r hr
  rcases List.suffix_cons_iff.mp hr with he | hr
  · obtain ⟨_, he⟩ := List.cons.inj he
    obtain ⟨_, rfl⟩ := List.cons.inj he
    exact .inl (List.prefix_append ['\n'] t)
  · exact hsecond r hr

theorem blanksApart_keepBlanks (hard : Bool) (u : Text) (hr : BreakFirst rest)
    (h : BlanksApart rest) : BlanksApart (keepBlanks hard u ++ rest) := by
  induction u generalizing hard with
  | nil => exact h
  | cons c u ih =>
    by_cases hc : c = ' '
    · subst hc
      rcases keepBlanks_blank hard u with hb | ⟨hb, hhead⟩
      · rw [hb, List.append_assoc]
        exact (ih true).word (by decide)
      · rw [hb]
        exact (ih false).cons fun _ => breakFirst_keepBlanks (.inr hhead) hr
    · rw [keepBlanks_char hc]
      exact (ih false).cons fun he => absurd he hc

theorem breakFirst_write (f : Fragment) (hr : BreakFirst rest) :
    BreakFirst (f.write markup ++ rest) := by
  cases f with
  | text t => exact breakFirst_keepBlanks (.inl rfl) hr
  | caret inner => exact breakFirst_of_ne (by decide) _
  | context inner => exact breakFirst_of_ne (by decide) _
  | newline =>
    intro r he
    obtain ⟨_, rfl⟩ := List.cons.inj he
    exact List.prefix_append [' ', '\n'] rest

theorem write_caret_append (inner : Fragment) :
    inner.caret.write markup ++ rest = ['*', '*'] ++ (inner.write markup ++ (['*', '*'] ++ rest)) := by
  simp [Fragment.write, markup, between]

theorem write_context_append (inner : Fragment) :
    inner.context.write markup ++ rest = ['*'] ++ (inner.write markup ++ (['*'] ++ rest)) := by
  simp [Fragment.write, markup, between]

/-- A fragment stands for its plain text, whatever follows it but half a hard break. -/
theorem decode_write (f : Fragment) (hr : BreakFirst rest) :
    decode (f.write markup ++ rest) = f.write Plain.markup ++ decode rest := by
  induction f generalizing rest with
  | text t => exact decode_keepBlanks t true hr
  | caret inner ih =>
    have hmark : ∀ t, decode (['*', '*'] ++ t) = decode t := fun _ => rfl
    have hafter : BreakFirst (['*', '*'] ++ rest) := breakFirst_of_ne (by decide) _
    rw [write_caret_append, hmark, ih hafter, hmark]
    rfl
  | context inner ih =>
    have hmark : ∀ t, decode (['*'] ++ t) = decode t := fun _ => rfl
    have hafter : BreakFirst (['*'] ++ rest) := breakFirst_of_ne (by decide) _
    rw [write_context_append, hmark, ih hafter, hmark]
    rfl
  | newline => rfl

theorem blanksApart_write (f : Fragment) (hr : BreakFirst rest) (h : BlanksApart rest) :
    BlanksApart (f.write markup ++ rest) := by
  induction f generalizing rest with
  | text t => exact blanksApart_keepBlanks true _ hr h
  | caret inner ih =>
    have hafter : BlanksApart (['*', '*'] ++ rest) := h.word (by decide)
    rw [write_caret_append]
    exact (ih (breakFirst_of_ne (by decide) _) hafter).word (by decide)
  | context inner ih =>
    have hafter : BlanksApart (['*'] ++ rest) := h.word (by decide)
    rw [write_context_append]
    exact (ih (breakFirst_of_ne (by decide) _) hafter).word (by decide)
  | newline => exact h.hardBreak

end

/-- Fragments are read back one after the other: what follows each of them begins with a blank only
if it begins with a hard break. -/
theorem decode_writes (fragments : List Fragment) :
    BreakFirst (fragments.map (Fragment.write markup)).flatten ∧
    BlanksApart (fragments.map (Fragment.write markup)).flatten ∧
    decode (fragments.map (Fragment.write markup)).flatten =
      (fragments.map (Fragment.write Plain.markup)).flatten := by
  induction fragments with
  | nil =>
    refine ⟨fun _ he => (List.cons_ne_nil _ _ he.symm).elim, fun _ hr => ?_, rfl⟩
    cases List.suffix_nil.mp hr
  | cons f fragments ih =>
    obtain ⟨hfirst, hapart, hdecode⟩ := ih
    rw [List.map_cons, List.flatten_cons, List.map_cons, List.flatten_cons, ← hdecode]
    exact ⟨breakFirst_write f hfirst, blanksApart_write f hfirst hapart, decode_write f hfirst⟩

/-- Of three blanks in front of a line feed the first one stands for itself. -/
example : decode "a   \n".toList = "a \n".toList := by
  decide

/-- A report in Markdown stands for the report in plain text, or fails with it. Apart from its hard
breaks, no two blanks in it are side by side. -/
theorem report_stands_for_plain {ε : Type} (x : Extraction ε) (extra : Nat) (source : Text)
    (failures : List Failure) :
    Plain.report x extra source failures = (report x extra source failures).map decode ∧
    ∀ markdown, report x extra source failures = .ok markdown → BlanksApart markdown := by
  unfold Plain.report report
  rw [render_write Plain.markup, render_write markup]
  cases render Fragment.markup x extra source failures with
  | error fault => exact ⟨rfl, fun _ h => by cases h⟩
  | ok fragments =>
    obtain ⟨_, hapart, hdecode⟩ := decode_writes fragments
    refine ⟨congrArg Except.ok hdecode.symm, fun markdown h => ?_⟩
    cases Except.ok.inj h
    exact hapart

/-- A failure whose message begins and ends in blanks and has a mark, an entity and a backslash in
between. -/
def starredFailures : List Failure :=
  [⟨.endOf ['a', ' '], .custom "  *&amp;\\ ".toList, []⟩]

theorem report_stands_for_plain_starred :
    ∃ markdown, report Extraction.standard 0 "a  b ".toList starredFailures = .ok markdown ∧
      Plain.report Extraction.standard 0 "a  b ".toList starredFailures = .ok (decode markdown) ∧
      BlanksApart markdown := by
  obtain ⟨markdown, h⟩ :
      ∃ markdown, report Extraction.standard 0 "a  b ".toList starredFailures = .ok markdown :=
    ⟨_, rfl⟩
  obtain ⟨hplain, hapart⟩ :=
    report_stands_for_plain Extraction.standard 0 "a  b ".toList starredFailures
  rw [h] at hplain
  exact ⟨markdown, h, hplain, hapart markdown h⟩

end ParseReport.Markdown
