import ParseReport.Proofs.Fragments

/-!
Reports in HTML, read back. The tags in a report are those of its block and of its spans, well
nested, and nothing else is markup. The characters between them, with the entities read, are the
report as plain text.
-/

namespace ParseReport.Html

/-- The tags of a report. -/
inductive Tag
  | pre
  | caret
  | context
  | endSpan
  | endPre
deriving DecidableEq, Repr

namespace Tag

def text : Tag → Text
  | .pre => "<pre class=\"deadends\">".toList
  | .caret => "<span class=\"deadends-caret\">".toList
  | .context => "<span class=\"deadends-context\">".toList
  | .endSpan => "</span>".toList
  | .endPre => "</pre>".toList

def all : List Tag := [.pre, .caret, .context, .endSpan, .endPre]

/-- The tag that ends what a tag begins. -/
def closing? : Tag → Option Tag
  | .pre => some .endPre
  | .caret | .context => some .endSpan
  | .endSpan | .endPre => none

theorem mem_all (tag : Tag) : tag ∈ all := by
  cases tag <;> decide

theorem text_eq_cons (tag : Tag) : ∃ w, tag.text = '<' :: w ∧ '<' ∉ w ∧ '&' ∉ w := by
  cases tag
  all_goals exact ⟨_, rfl, by decide, by decide⟩

end Tag

/-- The tags and the characters of a text. The number tells how many characters are still part of
the tag before them. -/
def tokensFrom : Nat → Text → List (Tag ⊕ Char)
  | _, [] => []
  | skip + 1, _ :: rest => tokensFrom skip rest
  | 0, c :: rest =>
    match Tag.all.find? fun tag => tag.text.isPrefixOf (c :: rest) with
    | some tag => .inl tag :: tokensFrom (tag.text.length - 1) rest
    | none => .inr c :: tokensFrom 0 rest

def tokens (t : Text) : List (Tag ⊕ Char) :=
  tokensFrom 0 t

/-- The tags of a text. -/
def tagsIn (t : Text) : List Tag :=
  (tokens t).filterMap Sum.getLeft?

/-- A text without its tags. -/
def removeTags (t : Text) : Text :=
  (tokens t).filterMap Sum.getRight?

/-- The entities of a report. -/
def entities : List Text :=
  ["&amp;".toList, "&lt;".toList, "&gt;".toList]

/-- A text with each entity as the character that it stands for. -/
def decode : Text → Text
  | [] => []
  | '&' :: 'a' :: 'm' :: 'p' :: ';' :: rest => '&' :: decode rest
  | '&' :: 'l' :: 't' :: ';' :: rest => '<' :: decode rest
  | '&' :: 'g' :: 't' :: ';' :: rest => '>' :: decode rest
  | c :: rest => c :: decode rest

/-- Tags are nested if each one that begins something is followed by nested tags and the one that
ends it. -/
inductive Nested : List Tag → Prop
  | nil : Nested []
  | element {tag closing inside after} : tag.closing? = some closing → Nested inside →
      Nested after → Nested (tag :: inside ++ closing :: after)

/-- Wherever a character stands in a text, one of some words begins. -/
def Begins (c : Char) (words : List Text) (t : Text) : Prop :=
  ∀ rest, c :: rest <:+ t → ∃ w ∈ words, w <+: c :: rest

/-- The tags of a report with some failures: those of its block, of a span for each position, and of
a span for each context stack with frames at that position. -/
def reportTags {ε : Type} (x : Extraction ε) (failures : List Failure) : List Tag :=
  if failures = [] then []
  else
    .pre :: (positionsOf failures).flatMap (fun p =>
      .caret :: .endSpan :: ((stacksAt x failures p).filter (· ≠ [])).flatMap fun _ =>
        [.context, .endSpan]) ++ [.endPre]

theorem Nested.pair {tag closing : Tag} {after : List Tag} (h : tag.closing? = some closing)
    (ha : Nested after) : Nested (tag :: closing :: after) := by
  have hall := Nested.element h .nil ha
  exact hall

theorem Nested.append {tags more : List Tag} (h : Nested tags) (hm : Nested more) :
    Nested (tags ++ more) := by
  induction h with
  | nil => exact hm
  | @element tag closing inside after hc hi _ _ ih =>
    have he : tag :: inside ++ closing :: after ++ more =
        tag :: inside ++ closing :: (after ++ more) := by simp
    rw [he]
    exact .element hc hi ih

theorem Nested.flatMap {α : Type} {g : α → List Tag} {as : List α} (h : ∀ a ∈ as, Nested (g a)) :
    Nested (as.flatMap g) := by
  induction as with
  | nil => exact .nil
  | cons a as ih =>
    rw [List.flatMap_cons]
    exact (h a List.mem_cons_self).append (ih fun b hb => h b (List.mem_cons_of_mem a hb))

theorem nested_reportTags {ε : Type} (x : Extraction ε) (failures : List Failure) :
    Nested (reportTags x failures) := by
  unfold reportTags
  split
  · exact .nil
  · refine .element rfl (Nested.flatMap fun p _ => ?_) .nil
    exact .pair rfl (Nested.flatMap fun _ _ => .pair rfl .nil)

section

variable {c : Char} {words : List Text}

theorem begins_cons {d : Char} {t : Text} :
    Begins c words (d :: t) ↔ (c = d → ∃ w ∈ words, w <+: d :: t) ∧ Begins c words t := by
  constructor
  · intro h
    refine ⟨?_, fun rest hr => h rest (hr.trans (List.suffix_cons d t))⟩
    rintro rfl
    exact h t List.suffix_rfl
  · rintro ⟨hd, ht⟩ rest hr
    rcases List.suffix_cons_iff.mp hr with he | hr
    · obtain ⟨rfl, rfl⟩ := List.cons.inj he
      exact hd rfl
    · exact ht rest hr

theorem begins_of_not_mem {t : Text} (h : c ∉ t) : Begins c words t :=
  fun _ hr => absurd (hr.subset List.mem_cons_self) h

theorem begins_word {w : Text} (hw : c :: w ∈ words) (h : c ∉ w) : Begins c words (c :: w) :=
  begins_cons.mpr ⟨fun _ => ⟨_, hw, List.prefix_rfl⟩, begins_of_not_mem h⟩

theorem Begins.append {t u : Text} (ht : Begins c words t) (hu : Begins c words u) :
    Begins c words (t ++ u) := by
  induction t with
  | nil => exact hu
  | cons d t ih =>
    obtain ⟨hd, ht⟩ := begins_cons.mp ht
    refine begins_cons.mpr ⟨fun hc => ?_, ih ht⟩
    obtain ⟨w, hw, hp⟩ := hd hc
    exact ⟨w, hw, hp.trans (List.prefix_append _ u)⟩

end

theorem escape_cons (c : Char) (t : Text) : escape (c :: t) = escapeChar c ++ escape t :=
  List.flatMap_cons

theorem escape_append (t u : Text) : escape (t ++ u) = escape t ++ escape u :=
  List.flatMap_append

theorem decode_char {c : Char} (h : c ≠ '&') (rest : Text) :
    decode (c :: rest) = c :: decode rest := by
  rw [decode]
  all_goals simp [h]

/-- A character is escaped by a word that is read as the character, whatever follows it. -/
theorem escapeChar_word (c : Char) :
    '<' ∉ escapeChar c ∧ Begins '&' entities (escapeChar c) ∧
      ∀ rest, decode (escapeChar c ++ rest) = c :: decode rest := by
  unfold escapeChar
  split
  next h =>
    subst h
    exact ⟨by decide, begins_word (by decide) (by decide), fun _ => rfl⟩
  next hamp =>
    split
    next h =>
      subst h
      exact ⟨by decide, begins_word (by decide) (by decide), fun _ => rfl⟩
    next hlt =>
      split
      next h =>
        subst h
        exact ⟨by decide, begins_word (by decide) (by decide), fun _ => rfl⟩
      next =>
        exact ⟨by simpa using Ne.symm hlt, begins_of_not_mem (by simpa using Ne.symm hamp),
          decode_char hamp⟩

theorem decode_escape (t : Text) : decode (escape t) = t := by
  induction t with
  | nil => rfl
  | cons c t ih =>
    obtain ⟨_, _, hdecode⟩ := escapeChar_word c
    rw [escape_cons, hdecode, ih]

/-- What looks like an entity stays as it is. -/
example : decode (escape "&lt;".toList) = "&lt;".toList := by
  decide

theorem not_mem_escape (t : Text) : '<' ∉ escape t := by
  intro h
  obtain ⟨c, _, hc⟩ := List.mem_flatMap.mp h
  exact (escapeChar_word c).1 hc

theorem begins_escape (t : Text) : Begins '&' entities (escape t) := by
  induction t with
  | nil => exact begins_of_not_mem List.not_mem_nil
  | cons c t ih =>
    obtain ⟨_, hbegins, _⟩ := escapeChar_word c
    rw [escape_cons]
    exact hbegins.append ih

theorem begins_tag (tag : Tag) :
    Begins '<' (Tag.all.map Tag.text) tag.text ∧ Begins '&' entities tag.text := by
  obtain ⟨w, hw, hlt, hamp⟩ := tag.text_eq_cons
  have hmem : '<' :: w ∈ Tag.all.map Tag.text := hw ▸ List.mem_map_of_mem tag.mem_all
  rw [hw]
  exact ⟨begins_word hmem hlt, begins_of_not_mem (by simpa using hamp)⟩

theorem tokensFrom_skip (w rest : Text) : tokensFrom w.length (w ++ rest) = tokensFrom 0 rest := by
  induction w with
  | nil => rfl
  | cons c w ih => exact ih

theorem tokens_tag (tag : Tag) (rest : Text) :
    tokens (tag.text ++ rest) = .inl tag :: tokens rest := by
  -- no tag begins another one, so the first tag found is the one in front
  have hfind : (Tag.all.find? fun other => other.text.isPrefixOf (tag.text ++ rest)) = some tag := by
    cases tag <;> rfl
  obtain ⟨w, hw, _⟩ := tag.text_eq_cons
  have hskip : tag.text.length - 1 = w.length := by simp [hw]
  rw [hw, List.cons_append] at hfind
  rw [tokens, hw, List.cons_append, tokensFrom, hfind]
  dsimp only
  rw [hskip, tokensFrom_skip]
  rfl

theorem tokens_char {c : Char} (h : c ≠ '<') (rest : Text) :
    tokens (c :: rest) = .inr c :: tokens rest := by
  have hfind : (Tag.all.find? fun tag => tag.text.isPrefixOf (c :: rest)) = none := by
    apply List.find?_eq_none.mpr
    intro tag _ hp
    obtain ⟨w, hw, _⟩ := tag.text_eq_cons
    rw [hw, List.isPrefixOf_iff_prefix] at hp
    exact h (List.cons_prefix_cons.mp hp).1.symm
  rw [tokens, tokensFrom, hfind]
  rfl

theorem tokens_escape (t rest : Text) :
    tokens (escape t ++ rest) = (escape t).map .inr ++ tokens rest := by
  have hall : ∀ u : Text, '<' ∉ u → tokens (u ++ rest) = u.map .inr ++ tokens rest := by
    intro u hu
    induction u with
    | nil => rfl
    | cons c u ih =>
      rw [List.mem_cons, not_or] at hu
      rw [List.cons_append, tokens_char (Ne.symm hu.1), ih hu.2]
      rfl
  exact hall _ (not_mem_escape t)

/-- The tags and characters that a fragment is written in. -/
def fragmentTokens : Fragment → List (Tag ⊕ Char)
  | .text t => (escape t).map .inr
  | .caret inner => .inl .caret :: (fragmentTokens inner ++ [.inl .endSpan])
  | .context inner => .inl .context :: (fragmentTokens inner ++ [.inl .endSpan])
  | .newline => [.inr '\n']

theorem span_eq {cssClass : Text} {tag : Tag}
    (h : "<span class=\"deadends-".toList ++ cssClass ++ "\">".toList = tag.text)
    (fragment : Text) : span cssClass fragment = tag.text ++ (fragment ++ Tag.endSpan.text) := by
  unfold span
  rw [h, List.append_assoc]
  rfl

theorem write_caret (inner : Fragment) :
    inner.caret.write markup = Tag.caret.text ++ (inner.write markup ++ Tag.endSpan.text) :=
  span_eq (by decide) _

theorem write_context (inner : Fragment) :
    inner.context.write markup = Tag.context.text ++ (inner.write markup ++ Tag.endSpan.text) :=
  span_eq (by decide) _

theorem tokens_write (f : Fragment) (rest : Text) :
    tokens (f.write markup ++ rest) = fragmentTokens f ++ tokens rest := by
  induction f generalizing rest with
  | text t => exact tokens_escape t rest
  | caret inner ih =>
    rw [write_caret, List.append_assoc, tokens_tag, List.append_assoc, ih,
      tokens_tag, fragmentTokens]
    simp
  | context inner ih =>
    rw [write_context, List.append_assoc, tokens_tag, List.append_assoc, ih,
      tokens_tag, fragmentTokens]
    simp
  | newline => exact tokens_char (by decide) rest

theorem tokens_writes (fragments : List Fragment) (rest : Text) :
    tokens ((fragments.map (Fragment.write markup)).flatten ++ rest) =
      fragments.flatMap fragmentTokens ++ tokens rest := by
  induction fragments with
  | nil => rfl
  | cons f fragments ih =>
    rw [List.map_cons, List.flatten_cons, List.append_assoc, tokens_write, ih, List.flatMap_cons,
      List.append_assoc]

theorem tokens_wrap {fragments : List Fragment} (h : fragments ≠ []) :
    tokens (wrap (fragments.map (Fragment.write markup))) =
      .inl .pre :: (fragments.flatMap fragmentTokens ++ [.inl .endPre]) := by
  have hend := tokens_tag .endPre []
  rw [List.append_nil] at hend
  cases fragments with
  | nil => exact absurd rfl h
  | cons f fragments =>
    show tokens (Tag.pre.text ++ _ ++ Tag.endPre.text) = _
    rw [List.append_assoc, tokens_tag, tokens_writes, hend]
    rfl

/-- The characters of a fragment are its text, escaped. -/
theorem characters_fragment (f : Fragment) :
    (fragmentTokens f).filterMap Sum.getRight? = escape (f.write Plain.markup) := by
  have hspan : ∀ (tag stop : Tag) (inner : List (Tag ⊕ Char)),
      (Sum.inl tag :: (inner ++ [Sum.inl stop])).filterMap Sum.getRight? =
        inner.filterMap Sum.getRight? := by
    intro tag stop inner
    rw [List.filterMap_cons_none rfl, List.filterMap_append]
    exact List.append_nil _
  induction f with
  | text t =>
    rw [fragmentTokens, List.filterMap_map]
    exact List.filterMap_some
  | caret inner ih => rw [fragmentTokens, hspan, ih]; rfl
  | context inner ih => rw [fragmentTokens, hspan, ih]; rfl
  | newline => rfl

theorem characters_fragments (fragments : List Fragment) :
    (fragments.flatMap fragmentTokens).filterMap Sum.getRight? =
      escape (fragments.map (Fragment.write Plain.markup)).flatten := by
  rw [List.filterMap_flatMap]
  induction fragments with
  | nil => rfl
  | cons f fragments ih =>
    rw [List.flatMap_cons, characters_fragment, ih, List.map_cons, List.flatten_cons, escape_append]

theorem decode_removeTags_wrap (fragments : List Fragment) :
    decode (removeTags (wrap (fragments.map (Fragment.write markup)))) =
      (fragments.map (Fragment.write Plain.markup)).flatten := by
  by_cases h : fragments = []
  · subst h
    rfl
  · have htokens := tokens_wrap h
    have hchars : removeTags (wrap (fragments.map (Fragment.write markup))) =
        escape (fragments.map (Fragment.write Plain.markup)).flatten := by
      rw [removeTags, htokens, List.filterMap_cons_none rfl, List.filterMap_append,
        characters_fragments]
      exact List.append_nil _
    rw [hchars, decode_escape]

/-- The tags of a fragment stand where it is decorated. -/
theorem tags_fragments (fragments : List Fragment) :
    (fragments.flatMap fragmentTokens).filterMap Sum.getLeft? =
      (fragments.filter Fragment.decorated).flatMap fun f =>
        (fragmentTokens f).filterMap Sum.getLeft? := by
  rw [List.filterMap_flatMap]
  induction fragments with
  | nil => rfl
  | cons f fragments ih =>
    rw [List.flatMap_cons, ih]
    cases f with
    | text t =>
      have hnone : (fragmentTokens (.text t)).filterMap Sum.getLeft? = [] := by
        simp [fragmentTokens, List.filterMap_map, Function.comp_def]
      rw [hnone, List.filter_cons_of_neg (by simp [Fragment.decorated])]
      rfl
    | caret inner => rw [List.filter_cons_of_pos (by rfl), List.flatMap_cons]
    | context inner => rw [List.filter_cons_of_pos (by rfl), List.flatMap_cons]
    | newline => rw [List.filter_cons_of_neg (by decide)]; rfl

/-- What holds of tags, of escaped texts and of one such text behind another holds of a report. -/
theorem wrap_of_parts {P : Text → Prop} (happend : ∀ {t u : Text}, P t → P u → P (t ++ u))
    (htag : ∀ tag : Tag, P tag.text) (htext : ∀ t, P (escape t)) (fragments : List Fragment) :
    P (wrap (fragments.map (Fragment.write markup))) := by
  have hfragment : ∀ f : Fragment, P (f.write markup) := by
    intro f
    induction f with
    | text t => exact htext t
    | caret inner ih =>
      rw [write_caret]
      exact happend (htag .caret) (happend ih (htag .endSpan))
    | context inner ih =>
      rw [write_context]
      exact happend (htag .context) (happend ih (htag .endSpan))
    | newline => exact htext ['\n']
  have hall : P (fragments.map (Fragment.write markup)).flatten := by
    induction fragments with
    | nil => exact htext []
    | cons f fragments ih => exact happend (hfragment f) ih
  cases fragments with
  | nil => exact htext []
  | cons f fragments => exact happend (happend (htag .pre) hall) (htag .endPre)

theorem begins_tag_wrap (fragments : List Fragment) :
    Begins '<' (Tag.all.map Tag.text) (wrap (fragments.map (Fragment.write markup))) :=
  wrap_of_parts Begins.append (fun tag => (begins_tag tag).1)
    (fun t => begins_of_not_mem (not_mem_escape t)) fragments

theorem begins_entity_wrap (fragments : List Fragment) :
    Begins '&' entities (wrap (fragments.map (Fragment.write markup))) :=
  wrap_of_parts Begins.append (fun tag => (begins_tag tag).2) begins_escape fragments

theorem tags_decorations {ε : Type} (x : Extraction ε) (failures : List Failure) :
    ((decorations x failures).flatMap fun f => (fragmentTokens f).filterMap Sum.getLeft?) =
      (positionsOf failures).flatMap fun p =>
        .caret :: .endSpan :: ((stacksAt x failures p).filter (· ≠ [])).flatMap fun _ =>
          [.context, .endSpan] := by
  have hcontext : ∀ t : Text, (fragmentTokens (.context (.text t))).filterMap Sum.getLeft? =
      [.context, .endSpan] := by
    intro t
    simp [fragmentTokens, List.filterMap_map, Function.comp_def]
  unfold decorations
  rw [List.flatMap_assoc]
  apply List.flatMap_congr
  intro p _
  rw [List.flatMap_cons, List.flatMap_map]
  simp only [hcontext]
  rfl

theorem tagsIn_wrap {ε : Type} (x : Extraction ε) (extra : Nat) (source : Text)
    (failures : List Failure) :
    tagsIn (wrap ((filteredReport x failures Fragment.markup extra source).map
      (Fragment.write markup))) = reportTags x failures := by
  have hempty : filteredReport x failures Fragment.markup extra source = [] ↔ failures = [] :=
    filteredReport_eq_nil_iff extra source
  unfold reportTags
  split
  next h =>
    rw [hempty.mpr h]
    rfl
  next h =>
    rw [tagsIn, tokens_wrap (mt hempty.mp h)]
    show Tag.pre :: (_ ++ [_]).filterMap Sum.getLeft? = _
    rw [List.filterMap_append, tags_fragments, filter_filteredReport, tags_decorations]
    rfl

/-- Nothing of a report in HTML comes from its texts but characters: wherever there is a `<`, there
is one of five tags, and wherever there is an `&`, one of three entities. The tags are nested, with a
span for each position and one for each context stack with frames. Without its tags and with its
entities read, the report is the one in plain text, or fails with it. -/
theorem report_reads_plain {ε : Type} (x : Extraction ε) (extra : Nat) (source : Text)
    (failures : List Failure) :
    (Plain.report x extra source failures =
      (report x extra source failures).map fun html => decode (removeTags html)) ∧
    ∀ html, report x extra source failures = .ok html →
      Begins '<' (Tag.all.map Tag.text) html ∧ Begins '&' entities html ∧
      Nested (tagsIn html) ∧ tagsIn html = reportTags x failures ∧
      (html = [] ↔ failures = []) := by
  unfold Plain.report report
  rw [render_write Plain.markup, render_write markup]
  constructor
  · cases render Fragment.markup x extra source failures with
    | error fault => rfl
    | ok fragments => exact congrArg Except.ok (decode_removeTags_wrap fragments).symm
  · intro html h
    cases hr : render Fragment.markup x extra source failures with
    | error fault => rw [hr] at h; cases h
    | ok fragments =>
      rw [hr] at h
      cases Except.ok.inj h
      obtain ⟨_, rfl⟩ := render_eq_ok_iff.mp hr
      have htags := tagsIn_wrap x extra source failures
      have hempty : filteredReport x failures Fragment.markup extra source = [] ↔ failures = [] :=
        filteredReport_eq_nil_iff extra source
      refine ⟨begins_tag_wrap _, begins_entity_wrap _, htags ▸ nested_reportTags x failures,
        htags, ?_⟩
      rw [← hempty]
      cases filteredReport x failures Fragment.markup extra source with
      | nil => simp [wrap]
      | cons f fs => simp [wrap]

/-- A failure whose message and context look like markup. -/
def markedFailures : List Failure :=
  [⟨.endOf [], .custom "&lt;".toList, [⟨.endOf [], "</span>".toList⟩]⟩]

theorem report_reads_plain_marked :
    ∃ html, report Extraction.standard 0 ['<'] markedFailures = .ok html ∧
      Plain.report Extraction.standard 0 ['<'] markedFailures =
        .ok (decode (removeTags html)) ∧
      Begins '<' (Tag.all.map Tag.text) html ∧ Nested (tagsIn html) ∧
      tagsIn html = [.pre, .caret, .endSpan, .context, .endSpan, .endPre] := by
  obtain ⟨html, h⟩ : ∃ html, report Extraction.standard 0 ['<'] markedFailures = .ok html :=
    ⟨_, rfl⟩
  obtain ⟨hplain, hall⟩ := report_reads_plain Extraction.standard 0 ['<'] markedFailures
  obtain ⟨hbegins, _, hnested, htags, _⟩ := hall html h
  rw [h] at hplain
  exact ⟨html, h, hplain, hbegins, hnested, htags.trans (by decide)⟩

end ParseReport.Html
