import ParseReport.Proofs.Descriptions
import ParseReport.Proofs.Phrases
import ParseReport.Text.Lines

/-!
The line that tells what is expected. Its texts are joined by commas with blanks, which may stand in
a literal too; a reader that knows when it is inside of a literal parts the line into exactly the
texts that it was joined from.
-/

namespace ParseReport

namespace Literal

/-- Where a reader of literals is: outside of them, inside of one, or behind a backslash in one. -/
inductive Place
  | outside
  | inside
  | escaped
deriving DecidableEq, Repr

/-- The place behind a character. -/
def Place.next : Place → Char → Place
  | .outside, c => if c = '"' then .inside else .outside
  | .inside, c => if c = '"' then .outside else if c = '\\' then .escaped else .inside
  | .escaped, _ => .inside

end Literal

open Literal

/-- The parts of a text between commas with blanks, as long as these are outside of literals. -/
def splitFrom : Place → Text → List Text
  | _, [] => [[]]
  | .outside, ',' :: ' ' :: rest => [] :: splitFrom .outside rest
  | place, c :: rest => extendFirst c (splitFrom (place.next c) rest)

/-- The texts that a line tells to be expected. -/
def toldExpected? (line : Text) : Option (List Text) :=
  match stripStart? "Expecting one of ".toList line with
  | some texts => some (splitFrom .outside texts)
  | none => (stripStart? "Expecting ".toList line).map fun text => [text]

theorem splitFrom_char {place : Place} {c : Char} (h : place ≠ .outside ∨ c ≠ ',') (rest : Text) :
    splitFrom place (c :: rest) = extendFirst c (splitFrom (place.next c) rest) := by
  rw [splitFrom]
  intro _ hplace hc _
  exact h.elim (absurd hplace) (absurd hc)

theorem splitFrom_comma (rest : Text) :
    splitFrom .outside (", ".toList ++ rest) = [] :: splitFrom .outside rest := by
  rw [show ", ".toList = [',', ' '] from rfl, List.cons_append, List.cons_append, List.nil_append,
    splitFrom]

/-- A text is read from one place to another without being parted, whatever follows it. -/
def ReadsOn (place : Place) (t : Text) (after : Place) : Prop :=
  ∀ rest, splitFrom place (t ++ rest) = t.foldr extendFirst (splitFrom after rest)

theorem ReadsOn.append {place next after : Place} {a b : Text} (ha : ReadsOn place a next)
    (hb : ReadsOn next b after) : ReadsOn place (a ++ b) after := by
  intro rest
  rw [List.append_assoc, ha, hb, List.foldr_append]

theorem ReadsOn.cons {place after : Place} {c : Char} {t : Text}
    (hc : place ≠ .outside ∨ c ≠ ',') (ht : ReadsOn (place.next c) t after) :
    ReadsOn place (c :: t) after := by
  intro rest
  rw [List.cons_append, splitFrom_char hc, ht, List.foldr_cons]

theorem readsOn_nil (place : Place) : ReadsOn place [] place :=
  fun _ => rfl

/-- Characters behind which the reader is where it was are read on, with no comma outside. -/
theorem readsOn_of_next {place : Place} {t : Text}
    (h : ∀ c ∈ t, (place ≠ .outside ∨ c ≠ ',') ∧ place.next c = place) : ReadsOn place t place := by
  induction t with
  | nil => exact readsOn_nil _
  | cons c t ih =>
    obtain ⟨hc, hnext⟩ := h c List.mem_cons_self
    refine .cons hc ?_
    rw [hnext]
    exact ih fun d hd => h d (List.mem_cons_of_mem c hd)

theorem readsOn_inside {t : Text} (hq : '"' ∉ t) (hb : '\\' ∉ t) : ReadsOn .inside t .inside := by
  apply readsOn_of_next
  intro c hc
  have hquote := ne_of_mem_of_not_mem hc hq
  have hbackslash := ne_of_mem_of_not_mem hc hb
  exact ⟨.inl (by decide), by simp [Place.next, hquote, hbackslash]⟩

theorem readsOn_outside {t : Text} (hq : '"' ∉ t) (hc : ',' ∉ t) : ReadsOn .outside t .outside := by
  apply readsOn_of_next
  intro c hmem
  have hquote := ne_of_mem_of_not_mem hmem hq
  exact ⟨.inr (ne_of_mem_of_not_mem hmem hc), by simp [Place.next, hquote]⟩

theorem readsOn_encodeChar (c : Char) : ReadsOn .inside (encodeChar c) .inside := by
  rcases encodeChar_cases c with ⟨d, rest, he, hq, hb⟩ | ⟨he, hq, hb⟩
  · rw [he]
    refine .cons (.inl (by decide)) (.cons (.inl (by decide)) ?_)
    exact readsOn_inside hq hb
  · rw [he]
    apply readsOn_inside
    · simpa using Ne.symm hq
    · simpa using Ne.symm hb

/-- A literal is read as a whole. -/
theorem readsOn_encode (t : Text) : ReadsOn .outside (encode t) .outside := by
  have hbody : ReadsOn .inside (t.flatMap encodeChar) .inside := by
    induction t with
    | nil => exact readsOn_nil _
    | cons c t ih =>
      rw [List.flatMap_cons]
      exact (readsOn_encodeChar c).append ih
  refine .cons (.inr (by decide)) (hbody.append ?_)
  exact .cons (.inl (by decide)) (readsOn_nil _)

theorem foldr_extendFirst (t line : Text) (lines : List Text) :
    t.foldr extendFirst (line :: lines) = (t ++ line) :: lines := by
  induction t with
  | nil => rfl
  | cons c t ih =>
    rw [List.foldr_cons, ih]
    rfl

/-- Texts that are read as a whole are the parts of the text that they are joined to. -/
theorem splitFrom_intercalate {ts : List Text} (hne : ts ≠ [])
    (h : ∀ t ∈ ts, ReadsOn .outside t .outside) :
    splitFrom .outside (List.intercalate ", ".toList ts) = ts := by
  induction ts with
  | nil => exact absurd rfl hne
  | cons t ts ih =>
    have ht := h t List.mem_cons_self
    cases ts with
    | nil =>
      have hparts := ht []
      rw [List.append_nil, splitFrom, foldr_extendFirst, List.append_nil] at hparts
      rw [List.intercalate_singleton, hparts]
    | cons u us =>
      have hrest := ih (List.cons_ne_nil u us) fun v hv => h v (List.mem_cons_of_mem t hv)
      rw [List.intercalate_cons_cons, List.append_assoc, ht, splitFrom_comma, hrest,
        foldr_extendFirst, List.append_nil]

/-- The phrases of what is expected that are no literals. -/
def fixedPhrases : List Text :=
  ["an integer".toList, "an hexadecimal number".toList, "an octal number".toList,
    "a binary number".toList, "a floating point number".toList, "a number".toList,
    "a variable".toList, "the end".toList]

section

variable {problem : Problem} {t : Text}

theorem expected_cases (h : problem.classify = .ok (.expected t)) :
    (∃ u, t = encode u) ∨ t ∈ fixedPhrases := by
  cases problem with
  | expecting u => cases h; exact .inl ⟨u, rfl⟩
  | expectingSymbol u => cases h; exact .inl ⟨u, rfl⟩
  | expectingKeyword u => cases h; exact .inl ⟨u, rfl⟩
  | unexpectedChar => cases h
  | custom message => cases h
  | badRepeat => cases h
  | unknown value => cases h
  | _ => cases h; exact .inr (by decide)

theorem readsOn_expected (h : problem.classify = .ok (.expected t)) :
    ReadsOn .outside t .outside := by
  have hfixed : ∀ u ∈ fixedPhrases, '"' ∉ u ∧ ',' ∉ u := by decide
  rcases expected_cases h with ⟨u, rfl⟩ | hmem
  · exact readsOn_encode u
  · exact readsOn_outside (hfixed t hmem).1 (hfixed t hmem).2

/-- No phrase looks like the rest of the beginning of a line for several ones. -/
theorem expected_head? (h : problem.classify = .ok (.expected t)) : t.head? ≠ some 'o' := by
  have hfixed : ∀ u ∈ fixedPhrases, u.head? ≠ some 'o' := by decide
  rcases expected_cases h with ⟨u, rfl⟩ | hmem
  · exact fun he => absurd (Option.some.inj he) (by decide)
  · exact hfixed t hmem

end

theorem expectingLine?_cases {ts : List Text} (hne : ts ≠ []) :
    (∃ t, ts = [t] ∧ expectingLine? ts = some ("Expecting ".toList ++ t)) ∨
      (2 ≤ ts.length ∧ expectingLine? ts =
        some ("Expecting one of ".toList ++ List.intercalate ", ".toList ts)) := by
  match ts with
  | [t] => exact .inl ⟨t, rfl, rfl⟩
  | t :: u :: ts => exact .inr ⟨by simp, rfl⟩

/-- A line for several texts is not the line for one. -/
theorem not_several_of_head? {t : Text} (h : t.head? ≠ some 'o') :
    ¬"Expecting one of ".toList <+: "Expecting ".toList ++ t := by
  rintro ⟨rest, he⟩
  have hbegin : "Expecting one of ".toList = "Expecting ".toList ++ 'o' :: "ne of ".toList := rfl
  rw [hbegin, List.append_assoc] at he
  have ht := List.append_cancel_left he
  rw [← ht] at h
  exact h rfl

/-- The line for expected texts tells them, and it begins as a line for several texts exactly if
there are several. -/
theorem expectingLine?_told {ts : List Text} (hne : ts ≠ [])
    (h : ∀ t ∈ ts, ∃ problem : Problem, problem.classify = .ok (.expected t)) :
    ∃ line, expectingLine? ts = some line ∧ toldExpected? line = some ts ∧
      ("Expecting one of ".toList <+: line ↔ 2 ≤ ts.length) := by
  rcases expectingLine?_cases hne with ⟨t, rfl, hline⟩ | ⟨hlength, hline⟩
  · obtain ⟨problem, ht⟩ := h t List.mem_cons_self
    have hone := not_several_of_head? (expected_head? ht)
    have hstrip : stripStart? "Expecting ".toList ("Expecting ".toList ++ t) = some t :=
      stripStart?_eq_some.mpr rfl
    refine ⟨_, hline, ?_, iff_of_false hone (by simp)⟩
    rw [toldExpected?, stripStart?_eq_none_iff.mpr hone, hstrip]
    rfl
  · have hstrip : stripStart? "Expecting one of ".toList
        ("Expecting one of ".toList ++ List.intercalate ", ".toList ts) =
        some (List.intercalate ", ".toList ts) := stripStart?_eq_some.mpr rfl
    have hparts : splitFrom .outside (List.intercalate ", ".toList ts) = ts := by
      apply splitFrom_intercalate hne
      intro t ht
      obtain ⟨problem, hproblem⟩ := h t ht
      exact readsOn_expected hproblem
    refine ⟨_, hline, ?_, iff_of_true (List.prefix_append _ _) hlength⟩
    rw [toldExpected?, hstrip]
    exact congrArg some hparts

theorem describe_expected (ts : List Text) :
    describe (ts.map .expected) = (expectingLine? (distinctSorted ts)).toList := by
  have hexpected : (ts.map Classification.expected).filterMap Classification.expected? = ts := by
    rw [List.filterMap_map]
    exact List.filterMap_some
  have hother : (ts.map Classification.expected).filterMap Classification.other? = [] := by
    rw [List.filterMap_map]
    exact List.filterMap_none ts
  unfold describe
  rw [hexpected, hother]
  cases expectingLine? (distinctSorted ts) <;> rfl

/-- Problems that are phrased as expectations are described by one line, which tells their texts. -/
theorem describe_told {problems : List Problem} {ts : List Text} (hne : problems ≠ [])
    (h : problems.mapM Problem.classify = .ok (ts.map .expected)) :
    ∃ line, describe (ts.map .expected) = [line] ∧ toldExpected? line = some ts.toFinset.sort ∧
      ("Expecting one of ".toList <+: line ↔ 2 ≤ ts.toFinset.card) := by
  have hts : ts ≠ [] := by simpa using ne_nil_of_mapM_eq_ok h hne
  obtain ⟨t, ht⟩ := List.exists_mem_of_ne_nil ts hts
  have hphrases : ∀ u ∈ distinctSorted ts,
      ∃ problem : Problem, problem.classify = .ok (.expected u) := by
    intro u hu
    have hmem := List.mem_map_of_mem (f := Classification.expected) (mem_distinctSorted.mp hu)
    obtain ⟨problem, _, hp⟩ := exists_of_mem_mapM_eq_ok h _ hmem
    exact ⟨problem, hp⟩
  obtain ⟨line, hsome, htold, hseveral⟩ :=
    expectingLine?_told (List.ne_nil_of_mem (mem_distinctSorted.mpr ht)) hphrases
  rw [distinctSorted_eq_sort] at htold hseveral
  rw [Finset.length_sort] at hseveral
  refine ⟨line, ?_, htold, hseveral⟩
  rw [describe_expected, hsome]
  rfl

/-- The line for problems that are phrased as expectations tells the set of their texts: a reader
parts it into exactly the distinct texts, in ascending order, from which it was joined, and it begins
as a line for several texts exactly if there are several. So problems that are described by the same
line have the same set of texts. -/
theorem expecting_line_tells_texts {problems others : List Problem} {ts us : List Text}
    (hne : problems ≠ []) (hne' : others ≠ [])
    (h : problems.mapM Problem.classify = .ok (ts.map .expected))
    (h' : others.mapM Problem.classify = .ok (us.map .expected)) :
    (∃ line, describe (ts.map .expected) = [line] ∧
      toldExpected? line = some ts.toFinset.sort ∧
      ("Expecting one of ".toList <+: line ↔ 2 ≤ ts.toFinset.card)) ∧
    (describe (ts.map .expected) = describe (us.map .expected) → ts.toFinset = us.toFinset) := by
  refine ⟨describe_told hne h, ?_⟩
  intro hsame
  obtain ⟨line, hdescribe, htold, _⟩ := describe_told hne h
  obtain ⟨line', hdescribe', htold', _⟩ := describe_told hne' h'
  rw [hdescribe, hdescribe'] at hsame
  cases hsame
  have hsorted : ts.toFinset.sort = us.toFinset.sort := Option.some.inj (htold.symm.trans htold')
  ext t
  rw [← Finset.mem_sort (· ≤ ·), hsorted, Finset.mem_sort]

/-- A comma and the words for several texts inside of a literal part no line: a literal with both is
read back, beside an integer, from problems in two orders. -/
theorem expecting_line_tells_texts_comma :
    ∃ line,
      describe (["an integer".toList, encode "one of \", \"".toList].map .expected) = [line] ∧
      toldExpected? line = some [encode "one of \", \"".toList, "an integer".toList] ∧
      [encode "one of \", \"".toList, "an integer".toList].toFinset =
        ["an integer".toList, encode "one of \", \"".toList].toFinset := by
  have hfirst : [Problem.expectingInt, .expecting "one of \", \"".toList].mapM Problem.classify =
      .ok (["an integer".toList, encode "one of \", \"".toList].map .expected) := rfl
  have hsecond : [Problem.expectingSymbol "one of \", \"".toList, .expectingInt].mapM
      Problem.classify = .ok ([encode "one of \", \"".toList, "an integer".toList].map .expected) :=
    rfl
  obtain ⟨⟨line, hdescribe, htold, _⟩, hsame⟩ := expecting_line_tells_texts
    (List.cons_ne_nil _ _) (List.cons_ne_nil _ _) hfirst hsecond
  refine ⟨line, hdescribe, ?_, ?_⟩
  · rw [htold, ← distinctSorted_eq_sort]
    decide
  · exact (hsame (by decide)).symm

end ParseReport
