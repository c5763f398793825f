import ParseReport.Proofs.ExpectingLines

/-!
Which lines describe the problems of one place, and how often each stands there: each sentence once,
and one line for all that is expected. That line is not compared with the sentences, so a sentence
that is phrased as this line stands beside it.
-/

namespace ParseReport

/-- The texts that are expected according to the phrases of problems. -/
def expectedTexts (problems : List Classification) : Finset Text :=
  (problems.filterMap Classification.expected?).toFinset

/-- The sentences among the phrases of problems. -/
def sentences (problems : List Classification) : Finset Text :=
  (problems.filterMap Classification.other?).toFinset

/-- A line tells of a set of expected texts: of one by itself, of several in ascending order. -/
inductive TellsExpected : Finset Text → Text → Prop
  | one (t : Text) : TellsExpected {t} ("Expecting ".toList ++ t)
  | several {ts : Finset Text} : 2 ≤ ts.card →
      TellsExpected ts ("Expecting one of ".toList ++ List.intercalate ", ".toList ts.sort)

section

variable {problems others : List Classification} {ts : Finset Text} {t line : Text}

theorem mem_expectedTexts : t ∈ expectedTexts problems ↔ .expected t ∈ problems := by
  simp [expectedTexts, List.mem_filterMap, Classification.expected?_eq_some_iff]

theorem mem_sentences : t ∈ sentences problems ↔ .other t ∈ problems := by
  simp [sentences, List.mem_filterMap, Classification.other?_eq_some_iff]

theorem tellsExpected_iff : TellsExpected ts line ↔ expectingLine? ts.sort = some line := by
  constructor
  · intro h
    cases h with
    | one t => rw [Finset.sort_singleton]; rfl
    | several hcard =>
      have hne : ts.sort ≠ [] := by
        rw [← List.length_pos_iff, Finset.length_sort]
        omega
      rcases expectingLine?_cases hne with ⟨t, ht, _⟩ | ⟨_, hline⟩
      · have hlen := congrArg List.length ht
        rw [Finset.length_sort, List.length_singleton] at hlen
        omega
      · exact hline
  · intro h
    have hne : ts.sort ≠ [] := by
      intro hnil
      rw [hnil] at h
      cases h
    rcases expectingLine?_cases hne with ⟨t, ht, hline⟩ | ⟨hlen, hline⟩
    · cases Option.some.inj (hline.symm.trans h)
      have hone : ts = {t} := by
        rw [← Finset.sort_toFinset ts (· ≤ ·), ht]
        rfl
      rw [hone]
      exact .one t
    · cases Option.some.inj (hline.symm.trans h)
      rw [Finset.length_sort] at hlen
      exact .several hlen

theorem TellsExpected.ne_empty (h : TellsExpected ts line) : ts ≠ ∅ := by
  rintro rfl
  have hline := tellsExpected_iff.mp h
  rw [Finset.sort_empty] at hline
  cases hline

theorem exists_tellsExpected (h : ts ≠ ∅) : ∃ line, TellsExpected ts line := by
  have hne : ts.sort ≠ [] := by
    rw [← List.length_pos_iff, Finset.length_sort]
    exact Finset.card_pos.mpr (Finset.nonempty_iff_ne_empty.mpr h)
  rcases expectingLine?_cases hne with ⟨_, _, hline⟩ | ⟨_, hline⟩
  · exact ⟨_, tellsExpected_iff.mpr hline⟩
  · exact ⟨_, tellsExpected_iff.mpr hline⟩

theorem describe_pairwise (problems : List Classification) :
    (describe problems).Pairwise (· ≤ ·) := by
  rw [describe_eq_describedBy]
  exact Multiset.pairwise_sort _ _

/-- The lines are the sentences and, if something is expected, the line that tells so. -/
theorem describe_coe (problems : List Classification) :
    (describe problems : Multiset Text) = (sentences problems).val +
      ((expectingLine? (expectedTexts problems).sort).toList : Multiset Text) := by
  rw [describe_eq_describedBy]
  exact Multiset.sort_eq _ _

theorem describe_of_nothing_expected (h : expectedTexts problems = ∅) :
    (describe problems : Multiset Text) = (sentences problems).val := by
  rw [describe_coe, h, Finset.sort_empty]
  exact add_zero _

theorem describe_of_tells (h : TellsExpected (expectedTexts problems) line) :
    (describe problems : Multiset Text) = line ::ₘ (sentences problems).val := by
  rw [describe_coe, tellsExpected_iff.mp h, Option.toList_some, Multiset.coe_singleton, add_comm]
  exact Multiset.singleton_add _ _

/-- Neither order nor repetition of the problems matters. -/
theorem describe_congr (h : ∀ c, c ∈ others ↔ c ∈ problems) :
    describe others = describe problems := by
  have hexpected : expectedTexts others = expectedTexts problems := by
    ext t
    rw [mem_expectedTexts, mem_expectedTexts, h]
  have hsentences : sentences others = sentences problems := by
    ext t
    rw [mem_sentences, mem_sentences, h]
  rw [describe_eq_describedBy, describe_eq_describedBy]
  exact congrArg₂ describedBy hexpected hsentences

theorem count_sentences_eq_one_iff :
    (sentences problems).val.count line = 1 ↔ .other line ∈ problems := by
  rw [← mem_sentences, Finset.mem_def, ← Multiset.one_le_count_iff_mem]
  have hle := Multiset.nodup_iff_count_le_one.mp (sentences problems).nodup line
  omega

theorem count_told_eq_one_iff :
    ((expectingLine? ts.sort).toList : Multiset Text).count line = 1 ↔ TellsExpected ts line := by
  rw [tellsExpected_iff]
  cases expectingLine? ts.sort with
  | none => simp
  | some told => simp [Multiset.count_singleton, eq_comm]

/-- Only a sentence that is phrased as the line for all that is expected stands twice. -/
theorem count_describe (problems : List Classification) (line : Text) :
    (describe problems : Multiset Text).count line ≤ 2 ∧
    ((describe problems : Multiset Text).count line = 2 ↔
      TellsExpected (expectedTexts problems) line ∧ .other line ∈ problems) := by
  have hsentence := Multiset.nodup_iff_count_le_one.mp (sentences problems).nodup line
  have htold : ((expectingLine? (expectedTexts problems).sort).toList : Multiset Text).count line
      ≤ 1 := by
    cases expectingLine? (expectedTexts problems).sort with
    | none => exact Nat.zero_le 1
    | some told => exact Multiset.nodup_iff_count_le_one.mp (Multiset.nodup_singleton told) line
  rw [describe_coe, Multiset.count_add, ← count_sentences_eq_one_iff, ← count_told_eq_one_iff]
  omega

theorem describe_nodup_iff :
    (describe problems).Nodup ↔
      ∀ line, TellsExpected (expectedTexts problems) line → .other line ∉ problems := by
  rw [← Multiset.coe_nodup, Multiset.nodup_iff_count_le_one]
  constructor
  · intro h line htold hother
    have htwice := (count_describe problems line).2.mpr ⟨htold, hother⟩
    have hle := h line
    omega
  · intro h line
    obtain ⟨hle, htwice⟩ := count_describe problems line
    have hnot : ¬(TellsExpected (expectedTexts problems) line ∧ .other line ∈ problems) :=
      fun hboth => h line hboth.1 hboth.2
    have hne := mt htwice.mp hnot
    omega

end

/-- The lines that describe problems ascend. They are the distinct sentences and, if something is
expected, one line more, which tells of one expected text by itself and of several in ascending
order. They stay the same if the problems are reordered, if one of them is repeated anywhere, and if
the whole list is. -/
theorem describe_sorts_sets (problems : List Classification) :
    (describe problems).Pairwise (· ≤ ·) ∧
    (describe problems).length =
      (sentences problems).card + (if expectedTexts problems = ∅ then 0 else 1) ∧
    ((expectedTexts problems = ∅ ∧
        (describe problems : Multiset Text) = (sentences problems).val) ∨
      ∃ line, TellsExpected (expectedTexts problems) line ∧
        (describe problems : Multiset Text) = line ::ₘ (sentences problems).val) ∧
    (∀ t, (t ∈ sentences problems ↔ .other t ∈ problems) ∧
      (t ∈ expectedTexts problems ↔ .expected t ∈ problems)) ∧
    (∀ others : List Classification, others.Perm problems → describe others = describe problems) ∧
    (∀ c ∈ problems, ∀ others : List Classification, others.Perm (c :: problems) →
      describe others = describe problems) ∧
    describe (problems ++ problems) = describe problems := by
  have hlines : (expectedTexts problems = ∅ ∧
      (describe problems : Multiset Text) = (sentences problems).val) ∨
      ∃ line, TellsExpected (expectedTexts problems) line ∧
        (describe problems : Multiset Text) = line ::ₘ (sentences problems).val := by
    by_cases hnone : expectedTexts problems = ∅
    · exact .inl ⟨hnone, describe_of_nothing_expected hnone⟩
    · obtain ⟨line, hline⟩ := exists_tellsExpected hnone
      exact .inr ⟨line, hline, describe_of_tells hline⟩
  refine ⟨describe_pairwise problems, ?_, hlines, fun t => ⟨mem_sentences, mem_expectedTexts⟩,
    fun others h => describe_congr fun c => h.mem_iff, ?_, describe_congr fun c => by simp⟩
  · rw [← Multiset.coe_card]
    rcases hlines with ⟨hnone, hcoe⟩ | ⟨line, hline, hcoe⟩
    · rw [hcoe, if_pos hnone]
      rfl
    · rw [hcoe, if_neg hline.ne_empty, Multiset.card_cons]
      rfl
  · intro c hc others h
    refine describe_congr fun d => ?_
    rw [h.mem_iff, List.mem_cons]
    exact or_iff_right_of_imp fun he => he ▸ hc

/-- Problems of which one text is expected, is a sentence, and is a sentence once more; another
sentence is phrased as the line for one expected text. -/
def mixedProblems : List Classification :=
  [.other "b".toList, .expected "b".toList, .other "Expecting a".toList, .expected "a".toList,
    .other "b".toList]

/-- The lines for these problems, also from behind and with one of the expected texts repeated. -/
theorem describe_sorts_sets_mixed :
    Classification.expected "a".toList ∈ mixedProblems ∧
    (mixedProblems.reverse ++ [Classification.expected "a".toList]).Perm
      (.expected "a".toList :: mixedProblems) ∧
    describe (mixedProblems.reverse ++ [Classification.expected "a".toList]) =
      ["Expecting a".toList, "Expecting one of a, b".toList, "b".toList] := by
  obtain ⟨_, _, _, _, _, hrepeated, _⟩ := describe_sorts_sets mixedProblems
  have hmem : Classification.expected "a".toList ∈ mixedProblems := by decide
  have hperm : (mixedProblems.reverse ++ [Classification.expected "a".toList]).Perm
      (.expected "a".toList :: mixedProblems) := by decide
  refine ⟨hmem, hperm, ?_⟩
  rw [hrepeated _ hmem _ hperm]
  decide

/-- The lines that describe problems ascend strictly, each line once, exactly if no sentence is
phrased as the line for what is expected; otherwise this line stands twice and every other one
once. -/
theorem description_lines_distinct_iff (problems : List Classification) :
    ((describe problems).Pairwise (· < ·) ↔
      ∀ line, TellsExpected (expectedTexts problems) line → .other line ∉ problems) ∧
    ∀ line, (describe problems : Multiset Text).count line ≤ 2 ∧
      ((describe problems : Multiset Text).count line = 2 ↔
        TellsExpected (expectedTexts problems) line ∧ .other line ∈ problems) := by
  refine ⟨?_, count_describe problems⟩
  rw [← describe_nodup_iff]
  constructor
  · exact fun h => h.imp ne_of_lt
  · exact fun h => (describe_pairwise problems).imp₂ (fun _ _ hle hne => lt_of_le_of_ne hle hne) h

/-- A sentence that is phrased as the line for one text stands beside the line for two. -/
theorem description_lines_distinct_mixed :
    (∀ line, TellsExpected (expectedTexts mixedProblems) line → .other line ∉ mixedProblems) ∧
    (describe mixedProblems).Pairwise (· < ·) := by
  have hdistinct : ∀ line, TellsExpected (expectedTexts mixedProblems) line →
      .other line ∉ mixedProblems := by
    intro line hline
    have htold : expectingLine? (expectedTexts mixedProblems).sort =
        some "Expecting one of a, b".toList := by
      rw [expectedTexts, ← distinctSorted_eq_sort]
      rfl
    cases Option.some.inj (htold.symm.trans (tellsExpected_iff.mp hline))
    decide
  exact ⟨hdistinct, (description_lines_distinct_iff mixedProblems).1.mpr hdistinct⟩

/-- Two problems with the phrases of known ones, of which the second is a message phrased as the
line for the first: the line stands twice. -/
theorem expecting_line_repeated :
    [Problem.expectingNumber, .custom "Expecting a number".toList].mapM Problem.classify =
      .ok [.expected "a number".toList, .other "Expecting a number".toList] ∧
    describe [.expected "a number".toList, .other "Expecting a number".toList] =
      ["Expecting a number".toList, "Expecting a number".toList] ∧
    ¬(describe [.expected "a number".toList, .other "Expecting a number".toList]).Pairwise
      (· < ·) := by
  have hlines : describe [.expected "a number".toList, .other "Expecting a number".toList] =
      ["Expecting a number".toList, "Expecting a number".toList] := by decide
  refine ⟨rfl, hlines, ?_⟩
  rw [hlines]
  exact fun h => lt_irrefl _ ((List.pairwise_cons.mp h).1 _ List.mem_cons_self)

end ParseReport
