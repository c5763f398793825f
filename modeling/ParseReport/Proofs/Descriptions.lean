import Mathlib.Data.Char
import Mathlib.Data.Finset.Sort
import Mathlib.Data.List.Lex
import ParseReport.Problem

/-!
The lines that describe the problems of one place depend on two sets of texts only, what is expected
there and what else is said: they are the sentences with one line for all that is expected, sorted.
-/

namespace ParseReport

/-- The lines for a set of expected texts and a set of sentences. -/
def describedBy (expected others : Finset Text) : List Text :=
  (others.val + ((expectingLine? expected.sort).toList : Multiset Text)).sort

theorem insertDistinct_pairwise {t : Text} {us : List Text} (h : us.Pairwise (· < ·)) :
    (insertDistinct t us).Pairwise (· < ·) := by
  induction us with
  | nil => exact List.pairwise_singleton _ _
  | cons u us ih =>
    obtain ⟨hu, hus⟩ := List.pairwise_cons.mp h
    unfold insertDistinct
    split
    next hlt =>
      refine List.pairwise_cons.mpr ⟨?_, h⟩
      intro v hv
      rcases List.mem_cons.mp hv with rfl | hv
      · exact hlt
      · exact hlt.trans (hu v hv)
    next hge =>
      split
      next => exact h
      next hne =>
        refine List.pairwise_cons.mpr ⟨?_, ih hus⟩
        intro v hv
        rcases mem_insertDistinct.mp hv with rfl | hv
        · exact lt_of_le_of_ne (not_lt.mp hge) (Ne.symm hne)
        · exact hu v hv

theorem distinctSorted_pairwise (ts : List Text) : (distinctSorted ts).Pairwise (· < ·) := by
  induction ts with
  | nil => exact .nil
  | cons t ts ih => exact insertDistinct_pairwise ih

/-- Collecting texts each once and in order is sorting the set of them. -/
theorem distinctSorted_eq_sort (ts : List Text) : distinctSorted ts = ts.toFinset.sort := by
  have hs := distinctSorted_pairwise ts
  have hperm : (distinctSorted ts).Perm ts.toFinset.sort := by
    refine (List.perm_ext_iff_of_nodup (hs.imp ne_of_lt) (Finset.sort_nodup _ _)).mpr ?_
    intro t
    rw [mem_distinctSorted, Finset.mem_sort, List.mem_toFinset]
  exact hperm.eq_of_pairwise' (hs.imp le_of_lt) (Finset.pairwise_sort _ _)

theorem insertSorted_pairwise {t : Text} {us : List Text} (h : us.Pairwise (· ≤ ·)) :
    (insertSorted t us).Pairwise (· ≤ ·) := by
  induction us with
  | nil => exact List.pairwise_singleton _ _
  | cons u us ih =>
    obtain ⟨hu, hus⟩ := List.pairwise_cons.mp h
    unfold insertSorted
    split
    next hlt =>
      refine List.pairwise_cons.mpr ⟨?_, ih hus⟩
      intro v hv
      rcases List.mem_cons.mp ((insertSorted_perm t us).mem_iff.mp hv) with rfl | hv
      · exact le_of_lt hlt
      · exact hu v hv
    next hge =>
      refine List.pairwise_cons.mpr ⟨?_, h⟩
      intro v hv
      rcases List.mem_cons.mp hv with rfl | hv
      · exact not_lt.mp hge
      · exact (not_lt.mp hge).trans (hu v hv)

theorem eq_sort_of_pairwise {ts : List Text} {s : Multiset Text} (h : ts.Pairwise (· ≤ ·))
    (hs : (ts : Multiset Text) = s) : ts = s.sort := by
  subst hs
  have hperm : ts.Perm (Multiset.sort ts) := Multiset.coe_eq_coe.mp (Multiset.sort_eq _ _).symm
  exact hperm.eq_of_pairwise' h (Multiset.pairwise_sort _ _)

/-- What a list of problems is described by depends on the two sets of their texts. -/
theorem describe_eq_describedBy (problems : List Classification) :
    describe problems =
      describedBy (problems.filterMap Classification.expected?).toFinset
        (problems.filterMap Classification.other?).toFinset := by
  unfold describe describedBy
  rw [← distinctSorted_eq_sort]
  have hothers : (distinctSorted (problems.filterMap Classification.other?)).Pairwise (· ≤ ·) :=
    (distinctSorted_pairwise _).imp le_of_lt
  have hval : ((distinctSorted (problems.filterMap Classification.other?) : List Text) :
      Multiset Text) = (problems.filterMap Classification.other?).toFinset.val := by
    rw [distinctSorted_eq_sort, Finset.sort_eq]
  dsimp only
  cases expectingLine? (distinctSorted (problems.filterMap Classification.expected?)) with
  | none =>
    refine eq_sort_of_pairwise hothers ?_
    simp [hval]
  | some line =>
    refine eq_sort_of_pairwise (insertSorted_pairwise hothers) ?_
    rw [← hval, Multiset.coe_eq_coe.mpr (insertSorted_perm line _), Option.toList_some,
      Multiset.coe_singleton, ← Multiset.cons_coe, ← Multiset.singleton_add, add_comm]

theorem mem_describedBy {expected others : Finset Text} {line : Text} :
    line ∈ describedBy expected others ↔
      line ∈ others ∨ expectingLine? expected.sort = some line := by
  unfold describedBy
  rw [Multiset.mem_sort, Multiset.mem_add]
  simp [Option.mem_toList]

theorem infix_intercalate {t separator : Text} {ts : List Text} (h : t ∈ ts) :
    t <:+: List.intercalate separator ts := by
  induction ts with
  | nil => cases h
  | cons u us ih =>
    cases us with
    | nil =>
      rw [List.mem_singleton.mp h]
      simp [List.intercalate]
    | cons v vs =>
      rw [List.intercalate_cons_cons]
      rcases List.mem_cons.mp h with rfl | h
      · rw [List.append_assoc]
        exact (List.prefix_append _ _).isInfix
      · exact (ih h).trans (List.suffix_append _ _).isInfix

theorem expectingLine?_of_mem {t : Text} {ts : List Text} (h : t ∈ ts) :
    ∃ line, expectingLine? ts = some line ∧ t <:+: line := by
  match ts with
  | [u] =>
    rw [List.mem_singleton.mp h]
    exact ⟨_, rfl, (List.suffix_append _ _).isInfix⟩
  | u :: v :: vs =>
    exact ⟨_, rfl, (infix_intercalate h).trans (List.suffix_append _ _).isInfix⟩

/-- Each expected text stands in one of the lines. -/
theorem exists_line_of_mem_expected {expected others : Finset Text} {t : Text} (h : t ∈ expected) :
    ∃ line ∈ describedBy expected others, t <:+: line := by
  obtain ⟨line, hl, ht⟩ := expectingLine?_of_mem ((Finset.mem_sort (· ≤ ·)).mpr h)
  exact ⟨line, mem_describedBy.mpr (.inr hl), ht⟩

end ParseReport
