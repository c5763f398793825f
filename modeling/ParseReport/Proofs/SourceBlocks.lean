import ParseReport.Proofs.Grouping
import ParseReport.Proofs.Limits
import ParseReport.Proofs.Phrases
import ParseReport.Proofs.Positions
import ParseReport.Report.Plain
import ParseReport.Session

/-!
The report of recorded errors: a source block for each of them, and the number of them in the
summary.
-/

namespace ParseReport

section

variable {Out : Type} (m : Markup Out)

/-- The part of a report for one error. -/
def errorPart (v : Vocabulary) (extra : Nat) (source : Text) (e : ParseError) : List Out :=
  sourceBlock m extra source.numberedLines (e.position source) ++
    m.newline :: (describe (e.phrases v)).flatMap (descriptionLine m)

theorem contextPart_failures (v : Vocabulary) (source : Text) (e : ParseError) :
    contextPart m .standard ([], e.failures source v) =
      .ok ((describe (e.phrases v)).flatMap (descriptionLine m)) := by
  have hc : (e.failures source v).mapM (fun failure => failure.problem.classify) =
      .ok (e.phrases v) := by
    rw [mapM_eq_ok_filterMap]
    · unfold ParseError.failures ParseError.phrases
      rw [List.filterMap_map]
      rfl
    · intro failure hf
      obtain ⟨problem, hp, rfl⟩ := List.mem_map.mp hf
      exact problems_classified e v problem hp
  unfold contextPart
  rw [show Extraction.standard.classify = Problem.classify from rfl, hc]
  rfl

/-- The failures of one error are in one part, for they have no contexts. -/
theorem positionPart_failures (v : Vocabulary) (extra : Nat) (source : Text) (e : ParseError) :
    positionPart m .standard extra source.numberedLines
      (e.position source, e.failures source v) = .ok (errorPart m v extra source e) := by
  have hg : groupBy Extraction.standard.contexts (e.failures source v) =
      [([], e.failures source v)] :=
    foldl_addToGroup_block (failures_ne_nil e source v) (fun failure hf => (failures_mem hf).2)
      (by simp)
  unfold positionPart errorPart
  rw [hg, mapM_eq_ok (g := fun _ => (describe (e.phrases v)).flatMap (descriptionLine m))]
  · simp
  · intro group hgroup
    rw [List.mem_singleton.mp hgroup]
    exact contextPart_failures m v source e

/-- Errors with different positions have one part each in the report of their failures. -/
theorem render_failures (v : Vocabulary) (extra : Nat) (source : Text) {errors : List ParseError}
    (hd : (errors.map (ParseError.position · source)).Nodup) :
    render m .standard extra source (errors.flatMap (ParseError.failures · source v)) =
      .ok (List.intercalate [m.newline] (errors.map (errorPart m v extra source))) := by
  have hg : groupBy Failure.position (errors.flatMap (ParseError.failures · source v)) =
      errors.map fun e => (e.position source, e.failures source v) :=
    groupBy_flatMap (fun e _ => failures_ne_nil e source v)
      (fun e _ failure hf => (failures_mem hf).1) hd
  have hparts : errors.mapM (positionPart m .standard extra source.numberedLines ∘ fun e =>
      (e.position source, e.failures source v)) =
      .ok (errors.map (errorPart m v extra source)) :=
    mapM_eq_ok fun e _ => positionPart_failures m v extra source e
  unfold render
  rw [hg, List.mapM_map, hparts]
  rfl

end

theorem positions_distinct (v : Vocabulary) (source : Text) {errors : List ParseError}
    (hd : (errors.map (ParseError.position · source)).Nodup) :
    distinct ((errors.flatMap (ParseError.failures · source v)).map Failure.position) =
      errors.map (ParseError.position · source) := by
  rw [List.map_flatMap]
  refine distinct_flatMap ?_ ?_ hd
  · intro e _
    simp [failures_ne_nil]
  · intro e _ p hp
    obtain ⟨failure, hf, rfl⟩ := List.mem_map.mp hp
    exact (failures_mem hf).1

/-- The recorded errors of a text have positions that increase by row and column, also where the last
one is about the end of the text, and they are no more than the limit. So, unless the tables are
flawed, there is a report of their failures, in any markup: one source block with its descriptions
for each of them; and the summary counts them. -/
theorem recorded_errors_reported (t : Table) (v : Vocabulary) (limit : Int) (h : 1 ≤ limit)
    (source : Text) :
    ((t.recorded limit source).map fun e => e.error.position source).Pairwise (· < ·) ∧
    (t.recorded limit source).length ≤ limit ∧
    ((∀ flaw, (t.recover limit source).2 ≠ .broken flaw) →
      ∃ failures, (Grammar.mk v (.table t)).failures limit source = .ok failures ∧
        (∀ (Out : Type) (m : Markup Out) (extra : Nat),
          render m .standard extra source failures = .ok (List.intercalate [m.newline]
            ((t.recorded limit source).map fun e => errorPart m v extra source e.error))) ∧
        ∀ path : FilePath, Session.summary path failures =
          "Found ".toList ++ decimal (t.recorded limit source).length ++ " dead end".toList ++
            (if (t.recorded limit source).length = 1 then [] else ['s']) ++ " in ".toList ++
            path.text) := by
  have hinc : ((t.recorded limit source).map fun e => e.error.position source).Pairwise (· < ·) :=
    (positions_increase t limit source).sublist (List.filter_sublist.map _)
  refine ⟨hinc, recorded_length_le t source h, ?_⟩
  intro hsound
  have hd : (((t.recorded limit source).map Incident.error).map
      (ParseError.position · source)).Nodup := by
    rw [List.map_map]
    refine List.Pairwise.imp ?_ hinc
    intro p q hlt he
    subst he
    exact lt_irrefl p.key hlt
  have hall : ((t.recorded limit source).map Incident.error).flatMap
      (ParseError.failures · source v) =
      (t.recorded limit source).flatMap (fun e => e.error.failures source v) :=
    List.flatMap_map ..
  refine ⟨_, failures_eq_ok_iff.mpr ⟨hsound, rfl⟩, ?_, ?_⟩
  · intro Out m extra
    rw [← hall, render_failures m v extra source hd, List.map_map]
    rfl
  · intro path
    unfold Session.summary
    rw [← hall, positions_distinct v source hd, List.length_map, List.length_map]

/-- In `b\ra` there is one error in the first row and another one, the end of the text, in the
second. -/
theorem recorded_pairs_reported :
    (1 : Int) ≤ 5 ∧ (∀ flaw, (pairTable.recover 5 ['b', '\r', 'a']).2 ≠ .broken flaw) ∧
    (pairTable.recorded 5 ['b', '\r', 'a']).length = 2 ∧
    ∃ failures, (Grammar.mk {} (.table pairTable)).failures 5 ['b', '\r', 'a'] = .ok failures ∧
      render Plain.markup .standard 1 ['b', '\r', 'a'] failures =
        .ok (List.intercalate [Plain.markup.newline]
          ((pairTable.recorded 5 ['b', '\r', 'a']).map fun e =>
            errorPart Plain.markup {} 1 ['b', '\r', 'a'] e.error)) := by
  have hsound : ∀ flaw, (pairTable.recover 5 ['b', '\r', 'a']).2 ≠ .broken flaw := by
    intro flaw
    rw [show (pairTable.recover 5 ['b', '\r', 'a']).2 = .stopped from rfl]
    exact Ending.noConfusion
  obtain ⟨_, _, hreport⟩ := recorded_errors_reported pairTable {} 5 (by decide) ['b', '\r', 'a']
  obtain ⟨failures, hf, hr, _⟩ := hreport hsound
  exact ⟨by decide, hsound, rfl, failures, hf, hr _ _ 1⟩

end ParseReport
