import ParseReport.Proofs.FilteredReport

/-!
Reports that cannot be made. A report fails exactly if a problem has no phrase, and it fails with
the fault of the first such problem in the order in which the report tells of the failures.
-/

namespace ParseReport

/-- The fault of what has failed. -/
def fault? {ε α : Type} : Except ε α → Option ε
  | .error fault => some fault
  | .ok _ => none

section

variable {ε α β : Type}

theorem fault?_eq_some_iff {result : Except ε α} {fault : ε} :
    fault? result = some fault ↔ result = .error fault := by
  cases result <;> simp [fault?]

theorem fault?_eq_none_iff {result : Except ε α} : fault? result = none ↔ ∃ a, result = .ok a := by
  cases result <;> simp [fault?]

theorem fault?_mapM (f : α → Except ε β) (xs : List α) :
    fault? (xs.mapM f) = xs.findSome? fun x => fault? (f x) := by
  induction xs with
  | nil => rfl
  | cons x xs ih =>
    rw [List.mapM_cons, List.findSome?_cons, ← ih]
    cases f x with
    | error fault => rfl
    | ok y => cases xs.mapM f <;> rfl

/-- The first fault is that of an element behind others that have none. -/
theorem findSome?_fault?_eq_some_iff {f : α → Except ε β} {xs : List α} {fault : ε} :
    (xs.findSome? fun x => fault? (f x)) = some fault ↔
      ∃ before x after, xs = before ++ x :: after ∧ (∀ y ∈ before, ∃ z, f y = .ok z) ∧
        f x = .error fault := by
  rw [List.findSome?_eq_some_iff]
  simp only [fault?_eq_some_iff, fault?_eq_none_iff]
  constructor
  · rintro ⟨before, x, after, heq, hfault, hok⟩
    exact ⟨before, x, after, heq, hok, hfault⟩
  · rintro ⟨before, x, after, heq, hok, hfault⟩
    exact ⟨before, x, after, heq, hfault, hok⟩

theorem mapM_eq_error_iff {f : α → Except ε β} {xs : List α} {fault : ε} :
    xs.mapM f = .error fault ↔ ∃ before x after, xs = before ++ x :: after ∧
      (∀ y ∈ before, ∃ z, f y = .ok z) ∧ f x = .error fault := by
  rw [← fault?_eq_some_iff, fault?_mapM]
  exact findSome?_fault?_eq_some_iff

theorem findSome?_flatMap (f : β → Option ε) (block : α → List β) (xs : List α) :
    (xs.flatMap block).findSome? f = xs.findSome? fun x => (block x).findSome? f := by
  induction xs with
  | nil => rfl
  | cons x xs ih =>
    rw [List.flatMap_cons, List.findSome?_append, List.findSome?_cons, ih]
    cases (block x).findSome? f <;> rfl

end

section

variable {ε Out : Type} (x : Extraction ε) (m : Markup Out)

/-- Failures in the order in which a report tells of them: by position and, at a position, by
context stack, both in the order in which they first occur; with one position and one stack, as they
come. -/
def reportOrder (failures : List Failure) : List Failure :=
  (positionsOf failures).flatMap fun p =>
    (stacksAt x failures p).flatMap fun contexts => failuresAt x failures p contexts

theorem reportOrder_eq_groups (failures : List Failure) :
    reportOrder x failures = (groupBy Failure.position failures).flatMap fun group =>
      (groupBy x.contexts group.2).flatMap Prod.snd := by
  simp only [groupBy_eq_filter, List.flatMap_map, filter_filter_eq_failuresAt]
  rfl

theorem reportOrder_perm (failures : List Failure) : (reportOrder x failures).Perm failures := by
  rw [reportOrder_eq_groups]
  exact (List.Perm.flatMap_left _ fun group _ => groupBy_perm x.contexts group.2).trans
    (groupBy_perm Failure.position failures)

theorem fault?_contextPart (group : List Frame × List Failure) :
    fault? (contextPart m x group) = group.2.findSome? fun f => fault? (x.classify f.problem) := by
  rw [← fault?_mapM]
  unfold contextPart
  cases group.2.mapM fun f => x.classify f.problem <;> rfl

theorem fault?_positionPart (extra : Nat) (lines : List (Nat × Text))
    (group : Position × List Failure) :
    fault? (positionPart m x extra lines group) =
      ((groupBy x.contexts group.2).flatMap Prod.snd).findSome?
        fun f => fault? (x.classify f.problem) := by
  have hparts : fault? ((groupBy x.contexts group.2).mapM (contextPart m x)) =
      ((groupBy x.contexts group.2).flatMap Prod.snd).findSome?
        fun f => fault? (x.classify f.problem) := by
    rw [fault?_mapM, findSome?_flatMap]
    simp only [fault?_contextPart]
  rw [← hparts]
  unfold positionPart
  cases (groupBy x.contexts group.2).mapM (contextPart m x) <;> rfl

/-- The fault of a report is that of the first failure in its order whose problem has one. -/
theorem fault?_render (extra : Nat) (source : Text) (failures : List Failure) :
    fault? (render m x extra source failures) =
      (reportOrder x failures).findSome? fun f => fault? (x.classify f.problem) := by
  have hparts : fault? ((groupBy Failure.position failures).mapM
      (positionPart m x extra source.numberedLines)) =
      (reportOrder x failures).findSome? fun f => fault? (x.classify f.problem) := by
    rw [fault?_mapM, reportOrder_eq_groups, findSome?_flatMap]
    simp only [fault?_positionPart]
  rw [← hparts]
  unfold render
  cases (groupBy Failure.position failures).mapM
    (positionPart m x extra source.numberedLines) <;> rfl

end

theorem render_eq_error_iff {ε Out : Type} {x : Extraction ε} {m : Markup Out} {extra : Nat}
    {source : Text} {failures : List Failure} {fault : ε} :
    render m x extra source failures = .error fault ↔
      ∃ before f after, reportOrder x failures = before ++ f :: after ∧
        (∀ g ∈ before, ∃ c, x.classify g.problem = .ok c) ∧
        x.classify f.problem = .error fault := by
  rw [← fault?_eq_some_iff, fault?_render]
  exact findSome?_fault?_eq_some_iff

/-- A report fails if some problem has no phrase. -/
theorem render_fails_iff {ε Out : Type} {x : Extraction ε} {m : Markup Out} {extra : Nat}
    {source : Text} {failures : List Failure} :
    (∃ fault, render m x extra source failures = .error fault) ↔
      ∃ f ∈ failures, ∃ fault, x.classify f.problem = .error fault := by
  constructor
  · rintro ⟨fault, h⟩
    obtain ⟨before, f, after, heq, _, hfault⟩ := render_eq_error_iff.mp h
    have hmem : f ∈ reportOrder x failures := by simp [heq]
    exact ⟨f, (reportOrder_perm x failures).mem_iff.mp hmem, fault, hfault⟩
  · rintro ⟨f, hf, fault, hfault⟩
    cases hr : render m x extra source failures with
    | error fault => exact ⟨fault, rfl⟩
    | ok out =>
      obtain ⟨c, hc⟩ := exists_phrase_of_render_eq_ok hr f hf
      rw [hfault] at hc
      cases hc

theorem classify_eq_error_iff {problem : Problem} {fault : Fault} :
    problem.classify = .error fault ↔
      ∃ value, problem = .unknown value ∧ fault = .unknownProblem value := by
  cases problem <;> simp [Problem.classify, eq_comm]

/-- Two problems without phrases, the second at the position of a failure in front of both. -/
def scatteredFaults : List Failure :=
  [⟨.endOf [], .badRepeat, []⟩, ⟨.endOf ['\n'], .unknown .null, []⟩,
    ⟨.endOf [], .unknown (.bool true), []⟩]

theorem render_scatteredFaults {Out : Type} (m : Markup Out) (extra : Nat) (source : Text) :
    render m .standard extra source scatteredFaults =
      .error (.unknownProblem (.bool true)) := by
  rw [← fault?_eq_some_iff, fault?_render]
  rfl

/-- The order of a report has each failure as often as the list. The report fails exactly if one of
their problems has no phrase, and then, whatever the format, the text and the number of extra lines,
with the fault of the first such problem in that order. With the phrases of known problems these are
the values from elsewhere, and the first one in the list need not be the first one in the report. -/
theorem render_fails_at_first {ε : Type} (x : Extraction ε) (failures : List Failure) :
    (reportOrder x failures).Perm failures ∧
    (∀ (Out : Type) (m : Markup Out) (extra : Nat) (source : Text),
      ((∃ fault, render m x extra source failures = .error fault) ↔
        ∃ f ∈ failures, ∃ fault, x.classify f.problem = .error fault) ∧
      ∀ fault, render m x extra source failures = .error fault ↔
        ∃ before f after, reportOrder x failures = before ++ f :: after ∧
          (∀ g ∈ before, ∃ c, x.classify g.problem = .ok c) ∧
          x.classify f.problem = .error fault) ∧
    (∀ problem fault, Extraction.standard.classify problem = .error fault ↔
      ∃ value, problem = .unknown value ∧ fault = .unknownProblem value) ∧
    ∃ (others : List Failure) (first last : Fault), first ≠ last ∧
      others.mapM (fun f => Extraction.standard.classify f.problem) = .error first ∧
      ∀ (Out : Type) (m : Markup Out) (extra : Nat) (source : Text),
        render m .standard extra source others = .error last := by
  refine ⟨reportOrder_perm x failures, fun Out m extra source => ⟨render_fails_iff, ?_⟩,
    fun problem fault => classify_eq_error_iff, scatteredFaults, .unknownProblem .null,
    .unknownProblem (.bool true), by simp, rfl, ?_⟩
  · exact fun fault => render_eq_error_iff
  · exact fun Out m extra source => render_scatteredFaults m extra source

end ParseReport
