import ParseReport.Collection

/-!
The errors that are recorded, and the failures that are made from them.
-/

namespace ParseReport

/-- The errors of a text that are recorded. -/
def Table.recorded (t : Table) (limit : Int) (source : Text) : List Incident :=
  (t.recover limit source).1.filter Incident.recorded

/-- The tables of a grammar with the one rule `pair: A B`, where each terminal is one letter. -/
def pairTable : Table where
  states := [
    ⟨[("A".toList, .shift 1), ("pair".toList, .shift 3)], ⟨[.ofText "A".toList ['a']], []⟩⟩,
    ⟨[("B".toList, .shift 2)], ⟨[.ofText "B".toList ['b']], []⟩⟩,
    ⟨[(endName, .reduce "pair".toList 2)], ⟨[], []⟩⟩,
    ⟨[(endName, .shift 4)], ⟨[], []⟩⟩]
  accepting := 3
  root := ⟨[.ofText "A".toList ['a'], .ofText "B".toList ['b']], []⟩
  ignored := []

/-- What a state of the example tables does with a name. -/
theorem pairTable_lookup {state : Nat} {name : Name} {a : Action}
    (h : (pairTable.actions state).lookup name = some a) :
    (name = endName ∧ a = .reduce "pair".toList 2) ∨
    ∃ target, a = .shift target ∧ (name = "pair".toList → target = pairTable.accepting) := by
  obtain ⟨before, after, he, _⟩ := List.lookup_eq_some_iff.mp h
  have hm : (name, a) ∈ pairTable.actions state := by simp [he]
  match state with
  | 0 =>
    simp only [Table.actions, pairTable, List.getElem?_cons_zero, List.mem_cons, Prod.mk.injEq,
      List.not_mem_nil, or_false] at hm
    rcases hm with ⟨rfl, rfl⟩ | ⟨rfl, rfl⟩
    · exact .inr ⟨1, rfl, by decide⟩
    · exact .inr ⟨3, rfl, fun _ => rfl⟩
  | 1 =>
    obtain ⟨rfl, rfl⟩ := Prod.mk.inj (List.mem_singleton.mp hm)
    exact .inr ⟨2, rfl, by decide⟩
  | 2 => exact .inl (Prod.mk.inj (List.mem_singleton.mp hm))
  | 3 =>
    obtain ⟨rfl, rfl⟩ := Prod.mk.inj (List.mem_singleton.mp hm)
    exact .inr ⟨4, rfl, by decide⟩
  | n + 4 => cases hm

theorem errors_table_eq_ok_iff {t : Table} {limit : Int} {source : Text}
    {errors : List ParseError} :
    (Engine.table t).errors limit source = .ok errors ↔
      (∀ flaw, (t.recover limit source).2 ≠ .broken flaw) ∧
      (t.recorded limit source).map Incident.error = errors := by
  unfold Engine.errors Table.recorded
  dsimp only
  obtain ⟨incidents, ending⟩ := t.recover limit source
  cases ending with
  | accepted => simp
  | stopped => simp
  | broken flaw => simp

theorem failures_eq_ok_iff_errors {g : Grammar} {limit : Int} {source : Text}
    {failures : List Failure} :
    g.failures limit source = .ok failures ↔
      ∃ errors, g.engine.errors limit source = .ok errors ∧
        errors.flatMap (ParseError.failures · source g.vocabulary) = failures := by
  unfold Grammar.failures
  cases g.engine.errors limit source with
  | error flaw => simp [Except.map]
  | ok errors => simp [Except.map]

/-- Failures come from the recorded errors and from nothing else, unless the tables are flawed. -/
theorem failures_eq_ok_iff {t : Table} {v : Vocabulary} {limit : Int} {source : Text}
    {failures : List Failure} :
    (Grammar.mk v (.table t)).failures limit source = .ok failures ↔
      (∀ flaw, (t.recover limit source).2 ≠ .broken flaw) ∧
      (t.recorded limit source).flatMap (fun e => e.error.failures source v) = failures := by
  have hmap : ((t.recorded limit source).map Incident.error).flatMap (·.failures source v) =
      (t.recorded limit source).flatMap fun e => e.error.failures source v :=
    List.flatMap_map ..
  rw [failures_eq_ok_iff_errors]
  constructor
  · rintro ⟨errors, he, rfl⟩
    obtain ⟨hok, rfl⟩ := errors_table_eq_ok_iff.mp he
    exact ⟨hok, hmap.symm⟩
  · rintro ⟨hok, rfl⟩
    exact ⟨_, errors_table_eq_ok_iff.mpr ⟨hok, rfl⟩, hmap⟩

end ParseReport
