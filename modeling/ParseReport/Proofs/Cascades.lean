import Mathlib.Data.List.Chain
import ParseReport.Proofs.Histories
import ParseReport.Proofs.Rounds

/-!
Cascades. An error is taken for one that only follows from the error before it exactly when nothing
was shifted and nothing was reduced on the live stack since that one was recovered from.
-/

namespace ParseReport

theorem resumeFrom_fresh {t : Table} {name : Name} {made : Nat} {entries : List Entry}
    {stack : Stack} (hs : (Stack.mk entries made).Fresh)
    (h : t.resumeFrom name made entries = .ok (some stack)) : stack.Fresh := by
  induction entries with
  | nil => cases Except.ok.inj h
  | cons e below ih =>
    have hb : (Stack.mk below made).Fresh := fun x hx => hs x (List.mem_cons_of_mem e hx)
    rw [Table.resumeFrom] at h
    split at h
    next hf =>
      cases Option.some.inj (Except.ok.inj h)
      exact (feed_performs (by rw [hf]; rfl)).fresh hb
    next hf =>
      cases Option.some.inj (Except.ok.inj h)
      exact (feed_performs (by rw [hf]; rfl)).fresh hb
    next => exact ih hb h
    next => cases h

theorem recoveredStack_fresh {t : Table} {i : Interruption} {stack : Stack}
    (hs : i.place.stack.Fresh) (h : t.recoveredStack i = .ok stack) : stack.Fresh := by
  unfold Table.recoveredStack at h
  split at h
  next => cases Except.ok.inj h; exact hs
  next name _ =>
    split at h
    next => cases Except.ok.inj h; exact hs
    next =>
      cases hr : t.resume? name i.place.stack with
      | error flaw => rw [hr] at h; cases h
      | ok found =>
        rw [hr] at h
        cases Except.ok.inj h
        cases found with
        | none => exact hs
        | some stack => exact resumeFrom_fresh hs hr

/-- An incident tells of an interruption. -/
def Incident.TellsOf (e : Incident) (i : Interruption) : Prop :=
  e.error = i.error ∧ e.offset = i.offset ∧ e.raised = i.place.stack

/-- One error is the next after another: the first one is recovered from, parsing goes on behind it
and runs into the second one. In between the live stack has the given history. -/
def Follows (t : Table) (previous next : Incident) (history : List Stack) : Prop :=
  ∃ i j, previous.TellsOf i ∧ next.TellsOf j ∧ t.recoveredStack i = .ok previous.resumed ∧
    t.run ⟨Table.recoveredCursor i, previous.resumed⟩ = .interrupted j ∧
    t.runHistory ⟨Table.recoveredCursor i, previous.resumed⟩ = history

theorem Recovers.head {t : Table} {limit : Int} {m : Memory} {c : Configuration}
    {incidents : List Incident} {ending : Ending} (h : Recovers t limit m c incidents ending) :
    ∀ next ∈ incidents.head?, ∃ j, t.run c = .interrupted j ∧ next.TellsOf j ∧
      next.recorded = !m.isCascade j.place.stack := by
  cases h with
  | accepted => simp
  | flawed => simp
  | lost hr =>
    intro next hn
    cases Option.some.inj hn
    exact ⟨_, hr, ⟨rfl, rfl, rfl⟩, rfl⟩
  | stopped hr =>
    intro next hn
    cases Option.some.inj hn
    exact ⟨_, hr, ⟨rfl, rfl, rfl⟩, rfl⟩
  | resumed hr =>
    intro next hn
    cases Option.some.inj hn
    exact ⟨_, hr, ⟨rfl, rfl, rfl⟩, rfl⟩

/-- A stack that an error left is met again exactly if nothing happened to it. -/
theorem isCascade_iff {t : Table} {m : Memory} {c : Configuration} {j : Interruption}
    (hs : c.stack.Fresh) (hm : m.left = some c.stack.entries) (h : t.run c = .interrupted j) :
    m.isCascade j.place.stack = true ↔ t.runHistory c = [] := by
  rw [← (run_performs h).entries_eq_iff hs]
  simp [Memory.isCascade, hm, eq_comm]

/-- In the rounds from a configuration on, what comes between two errors decides on the second. -/
theorem Recovers.chain {t : Table} {limit : Int} {m : Memory} {c : Configuration}
    {incidents : List Incident} {ending : Ending} (h : Recovers t limit m c incidents ending)
    (hs : c.stack.Fresh) :
    incidents.IsChain fun previous next => ∃ history, Follows t previous next history ∧
      Performs t previous.resumed history next.raised ∧ (next.recorded = false ↔ history = []) := by
  induction h with
  | accepted => exact .nil
  | flawed => exact .nil
  | lost => exact .singleton _
  | stopped => exact .singleton _
  | @resumed m c i stack later ending hr hk hgo hl ih =>
    have hs' : stack.Fresh := recoveredStack_fresh ((run_performs hr).fresh hs) hk
    apply (ih hs').cons
    -- the next run begins on the very stack that is remembered of this error
    intro next hn
    obtain ⟨j, hj, ht, hd⟩ := hl.head next hn
    refine ⟨_, ⟨i, j, ⟨rfl, rfl, rfl⟩, ht, hk, hj, rfl⟩, ?_, ?_⟩
    · rw [ht.2.2]
      exact run_performs hj
    · have hc := isCascade_iff (m := Table.remember m (Table.incident m i stack)) hs' rfl hj
      refine Iff.trans ?_ hc
      simp [hd]

/-- The first error of a text is recorded, and every later one is left out exactly if not a single
shift and not a single reduction was made on the live stack between the recovery from the error
before it and itself. -/
theorem unrecorded_iff_idle (t : Table) (limit : Int) (source : Text) :
    (∀ first ∈ (t.recover limit source).1.head?, first.recorded = true) ∧
    (t.recover limit source).1.IsChain fun previous next =>
      ∃ history, Follows t previous next history ∧
        Performs t previous.resumed history next.raised ∧
        (next.recorded = false ↔ history = []) := by
  have hr := recover_recovers t limit source
  refine ⟨?_, hr.chain (by intro e he; cases he)⟩
  intro first hf
  obtain ⟨j, _, _, hd⟩ := hr.head first hf
  exact hd

end ParseReport
