import ParseReport.Proofs.Actions
import ParseReport.Proofs.Steps

/-!
Histories of the live stack: what it is after each action, for one token and for a whole run. They
are written along the functions that feed and run, and every history is a sequence of actions from
the first stack to the last.
-/

namespace ParseReport

namespace Table

variable (t : Table)

/-- The stacks after each action for a token. -/
def feedHistoryWithin (name : Name) : Nat → Stack → List Stack
  | 0, _ => []
  | fuel + 1, s =>
    match t.act name s with
    | .rejected => []
    | .broken _ => []
    | .shifted after => [after]
    | .reduced after =>
      if name = endName ∧ after.top = t.accepting then [after]
      else after :: feedHistoryWithin name fuel after

/-- The stacks after each action when a token is fed. -/
def feedHistory (name : Name) (s : Stack) : List Stack :=
  t.feedHistoryWithin name (t.mostReductions s) s

/-- The stacks after each action when the next token is read and fed. -/
def stepHistory (c : Configuration) : List Stack :=
  match (t.lexer c.stack.top).read t.ignored c.cursor with
  | .finished _ => t.feedHistory endName c.stack
  | .token token _ => t.feedHistory token.name c.stack
  | .unmatched _ _ => []

/-- The stacks after each action of a bounded run. -/
def runHistoryWithin : Nat → Configuration → List Stack
  | 0, _ => []
  | fuel + 1, c =>
    match t.step c with
    | .advanced next => t.stepHistory c ++ runHistoryWithin fuel next
    | _ => t.stepHistory c

/-- The stacks after each action of a run. -/
def runHistory (c : Configuration) : List Stack :=
  t.runHistoryWithin (c.cursor.rest.length + 1) c

end Table

theorem feedWithin_performs {t : Table} {name : Name} {fuel : Nat} {s after : Stack}
    (h : (t.feedWithin name fuel s).stack? = some after) :
    Performs t s (t.feedHistoryWithin name fuel s) after := by
  induction fuel generalizing s with
  | zero => cases h
  | succ fuel ih =>
    rw [Table.feedWithin] at h
    rw [Table.feedHistoryWithin]
    cases ha : t.act name s with
    | rejected =>
      rw [ha] at h
      cases Option.some.inj h
      exact .none
    | broken flaw => rw [ha] at h; cases h
    | shifted next =>
      rw [ha] at h
      cases Option.some.inj h
      exact .more (.shift ha) .none
    | reduced next =>
      simp only [ha] at h ⊢
      split at h
      next hc =>
        cases Option.some.inj h
        rw [if_pos hc]
        exact .more (.reduce ha) .none
      next hc =>
        rw [if_neg hc]
        exact .more (.reduce ha) (ih h)

theorem feed_performs {t : Table} {name : Name} {s after : Stack}
    (h : (t.feed name s).stack? = some after) : Performs t s (t.feedHistory name s) after :=
  feedWithin_performs h

theorem step_advanced_performs {t : Table} {c next : Configuration}
    (h : t.step c = .advanced next) : Performs t c.stack (t.stepHistory c) next.stack := by
  obtain ⟨token, hr, hf⟩ := step_advanced h
  have he : t.stepHistory c = t.feedHistory token.name c.stack := by
    simp only [Table.stepHistory, hr]
  rw [he]
  exact feed_performs hf

theorem step_interrupted_performs {t : Table} {c : Configuration} {i : Interruption}
    (h : t.step c = .interrupted i) : Performs t c.stack (t.stepHistory c) i.place.stack := by
  unfold Table.stepHistory
  rcases step_interrupted h with ⟨cursor, stack, hr, hf, rfl⟩ |
    ⟨token, after, stack, hr, hf, rfl⟩ | ⟨cursor, allowed, hr, rfl⟩
  · simp only [hr]
    exact feed_performs (by rw [hf]; rfl)
  · simp only [hr]
    exact feed_performs (by rw [hf]; rfl)
  · simp only [hr, unmatched_stack]
    exact .none

theorem runWithin_performs {t : Table} {fuel : Nat} {c : Configuration} {i : Interruption}
    (h : t.runWithin fuel c = .interrupted i) :
    Performs t c.stack (t.runHistoryWithin fuel c) i.place.stack := by
  induction fuel generalizing c with
  | zero => cases h
  | succ fuel ih =>
    rw [Table.runWithin] at h
    rw [Table.runHistoryWithin]
    cases hs : t.step c with
    | advanced next =>
      rw [hs] at h
      exact (step_advanced_performs hs).trans (ih h)
    | accepted => rw [hs] at h; cases h
    | interrupted j =>
      rw [hs] at h
      cases Halt.interrupted.inj h
      exact step_interrupted_performs hs
    | broken flaw => rw [hs] at h; cases h

/-- A run up to an error does what its history tells. -/
theorem run_performs {t : Table} {c : Configuration} {i : Interruption}
    (h : t.run c = .interrupted i) : Performs t c.stack (t.runHistory c) i.place.stack :=
  runWithin_performs h

end ParseReport
