import ParseReport.Parsing.Recovery

/-!
What a step of a parser can do, said once for the proofs about runs.
-/

namespace ParseReport

/-- The stack that feeding leaves, unless the tables are flawed. -/
def Fed.stack? : Fed → Option Stack
  | .shifted s => some s
  | .accepted s => some s
  | .rejected s => some s
  | .broken _ => none

/-- A step goes on after a token that the stack takes. -/
theorem step_advanced {t : Table} {c next : Configuration} (h : t.step c = .advanced next) :
    ∃ token, (t.lexer c.stack.top).read t.ignored c.cursor = .token token next.cursor ∧
      (t.feed token.name c.stack).stack? = some next.stack := by
  unfold Table.step at h
  split at h
  next => split at h <;> cases h
  next token after hr =>
    refine ⟨token, ?_⟩
    split at h
    next hf => cases Step.advanced.inj h; exact ⟨hr, by rw [hf]; rfl⟩
    next hf => cases Step.advanced.inj h; exact ⟨hr, by rw [hf]; rfl⟩
    next => cases h
    next => cases h
  next => cases h

/-- A step is interrupted by the end of the text, by a token that the stack rejects, or where the
lexer knows nothing that matches. -/
theorem step_interrupted {t : Table} {c : Configuration} {i : Interruption}
    (h : t.step c = .interrupted i) :
    (∃ cursor stack, (t.lexer c.stack.top).read t.ignored c.cursor = .finished cursor ∧
      t.feed endName c.stack = .rejected stack ∧ i = t.unexpectedEnd cursor stack) ∨
    (∃ token after stack, (t.lexer c.stack.top).read t.ignored c.cursor = .token token after ∧
      t.feed token.name c.stack = .rejected stack ∧
      i = Table.unexpected token (t.expected stack.top) ⟨after, stack⟩) ∨
    (∃ cursor allowed, (t.lexer c.stack.top).read t.ignored c.cursor = .unmatched cursor allowed ∧
      i = t.unmatched c.stack cursor allowed) := by
  unfold Table.step at h
  split at h
  next cursor hr =>
    split at h
    next => cases h
    next => cases h
    next stack hf => exact .inl ⟨cursor, stack, hr, hf, (Step.interrupted.inj h).symm⟩
    next => cases h
  next token after hr =>
    split at h
    next => cases h
    next => cases h
    next stack hf => exact .inr (.inl ⟨token, after, stack, hr, hf, (Step.interrupted.inj h).symm⟩)
    next => cases h
  next cursor allowed hr => exact .inr (.inr ⟨cursor, allowed, hr, (Step.interrupted.inj h).symm⟩)

theorem step_broken {t : Table} {c : Configuration} {flaw : TableFlaw}
    (h : t.step c = .broken flaw) : ∃ name, t.feed name c.stack = .broken flaw := by
  unfold Table.step at h
  split at h
  next =>
    split at h
    next => cases h
    next => cases h
    next => cases h
    next hf => cases Step.broken.inj h; exact ⟨_, hf⟩
  next =>
    split at h
    next => cases h
    next => cases h
    next => cases h
    next hf => cases Step.broken.inj h; exact ⟨_, hf⟩
  next => cases h

@[simp] theorem unmatched_stack (t : Table) (s : Stack) (cursor : Cursor) (allowed : List Name) :
    (t.unmatched s cursor allowed).place.stack = s := by
  unfold Table.unmatched
  split <;> rfl

end ParseReport
