import ParseReport.Parsing.Recovery

/-!
Sequences of actions on a stack. Every action puts a value on top that was on no stack before, so a
stack on which something was done is not the one that was there before.
-/

namespace ParseReport

/-- All values on a stack were made before the next one. -/
def Stack.Fresh (s : Stack) : Prop :=
  ∀ e ∈ s.entries, e.value < s.made

/-- One shift or one reduction turns a stack into another. -/
inductive Acts (t : Table) : Stack → Stack → Prop
  | shift {name s after} : t.act name s = .shifted after → Acts t s after
  | reduce {name s after} : t.act name s = .reduced after → Acts t s after

/-- Actions turn a stack into another; the list has the stack after each of them. -/
inductive Performs (t : Table) : Stack → List Stack → Stack → Prop
  | none {s} : Performs t s [] s
  | more {s next history last} : Acts t s next → Performs t next history last →
      Performs t s (next :: history) last

theorem pop?_eq_some_iff {s below : Stack} {count : Nat} :
    s.pop? count = some below ↔
      count ≤ s.entries.length ∧ below = { s with entries := s.entries.drop count } := by
  unfold Stack.pop?
  split
  next hc => simp [hc, eq_comm]
  next hc => simp [hc]

theorem act_shifted_iff {t : Table} {name : Name} {s after : Stack} :
    t.act name s = .shifted after ↔
      ∃ target, (t.actions s.top).lookup name = some (.shift target) ∧ after = s.push target := by
  unfold Table.act
  cases hl : (t.actions s.top).lookup name with
  | none => simp
  | some a =>
    cases a with
    | shift target => simp [eq_comm]
    | reduce origin count =>
      dsimp only
      cases s.pop? count with
      | none => simp
      | some below =>
        dsimp only
        split <;> simp

/-- A rule is reduced where the table says so, if the stack is high enough and the state below knows
what the rule makes. -/
theorem act_reduced_iff {t : Table} {name : Name} {s after : Stack} :
    t.act name s = .reduced after ↔ ∃ origin count below target,
      (t.actions s.top).lookup name = some (.reduce origin count) ∧ s.pop? count = some below ∧
      (t.actions below.top).lookup origin = some (.shift target) ∧
      after = below.push target := by
  constructor
  · intro h
    unfold Table.act at h
    split at h
    next => cases h
    next => cases h
    next origin count hl =>
      split at h
      next => cases h
      next below hp =>
        split at h
        next target hg => exact ⟨origin, count, below, target, hl, hp, hg, (Acted.reduced.inj h).symm⟩
        next => cases h
  · rintro ⟨origin, count, below, target, hl, hp, hg, rfl⟩
    unfold Table.act
    simp only [hl, hp, hg]

/-- An action keeps a part of the stack and puts a new value on top of it. -/
theorem Acts.shape {t : Table} {s after : Stack} (h : Acts t s after) :
    ∃ count target, after = ⟨⟨target, s.made⟩ :: s.entries.drop count, s.made + 1⟩ := by
  cases h with
  | shift h =>
    obtain ⟨target, _, he⟩ := act_shifted_iff.mp h
    exact ⟨0, target, he⟩
  | reduce h =>
    obtain ⟨_, count, below, target, _, hp, _, he⟩ := act_reduced_iff.mp h
    obtain ⟨_, rfl⟩ := pop?_eq_some_iff.mp hp
    exact ⟨count, target, he⟩

theorem Acts.fresh {t : Table} {s after : Stack} (h : Acts t s after) (hs : s.Fresh) :
    after.Fresh := by
  obtain ⟨count, target, rfl⟩ := h.shape
  intro e he
  rcases List.mem_cons.mp he with rfl | he
  · exact Nat.lt_succ_self _
  · have := hs e (List.mem_of_mem_drop he)
    exact Nat.lt_succ_of_lt this

theorem Performs.trans {t : Table} {s mid last : Stack} {first second : List Stack}
    (h : Performs t s first mid) (h' : Performs t mid second last) :
    Performs t s (first ++ second) last := by
  induction h with
  | none => exact h'
  | more hn _ ih => exact .more hn (ih h')

theorem Performs.fresh {t : Table} {s last : Stack} {history : List Stack}
    (h : Performs t s history last) (hs : s.Fresh) : last.Fresh := by
  induction h with
  | none => exact hs
  | more hn _ ih => exact ih (hn.fresh hs)

/-- After some actions the value on top is younger than the stack before them. -/
theorem Performs.top_young {t : Table} {s last : Stack} {history : List Stack}
    (h : Performs t s history last) (hne : history ≠ []) :
    ∃ e below, last.entries = e :: below ∧ s.made ≤ e.value := by
  induction h with
  | none => exact absurd rfl hne
  | @more s next history last hn hp ih =>
    obtain ⟨count, target, rfl⟩ := hn.shape
    cases hp with
    | none => exact ⟨_, _, rfl, Nat.le_refl _⟩
    | more hn' hp' =>
      obtain ⟨e, below, he, hv⟩ := ih (List.cons_ne_nil _ _)
      exact ⟨e, below, he, Nat.le_of_succ_le hv⟩

/-- A stack comes back only if nothing was done on it. -/
theorem Performs.entries_eq_iff {t : Table} {s last : Stack} {history : List Stack}
    (h : Performs t s history last) (hs : s.Fresh) :
    last.entries = s.entries ↔ history = [] := by
  constructor
  · intro he
    cases history with
    | nil => rfl
    | cons next history =>
      obtain ⟨e, below, hl, hv⟩ := h.top_young (List.cons_ne_nil next history)
      have hm : e ∈ s.entries := by
        rw [← he, hl]
        exact List.mem_cons_self
      -- the value on top would be old and young at once
      have hold := hs e hm
      omega
  · intro he
    subst he
    cases h
    rfl

end ParseReport
