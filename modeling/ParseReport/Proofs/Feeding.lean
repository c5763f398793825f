import ParseReport.Proofs.Actions
import ParseReport.Proofs.Reductions

/-!
The bound that feeding sets itself: if feeding a token with that many reductions does not end, then
feeding it never ends, however many reductions are allowed.
-/

namespace ParseReport

/-- The states on a stack, topmost first. -/
def Stack.states (s : Stack) : List Nat :=
  s.entries.map Entry.state

theorem topState_states (s : Stack) : topState s.states = s.top := by
  unfold Stack.states Stack.top topState
  cases s.entries <;> rfl

theorem states_pop {s below : Stack} {count : Nat} (h : s.pop? count = some below) :
    count ≤ s.states.length ∧ below.states = s.states.drop count := by
  obtain ⟨hc, rfl⟩ := pop?_eq_some_iff.mp h
  exact ⟨by simpa [Stack.states] using hc, by simp [Stack.states, List.map_drop]⟩

theorem reduces_states {t : Table} {name : Name} {s after : Stack}
    (h : t.act name s = .reduced after) (hend : ¬(name = endName ∧ after.top = t.accepting)) :
    Reduces t name s.states after.states := by
  obtain ⟨origin, count, below, target, hl, hp, hg, rfl⟩ := act_reduced_iff.mp h
  obtain ⟨hc, hb⟩ := states_pop hp
  refine ⟨origin, count, target, ?_, hc, ?_, hend, ?_⟩
  · rw [topState_states]
    exact hl
  · rw [← hb, topState_states]
    exact hg
  · rw [← hb]
    rfl

theorem act_of_reduces {t : Table} {name : Name} {s : Stack} {v : List Nat}
    (h : Reduces t name s.states v) :
    ∃ after, t.act name s = .reduced after ∧ ¬(name = endName ∧ after.top = t.accepting) ∧
      after.states = v := by
  obtain ⟨origin, count, target, hl, hc, hg, hend, rfl⟩ := h
  have hp : s.pop? count = some { s with entries := s.entries.drop count } :=
    pop?_eq_some_iff.mpr ⟨by simpa [Stack.states] using hc, rfl⟩
  obtain ⟨_, hb⟩ := states_pop hp
  rw [topState_states] at hl
  rw [← hb, topState_states] at hg
  refine ⟨_, act_reduced_iff.mpr ⟨origin, count, _, target, hl, hp, hg, rfl⟩, hend, ?_⟩
  rw [← hb]
  rfl

theorem act_ne_endless {t : Table} {name : Name} {s : Stack} :
    t.act name s ≠ .broken .endless := by
  unfold Table.act
  split
  next => simp
  next => simp
  next =>
    split
    next => simp
    next => split <;> simp

/-- Feeding goes on for as long as its reductions do. -/
theorem feedWithin_endless_iff {t : Table} {name : Name} {fuel : Nat} {s : Stack} :
    t.feedWithin name fuel s = .broken .endless ↔ ∃ v, ReducesIn t name fuel s.states v := by
  induction fuel generalizing s with
  | zero => exact ⟨fun _ => ⟨_, .none⟩, fun _ => rfl⟩
  | succ fuel ih =>
    constructor
    · intro h
      rw [Table.feedWithin] at h
      cases ha : t.act name s with
      | rejected => rw [ha] at h; cases h
      | broken flaw =>
        rw [ha] at h
        cases Fed.broken.inj h
        exact absurd ha act_ne_endless
      | shifted after => rw [ha] at h; cases h
      | reduced after =>
        simp only [ha] at h
        split at h
        next => cases h
        next hend =>
          obtain ⟨v, hv⟩ := ih.mp h
          have hone := ReducesIn.more .none (reduces_states ha hend)
          exact ⟨v, Nat.add_comm 1 fuel ▸ hone.trans hv⟩
    · rintro ⟨v, hv⟩
      obtain ⟨u, hu, hv⟩ := hv.first
      obtain ⟨after, ha, hend, rfl⟩ := act_of_reduces hu
      rw [Table.feedWithin]
      simp only [ha, if_neg hend]
      exact ih.mpr ⟨v, hv⟩

theorem mostReductions_lt (t : Table) (s : Stack) :
    (s.states.length + 1) * ((t.states.length + 1) ^ t.states.length + 1) < t.mostReductions s := by
  have hlen : s.states.length = s.entries.length := List.length_map _
  have hpow : (t.states.length + 1) ^ t.states.length + 1 ≤
      (t.states.length + 2) ^ (t.states.length + 2) := by
    calc (t.states.length + 1) ^ t.states.length
        ≤ (t.states.length + 2) ^ t.states.length := Nat.pow_le_pow_left (by omega) _
      _ < (t.states.length + 2) ^ (t.states.length + 2) := Nat.pow_lt_pow_right (by omega) (by omega)
  have hpos : 0 < (t.states.length + 2) ^ (t.states.length + 2) := Nat.pow_pos (by omega)
  rw [hlen]
  calc (s.entries.length + 1) * ((t.states.length + 1) ^ t.states.length + 1)
      ≤ (s.entries.length + 1) * (t.states.length + 2) ^ (t.states.length + 2) :=
        Nat.mul_le_mul_left _ hpow
    _ < (s.entries.length + 2) * (t.states.length + 2) ^ (t.states.length + 2) :=
        Nat.mul_lt_mul_of_pos_right (by omega) hpos

/-- If feeding a token ends with some number of reductions, it ends with the number it allows. -/
theorem feed_ne_endless {t : Table} {name : Name} {s : Stack} {fuel : Nat}
    (h : t.feedWithin name fuel s ≠ .broken .endless) : t.feed name s ≠ .broken .endless := by
  intro he
  have hfin : ¬Endless t name ([] ++ s.states) := fun hall =>
    h (feedWithin_endless_iff.mpr (hall fuel))
  obtain ⟨v, hv⟩ := feedWithin_endless_iff.mp he
  have hv' : ReducesIn t name (t.mostReductions s) ([] ++ s.states) v := hv
  have hle := hv'.length_le (Nat.zero_le 1) (Nat.le_refl s.states.length) hfin
  have hlt := mostReductions_lt t s
  omega

end ParseReport
