import Mathlib.Data.List.Chain
import Mathlib.Logic.Relation
import ParseReport.Proofs.Actions

/-!
A parser's states and its values as two stacks, each shortened and extended on its own. Nothing but
the way they are used keeps them aligned, with one value less than there are states, and keeps every
two neighbouring states joined by the tables; and what is done to a stack of entries is the same as
what is done to the two stacks of its states and of its values.
-/

namespace ParseReport

/-- The states and the values of a parser, oldest first, and the number of values made so far. -/
structure Stacks where
  states : List Nat
  values : List Nat
  made : Nat
deriving DecidableEq, Repr

namespace Stacks

/-- The stacks before anything is read: the start state and no value. -/
def start : Stacks := ⟨[0], [], 0⟩

/-- A state and a new value on top. -/
def push (s : Stacks) (state : Nat) : Stacks :=
  ⟨s.states ++ [state], s.values ++ [s.made], s.made + 1⟩

/-- As many entries less at the end of both stacks, or none left. -/
def pop (s : Stacks) (count : Nat) : Stacks :=
  ⟨s.states.take (s.states.length - count), s.values.take (s.values.length - count), s.made⟩

/-- The stacks cut to a number of states, and to one value less. -/
def cut (s : Stacks) (depth : Nat) : Stacks :=
  ⟨s.states.take depth, s.values.take (depth - 1), s.made⟩

/-- One shift, or one reduction by a rule that the state on top lists. -/
inductive Acts (t : Table) : Stacks → Stacks → Prop
  | shift {s top name target} : s.states.getLast? = some top →
      (t.actions top).lookup name = some (.shift target) → Acts t s (s.push target)
  | reduce {s top name origin count base target} : s.states.getLast? = some top →
      (t.actions top).lookup name = some (.reduce origin count) →
      (s.pop count).states.getLast? = some base →
      (t.actions base).lookup origin = some (.shift target) →
      Acts t s ((s.pop count).push target)

/-- What happens to the stacks while errors are recovered from: a shift or a reduction, a cut to
fewer states with what a token does to the rest, or nothing, where a token or a character is
dropped. -/
inductive Moves (t : Table) : Stacks → Stacks → Prop
  | act {s after} : Acts t s after → Moves t s after
  | resume {s after} (depth : Nat) : 0 < depth → depth < s.states.length →
      Relation.ReflTransGen (Acts t) (s.cut depth) after → Moves t s after
  | stay {s} : Moves t s s

end Stacks

/-- A state leads to another one by a shift or after a reduction. -/
def Table.Joins (t : Table) (p q : Nat) : Prop :=
  ∃ name, (t.actions p).lookup name = some (.shift q)

/-- The start state is at the bottom, there is one value less than there are states, and each state
leads to the one above it. -/
structure Stacks.Linked (t : Table) (s : Stacks) : Prop where
  bottom : s.states.head? = some 0
  aligned : s.values.length + 1 = s.states.length
  joined : s.states.IsChain t.Joins

section

variable {t : Table} {s after : Stacks} {depth count base top target : Nat}

theorem start_linked (t : Table) : Stacks.start.Linked t :=
  ⟨rfl, rfl, .singleton 0⟩

theorem Stacks.Linked.cut (h : s.Linked t) (hpos : 0 < depth) (hle : depth ≤ s.states.length) :
    (s.cut depth).Linked t := by
  refine ⟨?_, ?_, h.joined.take depth⟩
  · have hne : depth ≠ 0 := by omega
    simp [Stacks.cut, List.head?_take, hne, h.bottom]
  · have ha := h.aligned
    simp only [Stacks.cut, List.length_take]
    omega

theorem pop_eq_cut (h : s.values.length + 1 = s.states.length) :
    s.pop count = s.cut (s.states.length - count) := by
  have he : s.values.length - count = s.states.length - count - 1 := by omega
  simp only [Stacks.pop, Stacks.cut, he]

theorem Stacks.Linked.pop (h : s.Linked t) (hb : (s.pop count).states.getLast? = some base) :
    (s.pop count).Linked t := by
  have hne : (s.pop count).states ≠ [] := by
    intro he
    simp [he] at hb
  have hpos : 0 < s.states.length - count := by
    by_contra hz
    have hz' : s.states.length - count = 0 := by omega
    simp [Stacks.pop, hz'] at hne
  rw [pop_eq_cut h.aligned]
  exact h.cut hpos (Nat.sub_le _ _)

theorem Stacks.Linked.push (h : s.Linked t) (ht : s.states.getLast? = some top)
    (hj : t.Joins top target) : (s.push target).Linked t := by
  refine ⟨?_, ?_, ?_⟩
  · simp [Stacks.push, h.bottom]
  · have ha := h.aligned
    simp only [Stacks.push, List.length_append, List.length_singleton]
    omega
  · refine h.joined.append (.singleton target) ?_
    intro p hp q hq
    cases Option.some.inj (ht.symm.trans hp)
    cases Option.some.inj hq
    exact hj

theorem Stacks.Linked.acts (h : s.Linked t) (ha : Stacks.Acts t s after) : after.Linked t := by
  cases ha with
  | shift ht hl => exact h.push ht ⟨_, hl⟩
  | reduce _ _ hb hg => exact (h.pop hb).push hb ⟨_, hg⟩

/-- Whatever is done to the stacks, they stay linked. A cut may end at any height, and the token may
be reduced for any number of times on what is left. -/
theorem Stacks.Linked.moves (h : s.Linked t) (hm : Stacks.Moves t s after) : after.Linked t := by
  cases hm with
  | act ha => exact h.acts ha
  | resume depth hpos hlt hacts =>
    induction hacts with
    | refl => exact h.cut hpos (Nat.le_of_lt hlt)
    | tail _ ha ih => exact ih.acts ha
  | stay => exact h

end

/-- The number of states of a stack, with the start state. -/
def Stack.height (s : Stack) : Nat :=
  s.entries.length + 1

/-- The lower part of a stack up to a height. -/
def Stack.cut (s : Stack) (depth : Nat) : Stack :=
  { s with entries := s.entries.drop (s.height - depth) }

/-- The two stacks that a stack of entries stands for. -/
def Stack.stacks (s : Stack) : Stacks where
  states := 0 :: (s.entries.map Entry.state).reverse
  values := (s.entries.map Entry.value).reverse
  made := s.made

section

variable {t : Table} {s below after : Stack} {depth count : Nat}

theorem stacks_states_length (s : Stack) : s.stacks.states.length = s.height := by
  simp [Stack.stacks, Stack.height]

theorem stacks_aligned (s : Stack) : s.stacks.values.length + 1 = s.stacks.states.length := by
  simp [Stack.stacks]

theorem stacks_push (s : Stack) (state : Nat) : (s.push state).stacks = s.stacks.push state := by
  simp [Stack.stacks, Stack.push, Stacks.push]

theorem stacks_top (s : Stack) : s.stacks.states.getLast? = some s.top := by
  unfold Stack.stacks Stack.top
  cases s.entries with
  | nil => rfl
  | cons e below =>
    rw [List.map_cons, List.reverse_cons, ← List.cons_append]
    exact List.getLast?_concat

theorem stacks_cut (hpos : 0 < depth) (hle : depth ≤ s.height) :
    (s.cut depth).stacks = s.stacks.cut depth := by
  obtain ⟨d, rfl⟩ := Nat.exists_eq_succ_of_ne_zero (Nat.ne_of_gt hpos)
  have hd : s.entries.length - (s.height - (d + 1)) = d := by
    unfold Stack.height at hle ⊢
    omega
  simp only [Stack.stacks, Stack.cut, Stacks.cut, List.map_drop, List.reverse_drop, List.length_map,
    hd, Nat.succ_eq_add_one, List.take_succ_cons, Nat.add_sub_cancel]

theorem stacks_pop (h : s.pop? count = some below) : below.stacks = s.stacks.pop count := by
  obtain ⟨hc, rfl⟩ := pop?_eq_some_iff.mp h
  have hcut : { s with entries := s.entries.drop count } = s.cut (s.height - count) := by
    have he : s.height - (s.height - count) = count := by
      unfold Stack.height
      omega
    rw [Stack.cut, he]
  have hpos : 0 < s.height - count := by
    unfold Stack.height
    omega
  rw [hcut, stacks_cut hpos (Nat.sub_le _ _), pop_eq_cut (stacks_aligned s), stacks_states_length]

/-- What an action does to a stack of entries, it does to its states and to its values. -/
theorem Acts.stacks (h : Acts t s after) : Stacks.Acts t s.stacks after.stacks := by
  cases h with
  | shift h =>
    obtain ⟨target, hl, rfl⟩ := act_shifted_iff.mp h
    rw [stacks_push]
    exact .shift (stacks_top s) hl
  | reduce h =>
    obtain ⟨origin, count, below, target, hl, hp, hg, rfl⟩ := act_reduced_iff.mp h
    have hb : (s.stacks.pop count).states.getLast? = some below.top := by
      rw [← stacks_pop hp]
      exact stacks_top below
    rw [stacks_push, stacks_pop hp]
    exact .reduce (stacks_top s) hl hb hg

theorem Performs.stacks {history : List Stack} (h : Performs t s history after) :
    Relation.ReflTransGen (Stacks.Acts t) s.stacks after.stacks := by
  induction h with
  | none => exact .refl
  | more hn _ ih => exact .head hn.stacks ih

end

end ParseReport
