import ParseReport.Proofs.Cascades
import ParseReport.Proofs.Resumption
import ParseReport.Proofs.Termination

/-!
The live stacks of a recovering parser, from the first one to the last. They stay linked by the
tables, and where linked stacks can always be reduced, nothing is ever popped that is not there and
no state is missing after a reduction.
-/

namespace ParseReport

namespace Table

variable (t : Table)

/-- The live stacks behind a configuration: after each action of the run to the next error, after
the recovery from it, and so on for a number of rounds. -/
def liveWithin (limit : Int) : Nat → Memory → Configuration → List Stack
  | 0, _, _ => []
  | rounds + 1, m, c =>
    match t.run c with
    | .interrupted i =>
      match t.recoveredStack i with
      | .error _ => t.runHistory c
      | .ok stack =>
        let m := remember m (incident m i stack)
        if i.error.isEnd ∨ limit ≤ m.recorded then t.runHistory c ++ [stack]
        else
          t.runHistory c ++ stack :: liveWithin limit rounds m ⟨recoveredCursor i, stack⟩
    | _ => t.runHistory c

/-- The live stacks while the errors of a text are looked for. -/
def live (limit : Int) (source : Text) : List Stack :=
  {} :: t.liveWithin limit (source.length + 1) {} (.start source)

end Table

/-- What happens to a stack happens to its states and its values. -/
def Stack.Moves (t : Table) (s after : Stack) : Prop :=
  Stacks.Moves t s.stacks after.stacks

section

variable {t : Table} {limit : Int} {rounds fuel : Nat} {m : Memory} {c : Configuration}
  {i : Interruption} {s last : Stack} {history rest : List Stack}

theorem Performs.isChain (h : Performs t s history last)
    (hr : (last :: rest).IsChain (Stack.Moves t)) :
    (s :: (history ++ rest)).IsChain (Stack.Moves t) := by
  induction h with
  | none => exact hr
  | more hn _ ih => exact .cons_cons (.act hn.stacks) (ih hr)

theorem feedHistoryWithin_isChain {name : Name} :
    (s :: t.feedHistoryWithin name fuel s).IsChain (Stack.Moves t) := by
  induction fuel generalizing s with
  | zero => exact .singleton s
  | succ fuel ih =>
    rw [Table.feedHistoryWithin]
    cases ha : t.act name s with
    | rejected => exact .singleton s
    | broken flaw => exact .singleton s
    | shifted next => exact .cons_cons (.act (Acts.shift ha).stacks) (.singleton next)
    | reduced next =>
      have hm : s.Moves t next := .act (Acts.reduce ha).stacks
      dsimp only
      split
      next => exact .cons_cons hm (.singleton next)
      next => exact .cons_cons hm ih

theorem stepHistory_isChain : (c.stack :: t.stepHistory c).IsChain (Stack.Moves t) := by
  unfold Table.stepHistory
  split
  next => exact feedHistoryWithin_isChain
  next => exact feedHistoryWithin_isChain
  next => exact .singleton c.stack

/-- A run goes from stack to stack by moves, however it ends. -/
theorem runHistoryWithin_isChain :
    (c.stack :: t.runHistoryWithin fuel c).IsChain (Stack.Moves t) := by
  induction fuel generalizing c with
  | zero => exact .singleton c.stack
  | succ fuel ih =>
    rw [Table.runHistoryWithin]
    split
    next hs => exact (step_advanced_performs hs).isChain ih
    next => exact stepHistory_isChain

theorem recoveredStack_eq {name : Name} (ht : i.token = some name) (hend : name ≠ endName) :
    t.recoveredStack i = (t.resynchronize name i.place.stack).map Prod.snd := by
  unfold Table.recoveredStack Table.resynchronize
  rw [ht]
  dsimp only
  rw [if_neg hend]
  cases t.resume? name i.place.stack <;> rfl

/-- Recovering from an error cuts the stack and feeds the token to what is left, or does nothing. -/
theorem recoveredStack_moves {stack : Stack} (h : t.recoveredStack i = .ok stack) :
    i.place.stack.Moves t stack := by
  have hstay : t.recoveredStack i = .ok i.place.stack → i.place.stack.Moves t stack := by
    intro hs
    cases Except.ok.inj (hs.symm.trans h)
    exact .stay
  cases ht : i.token with
  | none => exact hstay (by simp only [Table.recoveredStack, ht])
  | some name =>
    by_cases hend : name = endName
    · exact hstay (by simp only [Table.recoveredStack, ht, if_pos hend])
    · rw [recoveredStack_eq ht hend] at h
      cases hr : t.resynchronize name i.place.stack with
      | error flaw => rw [hr] at h; cases h
      | ok result =>
        obtain ⟨resumed, after⟩ := result
        rw [hr] at h
        cases Except.ok.inj h
        cases resumed with
        | false =>
          cases (resynchronize_false_iff.mp hr).1
          exact .stay
        | true =>
          obtain ⟨depth, hd⟩ := resynchronize_true_iff.mp hr
          refine .resume depth hd.pos ?_ ?_
          · rw [stacks_states_length]
            exact hd.proper
          · rw [← stacks_cut hd.pos (Nat.le_of_lt hd.proper)]
            exact hd.takes.performs.stacks

theorem liveWithin_lost {flaw : TableFlaw} (hr : t.run c = .interrupted i)
    (hk : t.recoveredStack i = .error flaw) :
    t.liveWithin limit (rounds + 1) m c = t.runHistory c := by
  rw [Table.liveWithin, hr]
  simp only [hk]

theorem liveWithin_stopped {stack : Stack} (hr : t.run c = .interrupted i)
    (hk : t.recoveredStack i = .ok stack) (hstop : Stops limit m i stack) :
    t.liveWithin limit (rounds + 1) m c = t.runHistory c ++ [stack] := by
  rw [Table.liveWithin, hr]
  simp only [hk]
  exact if_pos hstop

theorem liveWithin_resumed {stack : Stack} (hr : t.run c = .interrupted i)
    (hk : t.recoveredStack i = .ok stack) (hgo : ¬Stops limit m i stack) :
    t.liveWithin limit (rounds + 1) m c =
      t.runHistory c ++ stack :: t.liveWithin limit rounds
        (Table.remember m (Table.incident m i stack)) ⟨Table.recoveredCursor i, stack⟩ := by
  rw [Table.liveWithin, hr]
  simp only [hk]
  exact if_neg hgo

theorem liveWithin_isChain :
    (c.stack :: t.liveWithin limit rounds m c).IsChain (Stack.Moves t) := by
  induction rounds generalizing m c with
  | zero => exact .singleton c.stack
  | succ rounds ih =>
    cases hr : t.run c with
    | accepted =>
      rw [Table.liveWithin, hr]
      exact runHistoryWithin_isChain
    | broken flaw =>
      rw [Table.liveWithin, hr]
      exact runHistoryWithin_isChain
    | interrupted i =>
      cases hk : t.recoveredStack i with
      | error flaw =>
        rw [liveWithin_lost hr hk]
        exact runHistoryWithin_isChain
      | ok stack =>
        have hm := recoveredStack_moves hk
        by_cases hstop : Stops limit m i stack
        · rw [liveWithin_stopped hr hk hstop]
          exact (run_performs hr).isChain (.cons_cons hm (.singleton stack))
        · rw [liveWithin_resumed hr hk hstop]
          refine (run_performs hr).isChain (.cons_cons hm ?_)
          exact ih (c := ⟨Table.recoveredCursor i, stack⟩)

theorem live_isChain (t : Table) (limit : Int) (source : Text) :
    (t.live limit source).IsChain (Stack.Moves t) :=
  liveWithin_isChain (c := .start source)

theorem live_linked (t : Table) (limit : Int) (source : Text) :
    ∀ s ∈ t.live limit source, s.stacks.Linked t := by
  refine (live_isChain t limit source).induction (fun s : Stack => s.stacks.Linked t) _ ?_ ?_
  · intro s after hm h
    exact h.moves hm
  · intro _
    exact start_linked t

theorem Performs.last_mem (h : Performs t s history last) : last ∈ s :: history := by
  induction h with
  | none => exact List.mem_cons_self
  | more _ _ ih => exact List.mem_cons_of_mem _ ih

/-- The stacks that an error was raised on and that parsing went on with are among the live ones. -/
theorem recoverWithin_mem_live :
    ∀ e ∈ (t.recoverWithin limit rounds m c).1,
      e.raised ∈ c.stack :: t.liveWithin limit rounds m c ∧
      e.resumed ∈ c.stack :: t.liveWithin limit rounds m c := by
  induction rounds generalizing m c with
  | zero => simp [Table.recoverWithin]
  | succ rounds ih =>
    intro e he
    cases hr : t.run c with
    | accepted => simp [recoverWithin_accepted hr] at he
    | broken flaw => simp [recoverWithin_flawed hr] at he
    | interrupted i =>
      have hplace := (run_performs hr).last_mem
      cases hk : t.recoveredStack i with
      | error flaw =>
        rw [recoverWithin_lost hr hk, List.mem_singleton] at he
        subst he
        rw [liveWithin_lost hr hk]
        exact ⟨hplace, hplace⟩
      | ok stack =>
        by_cases hstop : Stops limit m i stack
        · rw [recoverWithin_stopped hr hk hstop, List.mem_singleton] at he
          subst he
          rw [liveWithin_stopped hr hk hstop, ← List.cons_append]
          exact ⟨List.mem_append_left _ hplace, List.mem_append_right _ (List.mem_singleton_self _)⟩
        · rw [recoverWithin_resumed hr hk hstop] at he
          rw [liveWithin_resumed hr hk hstop, ← List.cons_append]
          rcases List.mem_cons.mp he with rfl | he
          · exact ⟨List.mem_append_left _ hplace, List.mem_append_right _ List.mem_cons_self⟩
          · obtain ⟨hraised, hresumed⟩ := ih e he
            exact ⟨List.mem_append_right _ hraised, List.mem_append_right _ hresumed⟩

end

/-- On linked stacks every reduction that the state on top lists can be made: below the entries that
it pops there is a state, and that one leads on with what the rule makes. -/
def Table.Sound (t : Table) : Prop :=
  ∀ s : Stacks, s.Linked t → ∀ top name origin count, s.states.getLast? = some top →
    (t.actions top).lookup name = some (.reduce origin count) →
    ∃ base target, (s.pop count).states.getLast? = some base ∧
      (t.actions base).lookup origin = some (.shift target)

section

variable {t : Table} {name : Name} {s after : Stack} {c : Configuration} {flaw : TableFlaw}

theorem pop?_of_base {count base : Nat}
    (h : (s.stacks.pop count).states.getLast? = some base) :
    ∃ below, s.pop? count = some below ∧ below.top = base := by
  have hc : count ≤ s.entries.length := by
    by_contra hlt
    have hz : s.stacks.states.length - count = 0 := by
      rw [stacks_states_length]
      unfold Stack.height
      omega
    simp [Stacks.pop, hz] at h
  refine ⟨_, pop?_eq_some_iff.mpr ⟨hc, rfl⟩, ?_⟩
  rw [← stacks_pop (pop?_eq_some_iff.mpr ⟨hc, rfl⟩), stacks_top] at h
  exact Option.some.inj h

theorem Table.Sound.act_ne_broken (h : t.Sound) (hs : s.stacks.Linked t) :
    t.act name s ≠ .broken flaw := by
  unfold Table.act
  cases hl : (t.actions s.top).lookup name with
  | none => simp
  | some a =>
    cases a with
    | shift target => simp
    | reduce origin count =>
      obtain ⟨base, target, hb, hg⟩ := h s.stacks hs s.top name origin count (stacks_top s) hl
      obtain ⟨below, hp, rfl⟩ := pop?_of_base hb
      simp [hp, hg]

theorem Acts.linked (ha : Acts t s after) (hs : s.stacks.Linked t) : after.stacks.Linked t :=
  hs.acts ha.stacks

theorem Performs.linked {history : List Stack} (hp : Performs t s history after)
    (hs : s.stacks.Linked t) : after.stacks.Linked t := by
  induction hp with
  | none => exact hs
  | more ha _ ih => exact ih (ha.linked hs)

theorem Table.Sound.feedWithin_broken (h : t.Sound) {fuel : Nat} (hs : s.stacks.Linked t)
    (hf : t.feedWithin name fuel s = .broken flaw) : flaw = .endless := by
  induction fuel generalizing s with
  | zero => exact (Fed.broken.inj hf).symm
  | succ fuel ih =>
    rw [Table.feedWithin] at hf
    cases ha : t.act name s with
    | rejected => rw [ha] at hf; cases hf
    | broken flaw' => exact absurd ha (h.act_ne_broken hs)
    | shifted next => rw [ha] at hf; cases hf
    | reduced next =>
      simp only [ha] at hf
      split at hf
      next => cases hf
      next => exact ih ((Acts.reduce ha).linked hs) hf

theorem Table.Sound.feed_broken (h : t.Sound) (hs : s.stacks.Linked t)
    (hf : t.feed name s = .broken flaw) : flaw = .endless :=
  h.feedWithin_broken hs hf

/-- Parts of a linked stack are linked, so feeding them breaks no more than feeding the whole. -/
theorem Table.Sound.feed_cut_broken (h : t.Sound) (hs : s.stacks.Linked t) {depth : Nat}
    (hpos : 0 < depth) (hlt : depth < s.height) (hf : t.feed name (s.cut depth) = .broken flaw) :
    flaw = .endless := by
  refine h.feed_broken ?_ hf
  rw [stacks_cut hpos (Nat.le_of_lt hlt)]
  exact hs.cut hpos (by rw [stacks_states_length]; exact Nat.le_of_lt hlt)

theorem Table.Sound.recoveredStack_error (h : t.Sound) {i : Interruption}
    (hs : i.place.stack.stacks.Linked t) (he : t.recoveredStack i = .error flaw) :
    flaw = .endless := by
  unfold Table.recoveredStack at he
  split at he
  next => cases he
  next name _ =>
    split at he
    next => cases he
    next =>
      have hr := resume?_searches t name i.place.stack
      generalize t.resume? name i.place.stack = result at he hr
      cases hr with
      | found => cases he
      | exhausted => cases he
      | broken hpos hlt hf =>
        cases Except.error.inj he
        exact h.feed_cut_broken hs hpos hlt hf

theorem Table.Sound.runWithin_broken (h : t.Sound) {fuel : Nat} (hs : c.stack.stacks.Linked t)
    (hr : t.runWithin fuel c = .broken flaw) : flaw = .endless := by
  induction fuel generalizing c with
  | zero => exact (Halt.broken.inj hr).symm
  | succ fuel ih =>
    rw [Table.runWithin] at hr
    cases hstep : t.step c with
    | advanced next =>
      rw [hstep] at hr
      exact ih ((step_advanced_performs hstep).linked hs) hr
    | accepted => rw [hstep] at hr; cases hr
    | interrupted i => rw [hstep] at hr; cases hr
    | broken flaw' =>
      rw [hstep] at hr
      cases Halt.broken.inj hr
      obtain ⟨name, hf⟩ := step_broken hstep
      exact h.feed_broken hs hf

theorem Recovers.broken_of_sound (h : t.Sound) {limit : Int} {m : Memory}
    {incidents : List Incident} {ending : Ending} (hr : Recovers t limit m c incidents ending)
    (hs : c.stack.stacks.Linked t) (he : ending = .broken flaw) : flaw = .endless := by
  induction hr with
  | accepted => cases he
  | stopped => cases he
  | flawed hr =>
    cases Ending.broken.inj he
    exact h.runWithin_broken hs hr
  | lost hr hk =>
    cases Ending.broken.inj he
    exact h.recoveredStack_error ((run_performs hr).linked hs) hk
  | resumed hr hk _ _ ih =>
    exact ih (((run_performs hr).linked hs).moves (recoveredStack_moves hk)) he

/-- On a linked stack the state below any other than the start state leads to it. -/
theorem Stacks.Linked.below_top {s : Stacks} {states : List Nat} {q : Nat} (h : s.Linked t)
    (hs : s.states = states ++ [q]) (hq : q ≠ 0) :
    ∃ lower p, states = lower ++ [p] ∧ t.Joins p q := by
  rcases List.eq_nil_or_concat states with rfl | ⟨lower, p, rfl⟩
  · have hb := h.bottom
    rw [hs] at hb
    exact absurd (Option.some.inj hb) hq
  · rw [List.concat_eq_append] at hs ⊢
    have hj := h.joined
    rw [hs] at hj
    exact ⟨lower, p, rfl, (List.isChain_append.mp hj).2.2 p (by simp) q (by simp)⟩

end

/-- The live stacks of a recovering parser begin with the start state alone and go from one to the
next by shifts, reductions, cuts with what a token does to the rest, and by leaving the stack as it
is; the stacks of all errors are among them. At every one of them the start state is at the bottom,
there is one value less than there are states, and each state leads to the one above it. So, if
every linked stack can be reduced as its top state lists, no reduction pops too much or leads
nowhere, neither of the live stacks nor of their parts. -/
theorem live_stacks_linked (t : Table) (limit : Int) (source : Text) :
    (t.live limit source).head? = some {} ∧
    ((t.live limit source).map Stack.stacks).IsChain (Stacks.Moves t) ∧
    (∀ e ∈ (t.recover limit source).1,
      e.raised ∈ t.live limit source ∧ e.resumed ∈ t.live limit source) ∧
    (∀ s ∈ t.live limit source, s.stacks.states.head? = some 0 ∧
      s.stacks.values.length + 1 = s.stacks.states.length ∧ s.stacks.states.IsChain t.Joins) ∧
    (t.Sound →
      (t.recover limit source).2 ≠ .broken .underflow ∧
      (t.recover limit source).2 ≠ .broken .missingTarget ∧
      ∀ s ∈ t.live limit source, ∀ name flaw, flaw ≠ .endless →
        t.feed name s ≠ .broken flaw ∧
        ∀ depth, 0 < depth → depth < s.height → t.feed name (s.cut depth) ≠ .broken flaw) := by
  have hlinked := live_linked t limit source
  have hmoves := (List.isChain_map Stack.stacks).mpr (live_isChain t limit source)
  refine ⟨rfl, hmoves, recoverWithin_mem_live, ?_, ?_⟩
  · intro s hs
    have hl := hlinked s hs
    exact ⟨hl.bottom, hl.aligned, hl.joined⟩
  · intro h
    have hend : ∀ flaw, (t.recover limit source).2 = .broken flaw → flaw = .endless := fun flaw =>
      (recover_recovers t limit source).broken_of_sound h (start_linked t)
    refine ⟨fun he => (nomatch hend _ he), fun he => (nomatch hend _ he), ?_⟩
    intro s hs name flaw hne
    exact ⟨fun hf => hne (h.feed_broken (hlinked s hs) hf),
      fun depth hpos hlt hf => hne (h.feed_cut_broken (hlinked s hs) hpos hlt hf)⟩

/-- The four edges of the example tables. -/
theorem pairTable_joins {p q : Nat} (h : pairTable.Joins p q) :
    (p = 0 ∧ q = 1) ∨ (p = 0 ∧ q = 3) ∨ (p = 1 ∧ q = 2) ∨ (p = 3 ∧ q = 4) := by
  obtain ⟨name, hl⟩ := h
  obtain ⟨before, after, he, _⟩ := List.lookup_eq_some_iff.mp hl
  have hm : (name, Action.shift q) ∈ pairTable.actions p := by simp [he]
  match p with
  | 0 =>
    simp only [Table.actions, pairTable, List.getElem?_cons_zero, List.mem_cons, Prod.mk.injEq,
      List.not_mem_nil, or_false, Action.shift.injEq] at hm
    omega
  | 1 =>
    cases (Prod.mk.inj (List.mem_singleton.mp hm)).2
    omega
  | 2 => cases (Prod.mk.inj (List.mem_singleton.mp hm)).2
  | 3 =>
    cases (Prod.mk.inj (List.mem_singleton.mp hm)).2
    omega
  | n + 4 => cases hm

/-- A reduction is listed in one state only, which lies two states above the start. -/
theorem pairTable_sound : pairTable.Sound := by
  intro s hs top name origin count ht hl
  obtain ⟨rfl, rfl, hr⟩ : name = endName ∧ top = 2 ∧
      Action.reduce origin count = .reduce "pair".toList 2 := by
    obtain ⟨before, after, he, _⟩ := List.lookup_eq_some_iff.mp hl
    have hm : (name, Action.reduce origin count) ∈ pairTable.actions top := by simp [he]
    match top with
    | 0 => simp [Table.actions, pairTable] at hm
    | 1 => cases (Prod.mk.inj (List.mem_singleton.mp hm)).2
    | 2 => exact ⟨(Prod.mk.inj (List.mem_singleton.mp hm)).1, rfl,
        (Prod.mk.inj (List.mem_singleton.mp hm)).2⟩
    | 3 => cases (Prod.mk.inj (List.mem_singleton.mp hm)).2
    | n + 4 => cases hm
  obtain ⟨rfl, rfl⟩ := Action.reduce.inj hr
  obtain ⟨states, hstates⟩ := List.getLast?_eq_some_iff.mp ht
  obtain ⟨lower, p, rfl, hp⟩ := hs.below_top hstates (by decide)
  obtain rfl : p = 1 := by
    have := pairTable_joins hp
    omega
  have hcut : (s.cut (lower ++ [1]).length).states = lower ++ [1] := by
    rw [Stacks.cut, hstates, List.take_left']
    rfl
  have hlinked : (s.cut (lower ++ [1]).length).Linked pairTable :=
    hs.cut (by simp) (by simp [hstates])
  obtain ⟨lowest, q, rfl, hq⟩ := hlinked.below_top hcut (by decide)
  obtain rfl : q = 0 := by
    have := pairTable_joins hq
    omega
  refine ⟨0, 3, ?_, rfl⟩
  have hlen : s.states.length - 2 = (lowest ++ [0]).length := by simp [hstates]
  rw [Stacks.pop, hlen, hstates, List.append_assoc (lowest ++ [0]), List.take_left]
  exact List.getLast?_concat

/-- In `aab` the second letter is rejected and taken after a cut to the start state. -/
theorem live_stacks_linked_pairs :
    pairTable.Sound ∧ (pairTable.live 5 ['a', 'a', 'b']).length = 5 ∧
    (∀ s ∈ pairTable.live 5 ['a', 'a', 'b'], s.stacks.states.head? = some 0 ∧
      s.stacks.values.length + 1 = s.stacks.states.length ∧
      s.stacks.states.IsChain pairTable.Joins) ∧
    (pairTable.recover 5 ['a', 'a', 'b']).2 ≠ .broken .underflow ∧
    (pairTable.recover 5 ['a', 'a', 'b']).2 ≠ .broken .missingTarget := by
  obtain ⟨_, _, _, hall, hsound⟩ := live_stacks_linked pairTable 5 ['a', 'a', 'b']
  obtain ⟨hunder, hmissing, _⟩ := hsound pairTable_sound
  exact ⟨pairTable_sound, rfl, hall, hunder, hmissing⟩

end ParseReport
