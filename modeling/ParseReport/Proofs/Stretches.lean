import ParseReport.Proofs.Cascades

/-!
Stretches of bad input. Between two errors the parser may accept no token at all. The second one is
then recorded or not by what is read there: the parser has made reductions exactly if the state on
top reduces by it, and these are enough for an error of its own.
-/

namespace ParseReport

namespace Table

variable (t : Table)

/-- The name of what the lexer of the state on top finds next, a token or the end of the text. -/
def lookahead? (c : Configuration) : Option Name :=
  match (t.lexer c.stack.top).read t.ignored c.cursor with
  | .finished _ => some endName
  | .token token _ => some token.name
  | .unmatched _ _ => none

/-- The state on top reduces by what its lexer finds next. -/
def ReducesAhead (c : Configuration) : Prop :=
  ∃ name origin count, t.lookahead? c = some name ∧
    (t.actions c.stack.top).lookup name = some (.reduce origin count)

/-- The number of tokens that a parser accepts in a bounded run. -/
def tokensAcceptedWithin : Nat → Configuration → Nat
  | 0, _ => 0
  | fuel + 1, c =>
    match t.step c with
    | .advanced next => tokensAcceptedWithin fuel next + 1
    | _ => 0

/-- The number of tokens that a parser accepts in a run. -/
def tokensAccepted (c : Configuration) : Nat :=
  t.tokensAcceptedWithin (c.cursor.rest.length + 1) c

/-- The errors of a number of rounds, each with the configuration from which the parser ran into
it. -/
def approachesWithin (limit : Int) : Nat → Memory → Configuration → List (Configuration × Incident)
  | 0, _, _ => []
  | rounds + 1, m, c =>
    match t.run c with
    | .interrupted i =>
      match t.recoveredStack i with
      | .error _ => [(c, incident m i i.place.stack)]
      | .ok stack =>
        let now := incident m i stack
        let m := remember m now
        if i.error.isEnd ∨ limit ≤ m.recorded then [(c, now)]
        else (c, now) :: approachesWithin limit rounds m ⟨recoveredCursor i, stack⟩
    | _ => []

/-- The errors of a text, each with the configuration from which the parser ran into it. -/
def approaches (limit : Int) (source : Text) : List (Configuration × Incident) :=
  t.approachesWithin limit (source.length + 1) {} (.start source)

/-- After the error that it ran into from a configuration, the parser goes on in another one. -/
def GoesOn (c : Configuration) (e : Incident) (next : Configuration) : Prop :=
  ∃ i, t.run c = .interrupted i ∧ e.TellsOf i ∧ t.recoveredStack i = .ok e.resumed ∧
    next = ⟨recoveredCursor i, e.resumed⟩

end Table

section

variable {t : Table} {limit : Int} {rounds fuel : Nat} {m : Memory} {c : Configuration}
  {i : Interruption} {name : Name} {s after : Stack}

theorem act_rejected_iff :
    t.act name s = .rejected ↔ (t.actions s.top).lookup name = none := by
  unfold Table.act
  split
  next hl => simp [hl]
  next hl => simp [hl]
  next hl =>
    rw [hl]
    refine iff_of_false ?_ (by simp)
    split
    next => exact Acted.noConfusion
    next => split <;> exact Acted.noConfusion

/-- Feeding a token that is rejected in the end does something exactly if its first action is a
reduction. -/
theorem feedHistoryWithin_eq_nil_iff (h : t.feedWithin name fuel s = .rejected after) :
    t.feedHistoryWithin name fuel s = [] ↔
      ∀ origin count, (t.actions s.top).lookup name ≠ some (.reduce origin count) := by
  cases fuel with
  | zero => cases h
  | succ fuel =>
    rw [Table.feedWithin] at h
    rw [Table.feedHistoryWithin]
    cases ha : t.act name s with
    | rejected => simp [act_rejected_iff.mp ha]
    | broken flaw => rw [ha] at h; cases h
    | shifted next => rw [ha] at h; cases h
    | reduced next =>
      obtain ⟨origin, count, _, _, hl, _⟩ := act_reduced_iff.mp ha
      refine iff_of_false ?_ fun hn => hn origin count hl
      dsimp only
      split <;> exact List.cons_ne_nil _ _

theorem stepHistory_eq_nil_iff (h : t.step c = .interrupted i) :
    t.stepHistory c = [] ↔ ¬t.ReducesAhead c := by
  have hread : ∀ {name after}, t.lookahead? c = some name →
      t.feed name c.stack = .rejected after →
      (t.feedHistory name c.stack = [] ↔ ¬t.ReducesAhead c) := by
    intro name after hl hf
    rw [Table.feedHistory, feedHistoryWithin_eq_nil_iff hf]
    constructor
    · rintro hn ⟨name', origin, count, hl', hr⟩
      cases Option.some.inj (hl.symm.trans hl')
      exact hn origin count hr
    · intro hn origin count hr
      exact hn ⟨name, origin, count, hl, hr⟩
  rcases step_interrupted h with ⟨cursor, stack, hr, hf, _⟩ | ⟨token, behind, stack, hr, hf, _⟩ |
    ⟨cursor, allowed, hr, _⟩
  · rw [Table.stepHistory, hr]
    exact hread (by rw [Table.lookahead?, hr]) hf
  · rw [Table.stepHistory, hr]
    exact hread (by rw [Table.lookahead?, hr]) hf
  · rw [Table.stepHistory, hr]
    refine iff_of_true rfl ?_
    rintro ⟨name, origin, count, hl, _⟩
    rw [Table.lookahead?, hr] at hl
    cases hl

/-- A run without an accepted token is over with its first step. -/
theorem runHistoryWithin_eq_nil_iff (h : t.runWithin fuel c = .interrupted i)
    (hnone : t.tokensAcceptedWithin fuel c = 0) :
    t.runHistoryWithin fuel c = [] ↔ ¬t.ReducesAhead c := by
  cases fuel with
  | zero => cases h
  | succ fuel =>
    rw [Table.runWithin] at h
    rw [Table.tokensAcceptedWithin] at hnone
    rw [Table.runHistoryWithin]
    cases hs : t.step c with
    | advanced next => rw [hs] at hnone; cases hnone
    | accepted => rw [hs] at h; cases h
    | interrupted j => exact stepHistory_eq_nil_iff hs
    | broken flaw => rw [hs] at h; cases h

theorem approachesWithin_incidents :
    (t.approachesWithin limit rounds m c).map Prod.snd = (t.recoverWithin limit rounds m c).1 := by
  induction rounds generalizing m c with
  | zero => rfl
  | succ rounds ih =>
    rw [Table.approachesWithin, Table.recoverWithin]
    cases t.run c with
    | accepted => rfl
    | broken flaw => rfl
    | interrupted i =>
      dsimp only
      cases t.recoveredStack i with
      | error flaw => rfl
      | ok stack =>
        dsimp only
        split
        next => rfl
        next => rw [List.map_cons, ih]

/-- A round meets no error and is the last one, or it runs into an error. Behind the error there is
nothing more, or parsing goes on with the stack that recovering from it has left. -/
theorem approachesWithin_cases (t : Table) (limit : Int) (rounds : Nat) (m : Memory)
    (c : Configuration) :
    t.approachesWithin limit (rounds + 1) m c = [] ∨
    ∃ i stack later, t.run c = .interrupted i ∧
      t.approachesWithin limit (rounds + 1) m c = (c, Table.incident m i stack) :: later ∧
      (later = [] ∨ t.recoveredStack i = .ok stack ∧
        later = t.approachesWithin limit rounds (Table.remember m (Table.incident m i stack))
          ⟨Table.recoveredCursor i, stack⟩) := by
  rw [Table.approachesWithin]
  cases hr : t.run c with
  | accepted => exact .inl rfl
  | broken flaw => exact .inl rfl
  | interrupted i =>
    dsimp only
    cases hk : t.recoveredStack i with
    | error flaw => exact .inr ⟨i, _, [], rfl, rfl, .inl rfl⟩
    | ok stack =>
      refine .inr ⟨i, stack, ?_⟩
      dsimp only
      split
      next => exact ⟨[], rfl, rfl, .inl rfl⟩
      next => exact ⟨_, rfl, rfl, .inr ⟨hk, rfl⟩⟩

/-- The first of some rounds begins where they begin, and its error is recorded unless it is raised
on the stack that is remembered. -/
theorem approachesWithin_head :
    ∀ first ∈ (t.approachesWithin limit rounds m c).head?, first.1 = c ∧
      ∃ i, t.run c = .interrupted i ∧ first.2.recorded = !m.isCascade i.place.stack := by
  intro first hf
  cases rounds with
  | zero => cases hf
  | succ rounds =>
    rcases approachesWithin_cases t limit rounds m c with hnil | ⟨i, stack, later, hr, hcons, _⟩
    · rw [hnil] at hf
      cases hf
    · rw [hcons] at hf
      cases Option.some.inj hf
      exact ⟨rfl, i, hr, rfl⟩

/-- In the rounds from a configuration on, what is read next decides on an error before which no
token was accepted. -/
theorem approachesWithin_isChain (hs : c.stack.Fresh) :
    (t.approachesWithin limit rounds m c).IsChain fun previous next =>
      t.GoesOn previous.1 previous.2 next.1 ∧
      (t.tokensAccepted next.1 = 0 → (next.2.recorded = true ↔ t.ReducesAhead next.1)) := by
  induction rounds generalizing m c with
  | zero => exact .nil
  | succ rounds ih =>
    rcases approachesWithin_cases t limit rounds m c with
      hnil | ⟨i, stack, later, hr, hcons, hlater | ⟨hk, hlater⟩⟩
    · rw [hnil]
      exact .nil
    · rw [hcons, hlater]
      exact .singleton _
    · have hs' : stack.Fresh := recoveredStack_fresh ((run_performs hr).fresh hs) hk
      rw [hcons, hlater]
      apply (ih (c := ⟨Table.recoveredCursor i, stack⟩) hs').cons
      intro next hn
      obtain ⟨hbegin, j, hj, hd⟩ := approachesWithin_head next hn
      rw [hbegin]
      refine ⟨⟨i, hr, ⟨rfl, rfl, rfl⟩, hk, rfl⟩, fun hnone => ?_⟩
      -- the stack that is remembered is the one on which the run begins
      have hc := isCascade_iff (m := Table.remember m (Table.incident m i stack)) hs' rfl hj
      have hh := runHistoryWithin_eq_nil_iff hj hnone
      rw [hd, Bool.not_eq_true', ← Bool.not_eq_true, hc]
      exact not_iff_comm.mp hh.symm

/-- The errors of a text are met one after another, the next one from where the parser goes on after
the one before it. If it accepts no token in between, the next error is recorded exactly if the
state on top of the stack that was left reduces by what is read there, a token or the end of the
text. So it is left out if it is about characters that no terminal of that state matches, or about a
token that this state rejects at once. -/
theorem unaccepted_recorded_iff (t : Table) (limit : Int) (source : Text) :
    (t.approaches limit source).map Prod.snd = (t.recover limit source).1 ∧
    (t.approaches limit source).IsChain fun previous next =>
      t.GoesOn previous.1 previous.2 next.1 ∧
      (t.tokensAccepted next.1 = 0 → (next.2.recorded = true ↔ t.ReducesAhead next.1)) :=
  ⟨approachesWithin_incidents, approachesWithin_isChain (by intro e he; cases he)⟩

end

/-- Tables for the letter `a` in any number of brackets. By the end of the text an `a` is reduced in
an open bracket as well. -/
def bracketTable : Table where
  states := [
    ⟨[("A".toList, .shift 1), ("OPEN".toList, .shift 2), ("value".toList, .shift 3)],
      ⟨[.ofText "A".toList ['a'], .ofText "OPEN".toList ['(']], []⟩⟩,
    ⟨[(endName, .reduce "value".toList 1), ("CLOSE".toList, .reduce "value".toList 1)],
      ⟨[.ofText "CLOSE".toList [')']], []⟩⟩,
    ⟨[("A".toList, .shift 1), ("OPEN".toList, .shift 2), ("value".toList, .shift 4)],
      ⟨[.ofText "A".toList ['a'], .ofText "OPEN".toList ['(']], []⟩⟩,
    ⟨[], ⟨[], []⟩⟩,
    ⟨[("CLOSE".toList, .shift 5)], ⟨[.ofText "CLOSE".toList [')']], []⟩⟩,
    ⟨[(endName, .reduce "value".toList 3), ("CLOSE".toList, .reduce "value".toList 3)],
      ⟨[.ofText "CLOSE".toList [')']], []⟩⟩]
  accepting := 3
  root := ⟨[.ofText "A".toList ['a'], .ofText "OPEN".toList ['('],
    .ofText "CLOSE".toList [')']], []⟩
  ignored := []

/-- In `(a!!` nothing is accepted behind the first `!`. The second one is left out, for nothing is
reduced by it, and the end of the text is recorded. -/
theorem unaccepted_recorded_iff_brackets :
    ∃ first second third, bracketTable.approaches 5 "(a!!".toList = [first, second, third] ∧
      bracketTable.tokensAccepted second.1 = 0 ∧ bracketTable.tokensAccepted third.1 = 0 ∧
      second.2.recorded = false ∧ ¬bracketTable.ReducesAhead second.1 ∧
      third.2.recorded = true ∧ bracketTable.ReducesAhead third.1 := by
  obtain ⟨_, hchain⟩ := unaccepted_recorded_iff bracketTable 5 "(a!!".toList
  refine ⟨_, _, _, rfl, rfl, rfl, rfl, ?_, rfl, ?_⟩
  · intro hahead
    exact absurd ((hchain.rel.2 rfl).mpr hahead) (by decide)
  · exact (hchain.tail.rel.2 rfl).mp rfl

/-- In `(a!` the parser accepts nothing between the bad character and the end of the text, and both
are recorded. -/
theorem end_recorded_behind_character :
    ∃ first second, bracketTable.approaches 5 "(a!".toList = [first, second] ∧
      first.2.error.isCharacters = true ∧ second.2.error.isEnd = true ∧
      bracketTable.tokensAccepted second.1 = 0 ∧ second.2.recorded = true :=
  ⟨_, _, rfl, rfl, rfl, rfl, rfl⟩

end ParseReport
