import ParseReport.Grammar.Table

/-!
The stack of a table parser, and what one token does to it.
-/

namespace ParseReport

/-- A state on the stack together with the value pushed with it. A value is known by the number of
values made before it, so a value made anew is a different one. -/
structure Entry where
  state : Nat
  value : Nat
deriving DecidableEq, Repr

/-- A parser's stack, topmost entry first, above the start state; and the number of values made so
far. -/
structure Stack where
  entries : List Entry := []
  made : Nat := 0
deriving DecidableEq, Repr

/-- What can be wrong with tables: a reduction of more symbols than the stack has, a reduced symbol
that leads nowhere, or reductions without end. -/
inductive TableFlaw
  | underflow
  | missingTarget
  | endless
deriving DecidableEq, Repr

namespace Stack

/-- The state on top. -/
def top (s : Stack) : Nat :=
  match s.entries with
  | [] => 0
  | e :: _ => e.state

/-- The stack with a state and a new value on top. -/
def push (s : Stack) (state : Nat) : Stack :=
  ⟨⟨state, s.made⟩ :: s.entries, s.made + 1⟩

/-- The stack without its topmost entries, if it has so many. -/
def pop? (s : Stack) (count : Nat) : Option Stack :=
  if count ≤ s.entries.length then some { s with entries := s.entries.drop count } else none

end Stack

/-- What one action of a table does with a token. -/
inductive Acted
  | shifted (stack : Stack)
  | reduced (stack : Stack)
  | rejected
  | broken (flaw : TableFlaw)
deriving DecidableEq, Repr

/-- What a token does to a stack: it is shifted; it is the end and completes the parse; it is
rejected, perhaps after some reductions; or the tables are flawed. -/
inductive Fed
  | shifted (stack : Stack)
  | accepted (stack : Stack)
  | rejected (stack : Stack)
  | broken (flaw : TableFlaw)
deriving DecidableEq, Repr

namespace Table

variable (t : Table)

/-- The next action for a token. -/
def act (name : Name) (s : Stack) : Acted :=
  match (t.actions s.top).lookup name with
  | none => .rejected
  | some (.shift target) => .shifted (s.push target)
  | some (.reduce origin length) =>
    match s.pop? length with
    | none => .broken .underflow
    | some below =>
      match (t.actions below.top).lookup origin with
      | some (.shift target) => .reduced (below.push target)
      | _ => .broken .missingTarget

/-- Acts for a token until it is shifted or rejected, or until the end of the text has led to the
accepting state. -/
def feedWithin (name : Name) : Nat → Stack → Fed
  | 0, _ => .broken .endless
  | fuel + 1, s =>
    match t.act name s with
    | .rejected => .rejected s
    | .broken flaw => .broken flaw
    | .shifted s => .shifted s
    | .reduced s =>
      if name = endName ∧ s.top = t.accepting then .accepted s else feedWithin name fuel s

/-- More reductions than this for one token come back to a state of affairs that they have met
before: a stack that grows by more than one entry for each state of the table, or that stays as
low, repeats what it did. -/
def mostReductions (s : Stack) : Nat :=
  (s.entries.length + 2) * (t.states.length + 2).pow (t.states.length + 2)

/-- Feeds a token to a stack. -/
def feed (name : Name) (s : Stack) : Fed :=
  t.feedWithin name (t.mostReductions s) s

end Table

end ParseReport
