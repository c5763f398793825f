import ParseReport.Grammar.Lexer
import ParseReport.Text.Case

/-!
Parse tables: what a parser does in each state with each symbol.
-/

namespace ParseReport

/-- What a table tells to do with a symbol: go to a state, or replace the last `length` symbols by
`origin`. -/
inductive Action
  | shift (target : Nat)
  | reduce (origin : Name) (length : Nat)
deriving DecidableEq, Repr

/-- A state: the action for each symbol that it knows, and the lexer for the next token. -/
structure TableState where
  actions : List (Name × Action)
  lexer : Lexer

/-- Parse tables. Parsing begins in state zero and succeeds in the accepting state; the root lexer
knows every terminal. -/
structure Table where
  states : List TableState
  accepting : Nat
  root : Lexer
  ignored : List Name

/-- The name of the end of the text. -/
def endName : Name := "$END".toList

/-- Whether a symbol is a terminal: it has letters, and all of them are upper case. -/
def isTerminalName (name : Name) : Bool :=
  name.isUpperCase

namespace Table

variable (t : Table)

/-- The actions of a state; a state that the table does not have knows no symbol. -/
def actions (state : Nat) : List (Name × Action) :=
  match t.states[state]? with
  | some s => s.actions
  | none => []

/-- The lexer of a state. -/
def lexer (state : Nat) : Lexer :=
  match t.states[state]? with
  | some s => s.lexer
  | none => t.root

/-- The terminals that a state knows. -/
def expected (state : Nat) : List Name :=
  ((t.actions state).map Prod.fst).filter isTerminalName

end Table

end ParseReport
