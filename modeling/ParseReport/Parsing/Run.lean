import ParseReport.Parsing.ParseError
import ParseReport.Parsing.Stack

/-!
A table parser on a text, up to its first error.
-/

namespace ParseReport

/-- Where a parser stands: in the text and with its stack. -/
structure Configuration where
  cursor : Cursor
  stack : Stack
deriving DecidableEq, Repr

/-- Where parsing a text begins. -/
def Configuration.start (source : Text) : Configuration where
  cursor := .start source
  stack := {}

/-- An error of a run: the offset of the token or character that caused it, the token if there is
one, and where the parser stands, with the token read and the character not. -/
structure Interruption where
  error : ParseError
  offset : Nat
  token : Option Name
  place : Configuration
deriving DecidableEq, Repr

/-- What the next token leads to. -/
inductive Step
  | advanced (next : Configuration)
  | accepted
  | interrupted (interruption : Interruption)
  | broken (flaw : TableFlaw)

/-- How a run ends. -/
inductive Halt
  | accepted
  | interrupted (interruption : Interruption)
  | broken (flaw : TableFlaw)
deriving DecidableEq, Repr

namespace Table

variable (t : Table)

/-- A token that is rejected or out of place. -/
def unexpected (token : Token) (expected : List Name) (place : Configuration) : Interruption where
  error := ⟨.token token.name expected, some token.line, some token.column⟩
  offset := token.offset
  token := some token.name
  place := place

/-- The end of the text where it is not expected. -/
def unexpectedEnd (cursor : Cursor) (stack : Stack) : Interruption where
  error := ⟨.token endName (t.expected stack.top), none, none⟩
  offset := cursor.offset
  token := some endName
  place := ⟨cursor, stack⟩

/-- A place where no allowed terminal matches. If some terminal does, it is an error of that token,
which is read; else it is an error of the characters. -/
def unmatched (stack : Stack) (cursor : Cursor) (allowed : List Name) : Interruption :=
  match t.root.read t.ignored cursor with
  | .token token after => unexpected token allowed ⟨after, stack⟩
  | _ =>
    { error := ⟨.characters allowed, some cursor.line, some cursor.column⟩
      offset := cursor.offset
      token := none
      place := ⟨cursor, stack⟩ }

/-- Reads the next token with the lexer of the state on top and feeds it. -/
def step (c : Configuration) : Step :=
  match (t.lexer c.stack.top).read t.ignored c.cursor with
  | .finished cursor =>
    match t.feed endName c.stack with
    | .shifted _ | .accepted _ => .accepted
    | .rejected stack => .interrupted (t.unexpectedEnd cursor stack)
    | .broken flaw => .broken flaw
  | .token token after =>
    match t.feed token.name c.stack with
    | .shifted stack | .accepted stack => .advanced ⟨after, stack⟩
    | .rejected stack =>
      .interrupted (unexpected token (t.expected stack.top) ⟨after, stack⟩)
    | .broken flaw => .broken flaw
  | .unmatched cursor allowed => .interrupted (t.unmatched c.stack cursor allowed)

/-- Takes steps until the parser accepts or is interrupted. -/
def runWithin : Nat → Configuration → Halt
  | 0, _ => .broken .endless
  | fuel + 1, c =>
    match t.step c with
    | .advanced next => runWithin fuel next
    | .accepted => .accepted
    | .interrupted interruption => .interrupted interruption
    | .broken flaw => .broken flaw

/-- Runs from a configuration. Every step but the last one reads at least one code point, so one
step more than the text has is enough. -/
def run (c : Configuration) : Halt :=
  t.runWithin (c.cursor.rest.length + 1) c

end Table

end ParseReport
