import ParseReport.Grammar.Table

/-!
The errors that a parser raises.
-/

namespace ParseReport

/-- What a parser stumbled over: characters that no allowed terminal matches, a token that it did
not expect, the end of the text, or something that it does not tell. -/
inductive Obstacle
  | characters (allowed : List Name)
  | token (name : Name) (expected : List Name)
  | endOfText (expected : List Name)
  | unspecified
deriving DecidableEq, Repr

/-- An error with the line and the column that the parser gives for it, if it gives any. -/
structure ParseError where
  obstacle : Obstacle
  line : Option Int := none
  column : Option Int := none
deriving DecidableEq, Repr

namespace ParseError

/-- The names that an error lists. -/
def names (e : ParseError) : List Name :=
  match e.obstacle with
  | .characters allowed => allowed
  | .token _ expected => expected
  | .endOfText expected => expected
  | .unspecified => []

/-- Whether an error is about characters. -/
def isCharacters (e : ParseError) : Bool :=
  match e.obstacle with
  | .characters _ => true
  | _ => false

/-- Whether an error is about the token that ends the text. -/
def isEnd (e : ParseError) : Bool :=
  match e.obstacle with
  | .token name _ => name = endName
  | _ => false

end ParseError

end ParseReport
