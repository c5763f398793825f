import ParseReport.Failure
import ParseReport.Parsing.ParseError
import ParseReport.Text.Identifier

/-!
The failures that a parse error stands for: one for each terminal that was expected there.
-/

namespace ParseReport

/-- The terminals of a grammar with the text of those that match one text only, and the names of
those that a parser skips. -/
structure Vocabulary where
  literals : List (Name × Option Text) := []
  ignored : List Name := []

/-- What the terminals that many grammars share stand for. -/
def commonTerminals : List (Name × Problem) :=
  [("INT".toList, .expectingInt),
    ("SIGNED_INT".toList, .expectingInt),
    ("FLOAT".toList, .expectingFloat),
    ("SIGNED_FLOAT".toList, .expectingFloat),
    ("NUMBER".toList, .expectingNumber),
    ("SIGNED_NUMBER".toList, .expectingNumber),
    ("DECIMAL".toList, .expectingNumber),
    ("HEXDIGIT".toList, .expectingHex),
    ("NAME".toList, .expectingVariable),
    ("CNAME".toList, .expectingVariable)]

/-- The text of a terminal that matches one text only. -/
def Vocabulary.literal? (v : Vocabulary) (name : Name) : Option Text :=
  (v.literals.lookup name).join

/-- The problem of a missing terminal: the end, a keyword or symbol by its text, a common terminal
by its meaning, any other by its name. -/
def Vocabulary.problemFor (v : Vocabulary) (name : Name) : Problem :=
  if name = endName then .expectingEnd
  else
    match v.literal? name with
    | some text => if text.isIdentifier then .expectingKeyword text else .expectingSymbol text
    | none => (commonTerminals.lookup name).getD (.expecting name)

/-- Where an error is: at its line and column if both lie in the text's coordinates, else at the end
of the text, and there too if it is about the end. -/
def ParseError.position (e : ParseError) (source : Text) : Position :=
  if e.isEnd then .endOf source
  else
    match e.line, e.column with
    | some line, some column => (Position.of? line column).getD (.endOf source)
    | _, _ => .endOf source

/-- The distinct terminals that an error lists, ascending, without ignored ones. -/
def ParseError.terminals (e : ParseError) (v : Vocabulary) : List Name :=
  distinctSorted (e.names.filter fun name => !v.ignored.contains name)

/-- The problems of an error; there is always one. -/
def ParseError.problems (e : ParseError) (v : Vocabulary) : List Problem :=
  let missing := (e.terminals v).map v.problemFor
  if e.isCharacters || missing.isEmpty then .unexpectedChar :: missing else missing

/-- The failures that an error stands for, all at its position and without contexts. -/
def ParseError.failures (e : ParseError) (source : Text) (v : Vocabulary) : List Failure :=
  (e.problems v).map fun problem => ⟨e.position source, problem, []⟩

end ParseReport
