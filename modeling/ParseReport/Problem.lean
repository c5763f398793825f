import ParseReport.Fault
import ParseReport.Text.Literal

/-!
What a parser can complain about, and how a report phrases it.
-/

namespace ParseReport

/-- What went wrong at a position. The last form holds a value from elsewhere that has no phrase. -/
inductive Problem
  | expecting (text : Text)
  | expectingInt
  | expectingHex
  | expectingOctal
  | expectingBinary
  | expectingFloat
  | expectingNumber
  | expectingVariable
  | expectingSymbol (symbol : Text)
  | expectingKeyword (keyword : Text)
  | expectingEnd
  | unexpectedChar
  | custom (message : Text)
  | badRepeat
  | unknown (value : Value)
deriving BEq

/-- A problem phrased for a report: something that was expected there, or a sentence of its own. -/
inductive Classification
  | expected (text : Text)
  | other (text : Text)
deriving DecidableEq, Repr

namespace Problem

/-- The phrase of a problem; texts, symbols and keywords are quoted as literals. -/
def classify : Problem → Except Fault Classification
  | .expecting text => .ok (.expected (Literal.encode text))
  | .expectingInt => .ok (.expected "an integer".toList)
  | .expectingHex => .ok (.expected "an hexadecimal number".toList)
  | .expectingOctal => .ok (.expected "an octal number".toList)
  | .expectingBinary => .ok (.expected "a binary number".toList)
  | .expectingFloat => .ok (.expected "a floating point number".toList)
  | .expectingNumber => .ok (.expected "a number".toList)
  | .expectingVariable => .ok (.expected "a variable".toList)
  | .expectingSymbol symbol => .ok (.expected (Literal.encode symbol))
  | .expectingKeyword keyword => .ok (.expected (Literal.encode keyword))
  | .expectingEnd => .ok (.expected "the end".toList)
  | .unexpectedChar => .ok (.other "Unexpected char".toList)
  | .custom message => .ok (.other message)
  | .badRepeat => .ok (.other "Bad repetition".toList)
  | .unknown value => .error (.unknownProblem value)

end Problem

namespace Classification

/-- The text of an expectation. -/
def expected? : Classification → Option Text
  | .expected text => some text
  | .other _ => none

/-- The text of a sentence of its own. -/
def other? : Classification → Option Text
  | .expected _ => none
  | .other text => some text

theorem expected?_eq_some_iff {c : Classification} {text : Text} :
    c.expected? = some text ↔ c = .expected text := by
  cases c <;> simp [expected?]

theorem other?_eq_some_iff {c : Classification} {text : Text} :
    c.other? = some text ↔ c = .other text := by
  cases c <;> simp [other?]

end Classification

/-- The line for the expected texts, given ascending and each once; there is none without them. -/
def expectingLine? : List Text → Option Text
  | [] => none
  | [text] => some ("Expecting ".toList ++ text)
  | texts => some ("Expecting one of ".toList ++ List.intercalate ", ".toList texts)

/-- The lines for the problems of one place, in ascending order: the distinct sentences, and one
line for all distinct expected texts. -/
def describe (problems : List Classification) : List Text :=
  let others := distinctSorted (problems.filterMap Classification.other?)
  match expectingLine? (distinctSorted (problems.filterMap Classification.expected?)) with
  | none => others
  | some line => insertSorted line others

end ParseReport
