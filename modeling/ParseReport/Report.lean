import ParseReport.Failure
import ParseReport.Grouping

/-!
Reports of failures. A report is a sequence of fragments in some output format: for each position
the source lines around it with a caret under the column, then the problems there, one part for
each context stack.
-/

namespace ParseReport

/-- An output format: how a fragment is made from text, how the caret and a context line are set
off, and what ends a line. -/
structure Markup (Out : Type) where
  text : Text → Out
  caret : Out → Out
  context : Out → Out
  newline : Out

/-- How a report reads a failure: the contexts it is listed under, and the phrase of its problem. -/
structure Extraction (ε : Type) where
  contexts : Failure → List Frame
  classify : Problem → Except ε Classification

/-- A failure's own contexts and the phrases of known problems. -/
def Extraction.standard : Extraction Fault where
  contexts := Failure.contexts
  classify := Problem.classify

/-- The number of source lines to show on either side of a failing one. -/
def extraLines (count : Int) : Except Fault Nat :=
  if count < 0 then .error (.negativeExtra count) else .ok count.toNat

section

variable {Out : Type} (m : Markup Out)

/-- A source line behind its number, which is aligned to the right. -/
def numberedLine (width : Nat) (line : Nat × Text) : List Out :=
  [m.text (alignRight width (decimal line.1) ++ "| ".toList ++ line.2), m.newline]

/-- The lines around a row: those before it, its own text (empty beyond the source), and those
after it. -/
def surrounding (extra : Nat) (lines : List (Nat × Text)) (row : Nat) :
    List (Nat × Text) × Text × List (Nat × Text) :=
  ((lines.drop (row - 1 - extra)).take (min extra (row - 1)),
    (lines[row - 1]?.map Prod.snd).getD [],
    (lines.drop row).take extra)

/-- The width of the line numbers around a row: that of the last line shown after it, or of the row
itself if there is none. -/
def numberWidth (row : Nat) (after : List (Nat × Text)) : Nat :=
  (decimal ((after.getLast?.map Prod.fst).getD row)).length

/-- The line with the caret under a column. -/
def caretLine (width col : Nat) : List Out :=
  [m.text (List.replicate (width + col + 1) ' '), m.caret (m.text ['^']), m.newline]

/-- The source lines around a position, with the caret under its column. -/
def sourceBlock (extra : Nat) (lines : List (Nat × Text)) (p : Position) : List Out :=
  let (before, exact, after) := surrounding extra lines p.row
  let width := numberWidth p.row after
  before.flatMap (numberedLine m width)
    ++ numberedLine m width (p.row, exact)
    ++ caretLine m width p.col
    ++ after.flatMap (numberedLine m width)

/-- The line that names the contexts, if there are any. -/
def contextHeader : List Frame → List Out
  | [] => []
  | contexts =>
    [m.text "- ".toList, m.context (m.text (describeContexts contexts)), m.text ":".toList,
      m.newline]

/-- A line of description, indented. -/
def descriptionLine (line : Text) : List Out :=
  [m.text (' ' :: ' ' :: line), m.newline]

variable {ε : Type} (x : Extraction ε)

/-- The part of a report for the failures of one position and one context stack. -/
def contextPart (group : List Frame × List Failure) : Except ε (List Out) := do
  let problems ← group.2.mapM fun failure => x.classify failure.problem
  return contextHeader m group.1 ++ (describe problems).flatMap (descriptionLine m)

/-- The part of a report for the failures of one position. -/
def positionPart (extra : Nat) (lines : List (Nat × Text))
    (group : Position × List Failure) : Except ε (List Out) := do
  let parts ← (groupBy x.contexts group.2).mapM (contextPart m x)
  return sourceBlock m extra lines group.1 ++ m.newline :: parts.flatten

/-- The fragments of a report, or the first problem in its order that has no phrase. -/
def render (extra : Nat) (source : Text) (failures : List Failure) : Except ε (List Out) := do
  let parts ← (groupBy Failure.position failures).mapM (positionPart m x extra source.numberedLines)
  return List.intercalate [m.newline] parts

end

end ParseReport
