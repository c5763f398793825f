import ParseReport.Failure

/-!
Dead ends as parsers hand them over, and the failures they stand for.
-/

namespace ParseReport

/-- A context frame that some other program made: an object of some kind that has a label, a
context, a row and a column, or lacks any of them. -/
structure ForeignFrame where
  kind : Text
  label : Option Value
  context : Option Value
  row : Option Int
  col : Option Int

/-- A frame of a context stack. -/
inductive StackEntry
  | ready (frame : Frame)
  | foreign (frame : ForeignFrame)

/-- A dead end: a failure that is ready, one without contexts, one with frames of any sort, or a
value that is no dead end. -/
inductive DeadEnd
  | ready (failure : Failure)
  | plain (row col : Int) (problem : Problem)
  | withContexts (row col : Int) (problem : Problem) (stack : List StackEntry)
  | unsupported (value : Value)

/-- The value, or the fault of a frame that lacks it. -/
def ForeignFrame.require {α : Type} (f : ForeignFrame) (needed : Attribute) :
    Option α → Except Fault α
  | some value => .ok value
  | none => .error (.missingAttribute f.kind needed)

/-- What names a foreign frame: its label, or its context if the label is missing or null. -/
def ForeignFrame.name (f : ForeignFrame) : Except Fault Value :=
  match f.label with
  | some .null | none => f.require .context f.context
  | some label => .ok label

/-- The frame that a foreign one stands for; its attributes are read name first, then row, then
column. -/
def ForeignFrame.toFrame (f : ForeignFrame) : Except Fault Frame := do
  let name ← f.name
  let row ← f.require .row f.row
  let col ← f.require .col f.col
  Frame.ofInts row col name.shown

/-- The frame of a stack entry. -/
def StackEntry.toFrame : StackEntry → Except Fault Frame
  | .ready frame => .ok frame
  | .foreign frame => frame.toFrame

/-- The failure that a dead end stands for; its frames are read before its own position. -/
def DeadEnd.toFailure : DeadEnd → Except Fault Failure
  | .ready failure => .ok failure
  | .plain row col problem => Failure.ofInts row col problem []
  | .withContexts row col problem stack => do
    let contexts ← stack.mapM StackEntry.toFrame
    Failure.ofInts row col problem contexts
  | .unsupported value => .error (.unsupportedItem value)

/-- The failures of dead ends, in order, or the fault of the first one that has one. -/
def failuresOf (items : List DeadEnd) : Except Fault (List Failure) :=
  items.mapM DeadEnd.toFailure

end ParseReport
