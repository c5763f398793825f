import ParseReport.Report

/-!
Reports as styled text: pieces of text, each with the name of a style or with none.
-/

namespace ParseReport.Styled

/-- A piece of text in one style; the empty name is no style. -/
structure Piece where
  text : Text
  style : Text := []
deriving DecidableEq, Repr

/-- The styles of the decorated fragments. -/
structure Styles where
  caret : Text := "bold red".toList
  context : Text := "bold cyan".toList
deriving DecidableEq, Repr

/-- The controls that styled text does not hold: bell, backspace, vertical tab, form feed and
carriage return. -/
def isDropped (c : Char) : Bool :=
  c = '\x07' || c = '\x08' || c = '\x0b' || c = '\x0c' || c = '\r'

/-- A text without the controls that styled text does not hold. -/
def clean (t : Text) : Text :=
  t.filter fun c => !isDropped c

/-- Fragments are pieces; the caret and the contexts have the given styles. -/
def markup (styles : Styles) : Markup Piece where
  text t := ⟨clean t, []⟩
  caret piece := { piece with style := styles.caret }
  context piece := { piece with style := styles.context }
  newline := ⟨['\n'], []⟩

/-- A report as styled text; it is empty if there are no failures. -/
def report {ε : Type} (styles : Styles) (x : Extraction ε) (extra : Nat) (source : Text)
    (failures : List Failure) : Except ε (List Piece) :=
  render (markup styles) x extra source failures

/-- The text of pieces. -/
def plain (pieces : List Piece) : Text :=
  pieces.flatMap Piece.text

/-- A stretch of text in a style, from one offset up to another. -/
structure Span where
  start : Nat
  stop : Nat
  style : Text
deriving DecidableEq, Repr

/-- The styled stretches of pieces that begin at an offset. -/
def spansFrom : Nat → List Piece → List Span
  | _, [] => []
  | start, piece :: pieces =>
    let stop := start + piece.text.length
    if piece.style = [] ∨ piece.text = [] then spansFrom stop pieces
    else ⟨start, stop, piece.style⟩ :: spansFrom stop pieces

/-- The styled stretches of a text. -/
def spans (pieces : List Piece) : List Span :=
  spansFrom 0 pieces

end ParseReport.Styled
