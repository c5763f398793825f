import ParseReport.Report.Pictures
import ParseReport.Report.Styled
import ParseReport.Text.Wrapping

/-!
Styled text on a terminal: tabs as blanks, styles as escape sequences.
-/

namespace ParseReport.Terminal

open Styled

/-- The distance between tab stops. -/
def tabWidth : Nat := 8

/-- A text in which each tab is written as blanks up to the next tab stop of its line; the text
begins at a column. -/
def expandTabs : Nat → Text → Text
  | _, [] => []
  | column, c :: rest =>
    if c = '\t' then
      let gap := tabWidth - column % tabWidth
      List.replicate gap ' ' ++ expandTabs (column + gap) rest
    else c :: expandTabs (if c = '\n' then 0 else column + columns c) rest

/-- The column behind a text that begins at a column. -/
def columnAfter : Nat → Text → Nat
  | column, [] => column
  | column, c :: rest =>
    columnAfter
      (if c = '\t' then column + (tabWidth - column % tabWidth)
        else if c = '\n' then 0 else column + columns c)
      rest

/-- The code of a word that sets an attribute of the type. -/
def attributeCode? (word : Text) : Option Nat :=
  [("bold".toList, 1), ("italic".toList, 3), ("underline".toList, 4)].lookup word

/-- The code of a word that sets the colour. -/
def colourCode? (word : Text) : Option Nat :=
  [("black".toList, 30), ("red".toList, 31), ("green".toList, 32), ("yellow".toList, 33),
    ("blue".toList, 34), ("magenta".toList, 35), ("cyan".toList, 36),
    ("white".toList, 37)].lookup word

/-- The codes of a style: its attributes in ascending order, then its last colour. A style with a
word that means nothing has none. -/
def codes (style : Text) : List Nat :=
  let parts := style.words
  if parts.all fun word => (attributeCode? word).isSome || (colourCode? word).isSome then
    let attributes := parts.filterMap attributeCode?
    [1, 3, 4].filter (attributes.contains ·) ++ (parts.filterMap colourCode?).getLast?.toList
  else []

/-- A text between the escape sequences of a style, if the style has codes and the text is not
empty. -/
def paint (style text : Text) : Text :=
  if text = [] ∨ codes style = [] then text
  else
    "\x1b[".toList ++ List.intercalate [';'] ((codes style).map decimal) ++ 'm' :: text
      ++ "\x1b[0m".toList

/-- Cuts a text behind each tab and on both sides of each line feed. -/
def runs : Text → List Text
  | [] => []
  | c :: rest =>
    if c = '\t' ∨ c = '\n' then [c] :: runs rest
    else
      match rest with
      | [] => [[c]]
      | d :: _ => if d = '\n' then [c] :: runs rest else extendFirst c (runs rest)

/-- The runs of a piece that begins at a column, each between the escape sequences of its style;
line feeds stand outside. -/
def paintRuns (style : Text) : Nat → List Text → Text
  | _, [] => []
  | column, run :: rest =>
    (if run = ['\n'] then run else paint style (expandTabs column run))
      ++ paintRuns style (columnAfter column run) rest

/-- Pieces on a terminal, from a column on. -/
def printFrom (color : Bool) : Nat → List Piece → Text
  | _, [] => []
  | column, piece :: pieces =>
    (if color then paintRuns piece.style column (runs piece.text)
      else expandTabs column piece.text)
      ++ printFrom color (columnAfter column piece.text) pieces

/-- What a terminal shows for styled text, with or without escape sequences. -/
def print (color : Bool) (pieces : List Piece) : Text :=
  printFrom color 0 pieces

/-- What a terminal without styles shows for a text. -/
def printText (t : Text) : Text :=
  expandTabs 0 (clean t)

/-- Cuts a text at its line feeds. -/
def rows : Text → List Text
  | [] => [[]]
  | c :: rest => if c = '\n' then [] :: rows rest else extendFirst c (rows rest)

/-- What a terminal of a width shows for a message: names of pictures are replaced, long lines are
broken, and a line ends behind it. -/
def printMessage (width : Nat) (t : Text) : Text :=
  (rows (expandTabs 0 (clean (Pictures.replace t)))).flatMap fun row =>
    (Wrapping.wrap width row).flatMap (· ++ ['\n'])

end ParseReport.Terminal
