import ParseReport.Text.Columns
import ParseReport.Text.Lines
import ParseReport.Text.Numeral

/-!
Breaking a line between its words so that the parts fit a width. A word that is wider than a whole
line is cut.
-/

namespace ParseReport.Wrapping

/-- Cuts a line in front of each character that is not blank and comes after a blank one. -/
def cut : Text → List Text
  | [] => []
  | c :: rest =>
    match rest with
    | [] => [[c]]
    | d :: _ => if isBlank c && !isBlank d then [c] :: cut rest else extendFirst c (cut rest)

/-- The words of a line with the blanks behind them; the first one also has those in front. -/
def words (line : Text) : List Text :=
  match cut line with
  | first :: second :: rest =>
    if first.all isBlank then (first ++ second) :: rest else first :: second :: rest
  | few => few

/-- Cuts a word into parts of a width, of which the first one has some columns less. -/
def fold (width : Nat) : Nat → Text → List Text
  | _, [] => [[]]
  | used, c :: rest =>
    if width < used + columns c then [] :: extendFirst c (fold width (columns c) rest)
    else extendFirst c (fold width (used + columns c) rest)

/-- A text without the blanks at its end. -/
def trimEnd (t : Text) : Text :=
  (t.reverse.dropWhile isBlank).reverse

/-- Puts a text in front of the first part. -/
def putFirst (t : Text) : List Text → List Text
  | [] => [t]
  | part :: parts => (t ++ part) :: parts

/-- Places words from a column on; the first part is what still stands on the line. -/
def place (width : Nat) : Nat → List Text → List Text
  | _, [] => [[]]
  | column, word :: words =>
    if column + (trimEnd word).columns ≤ width then
      putFirst word (place width (column + word.columns) words)
    else if width < (trimEnd word).columns then
      let parts := fold width 0 word
      let last := parts.getLastD []
      let rest := parts.dropLast ++ putFirst last (place width last.columns words)
      if column = 0 then rest else [] :: rest
    else [] :: putFirst word (place width word.columns words)

/-- A part without the blanks at its end that are beyond the width. -/
def dropExcess (width : Nat) (part : Text) : Text :=
  let blank := part.length - (trimEnd part).length
  part.take (part.length - min blank (part.length - width))

/-- The characters of a part that fit a width; where half of a wide one fits, a blank does
instead. -/
def crop : Nat → Text → Text
  | _, [] => []
  | width, c :: rest =>
    if columns c ≤ width then c :: crop (width - columns c) rest
    else List.replicate width ' '

/-- The parts of a line that fit a width. -/
def wrap (width : Nat) (line : Text) : List Text :=
  (place width 0 (words line)).map fun part => crop width (dropExcess width part)

end ParseReport.Wrapping
