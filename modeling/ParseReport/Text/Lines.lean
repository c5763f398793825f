import ParseReport.Text

/-!
The lines of a text. A line ends at a carriage return with a line feed, at a carriage return or
at a line feed, and nowhere else.
-/

namespace ParseReport

/-- Puts a character in front of the first line. -/
def extendFirst (c : Char) : List Text → List Text
  | [] => [[c]]
  | line :: rest => (c :: line) :: rest

/-- The lines of a text without their breaks; an empty text is one empty line. -/
def Text.lines : Text → List Text
  | [] => [[]]
  | '\r' :: '\n' :: rest => [] :: Text.lines rest
  | c :: rest =>
    if c = '\r' ∨ c = '\n' then [] :: Text.lines rest else extendFirst c (Text.lines rest)

/-- Pairs each element with its number, counting from `n`. -/
def numberedFrom {α : Type} (n : Nat) : List α → List (Nat × α)
  | [] => []
  | x :: xs => (n, x) :: numberedFrom (n + 1) xs

/-- The lines of a text, numbered from one. -/
def Text.numberedLines (t : Text) : List (Nat × Text) :=
  numberedFrom 1 t.lines

/-- A text with every line break written as a line feed. -/
def Text.unifyBreaks : Text → Text
  | [] => []
  | '\r' :: '\n' :: rest => '\n' :: Text.unifyBreaks rest
  | c :: rest => (if c = '\r' then '\n' else c) :: Text.unifyBreaks rest

theorem extendFirst_ne_nil (c : Char) (lines : List Text) : extendFirst c lines ≠ [] := by
  cases lines <;> simp [extendFirst]

theorem Text.lines_ne_nil (t : Text) : t.lines ≠ [] := by
  fun_cases Text.lines t
  · simp
  · simp
  · simp
  · exact extendFirst_ne_nil _ _

theorem Text.lines_length_pos (t : Text) : 1 ≤ t.lines.length :=
  List.length_pos_iff.mpr t.lines_ne_nil

@[simp] theorem numberedFrom_length {α : Type} (n : Nat) (xs : List α) :
    (numberedFrom n xs).length = xs.length := by
  induction xs generalizing n with
  | nil => rfl
  | cons x xs ih => simp [numberedFrom, ih]

end ParseReport
