import ParseReport.Text

/-!
The place that reading has reached in a source text.
-/

namespace ParseReport

/-- What has been read, last code point first, what is left, and the line and column of the next
code point, both counted from one. -/
structure Cursor where
  before : Text := []
  rest : Text
  line : Nat := 1
  column : Nat := 1
deriving DecidableEq, Repr

namespace Cursor

/-- The beginning of a text. -/
def start (source : Text) : Cursor where
  rest := source

/-- The number of code points that have been read. -/
def offset (c : Cursor) : Nat :=
  c.before.length

/-- The text in which a place is. -/
def text (c : Cursor) : Text :=
  c.before.reverse ++ c.rest

/-- The place behind the next code point. Only a line feed ends a line, and only where line feeds
are counted; the end of the text stays where it is. -/
def step (counted : Bool) (c : Cursor) : Cursor :=
  match c.rest with
  | [] => c
  | d :: rest =>
    if counted ∧ d = '\n' then ⟨d :: c.before, rest, c.line + 1, 1⟩
    else ⟨d :: c.before, rest, c.line, c.column + 1⟩

/-- The place behind a number of code points. -/
def advance (counted : Bool) : Nat → Cursor → Cursor
  | 0, c => c
  | n + 1, c => advance counted n (c.step counted)

theorem step_of_finished {counted : Bool} {c : Cursor} (h : c.rest = []) : c.step counted = c := by
  unfold step
  rw [h]

@[simp] theorem step_rest (counted : Bool) (c : Cursor) :
    (c.step counted).rest = c.rest.drop 1 := by
  unfold step
  split
  next h => simp [h]
  next h => split <;> simp [h]

@[simp] theorem step_before (counted : Bool) (c : Cursor) :
    (c.step counted).before = (c.rest.take 1).reverse ++ c.before := by
  unfold step
  split
  next h => simp [h]
  next h => split <;> simp [h]

@[simp] theorem advance_rest (counted : Bool) (n : Nat) (c : Cursor) :
    (c.advance counted n).rest = c.rest.drop n := by
  induction n generalizing c with
  | zero => rfl
  | succ n ih => rw [advance, ih, step_rest, List.drop_drop, Nat.add_comm]

@[simp] theorem advance_before (counted : Bool) (n : Nat) (c : Cursor) :
    (c.advance counted n).before = (c.rest.take n).reverse ++ c.before := by
  induction n generalizing c with
  | zero => rfl
  | succ n ih =>
    rw [advance, ih, step_before, step_rest, ← List.append_assoc, ← List.reverse_append,
      ← List.take_add, Nat.add_comm]

/-- Reading goes on in the same text. -/
@[simp] theorem advance_text (counted : Bool) (n : Nat) (c : Cursor) :
    (c.advance counted n).text = c.text := by
  rw [text, advance_before, advance_rest, List.reverse_append, List.reverse_reverse,
    List.append_assoc, List.take_append_drop]
  rfl

theorem advance_offset {counted : Bool} {c : Cursor} {n : Nat} (h : n ≤ c.rest.length) :
    (c.advance counted n).offset = c.offset + n := by
  rw [offset, advance_before, List.length_append, List.length_reverse,
    List.length_take_of_le h, Nat.add_comm]
  rfl

theorem step_offset {counted : Bool} {c : Cursor} (h : c.rest ≠ []) :
    (c.step counted).offset = c.offset + 1 :=
  advance_offset (n := 1) (List.length_pos_iff.mpr h)

@[simp] theorem take_text (c : Cursor) : c.text.take c.offset = c.before.reverse :=
  List.take_left' List.length_reverse

@[simp] theorem drop_text (c : Cursor) : c.text.drop c.offset = c.rest :=
  List.drop_left' List.length_reverse

theorem text_length (c : Cursor) : c.text.length = c.offset + c.rest.length := by
  rw [text, List.length_append, List.length_reverse]
  rfl

end Cursor

end ParseReport
