import ParseReport.Text.Lines

/-!
Places in a source text.
-/

namespace ParseReport

/-- A row and a column of a source text, both counted from one. -/
structure Position where
  row : Nat
  col : Nat
  row_pos : 1 ≤ row := by omega
  col_pos : 1 ≤ col := by omega
deriving DecidableEq, Repr

namespace Position

/-- The position at a row and a column, unless one of them is below one. -/
def of? (row col : Int) : Option Position :=
  if h : 1 ≤ row ∧ 1 ≤ col then
    some ⟨row.toNat, col.toNat, by omega, by omega⟩
  else none

/-- The position just past the last character of a text. -/
def endOf (source : Text) : Position where
  row := source.lines.length
  col := (source.lines.getLastD []).length + 1
  row_pos := source.lines_length_pos

theorem not_below_one (p : Position) : ¬((p.row : Int) < 1 ∨ (p.col : Int) < 1) := by
  have hrow := p.row_pos
  have hcol := p.col_pos
  omega

theorem of?_eq_none_iff {row col : Int} : of? row col = none ↔ row < 1 ∨ col < 1 := by
  unfold of?
  split <;> simp <;> omega

theorem of?_eq_some_iff {row col : Int} {p : Position} :
    of? row col = some p ↔ (p.row : Int) = row ∧ (p.col : Int) = col := by
  obtain ⟨r, c, hr, hc⟩ := p
  unfold of?
  split
  · simp only [Option.some.injEq, mk.injEq]
    omega
  · simp only [reduceCtorEq, false_iff]
    omega

end Position

end ParseReport
