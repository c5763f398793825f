import ParseReport.Position
import ParseReport.Problem

/-!
Failures of a parser: where, what, and inside which contexts.
-/

namespace ParseReport

/-- A named part of the source in which the parser was, and where that part begins. -/
structure Frame where
  position : Position
  label : Text
deriving DecidableEq, Repr

/-- One failure with its context stack, innermost frame first. -/
structure Failure where
  position : Position
  problem : Problem
  contexts : List Frame := []
deriving BEq

/-- The position at a row and a column, or the fault of its owner. -/
def Position.ofInts (owner : Owner) (row col : Int) : Except Fault Position :=
  match Position.of? row col with
  | some position => .ok position
  | none => .error (.position owner row col)

/-- The frame with a label at a row and a column. -/
def Frame.ofInts (row col : Int) (label : Text) : Except Fault Frame :=
  (Position.ofInts .context row col).map (⟨·, label⟩)

/-- The failure at a row and a column. -/
def Failure.ofInts (row col : Int) (problem : Problem) (contexts : List Frame) :
    Except Fault Failure :=
  (Position.ofInts .failure row col).map (⟨·, problem, contexts⟩)

section

variable {owner : Owner} {row col : Int} {fault : Fault}

theorem Position.ofInts_eq_ok_iff {p : Position} :
    Position.ofInts owner row col = .ok p ↔ (p.row : Int) = row ∧ (p.col : Int) = col := by
  rw [← Position.of?_eq_some_iff]
  unfold Position.ofInts
  cases Position.of? row col <;> simp

theorem Position.ofInts_eq_error_iff :
    Position.ofInts owner row col = .error fault ↔
      (row < 1 ∨ col < 1) ∧ fault = .position owner row col := by
  rw [← Position.of?_eq_none_iff]
  unfold Position.ofInts
  cases Position.of? row col <;> simp [eq_comm]

theorem Frame.ofInts_eq_ok_iff {label : Text} {frame : Frame} :
    Frame.ofInts row col label = .ok frame ↔ (frame.position.row : Int) = row ∧
      (frame.position.col : Int) = col ∧ frame.label = label := by
  rw [← and_assoc, ← @Position.ofInts_eq_ok_iff .context]
  unfold Frame.ofInts
  obtain ⟨p, own⟩ := frame
  cases Position.ofInts .context row col <;> simp [Except.map, eq_comm]

theorem Frame.ofInts_eq_error_iff {label : Text} :
    Frame.ofInts row col label = .error fault ↔
      (row < 1 ∨ col < 1) ∧ fault = .position .context row col := by
  rw [← Position.ofInts_eq_error_iff]
  unfold Frame.ofInts
  cases Position.ofInts .context row col <;> simp [Except.map]

theorem Failure.ofInts_eq_ok_iff {problem : Problem} {contexts : List Frame} {failure : Failure} :
    Failure.ofInts row col problem contexts = .ok failure ↔
      (failure.position.row : Int) = row ∧ (failure.position.col : Int) = col ∧
        failure.problem = problem ∧ failure.contexts = contexts := by
  rw [← and_assoc, ← @Position.ofInts_eq_ok_iff .failure]
  unfold Failure.ofInts
  obtain ⟨p, own, stack⟩ := failure
  cases Position.ofInts .failure row col <;> simp [Except.map, eq_comm]

theorem Failure.ofInts_eq_error_iff {problem : Problem} {contexts : List Frame} :
    Failure.ofInts row col problem contexts = .error fault ↔
      (row < 1 ∨ col < 1) ∧ fault = .position .failure row col := by
  rw [← Position.ofInts_eq_error_iff]
  unfold Failure.ofInts
  cases Position.ofInts .failure row col <;> simp [Except.map]

end

/-- A position as `(row:col)`. -/
def Position.inParens (p : Position) : Text :=
  '(' :: (decimal p.row ++ ':' :: (decimal p.col ++ [')']))

/-- A frame as its label and its position. -/
def Frame.describe (f : Frame) : Text :=
  f.label ++ ' ' :: f.position.inParens

/-- A context stack in one line, outermost frame first. -/
def describeContexts (contexts : List Frame) : Text :=
  List.intercalate " > ".toList (contexts.reverse.map Frame.describe)

end ParseReport
