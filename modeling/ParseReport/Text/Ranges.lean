import ParseReport.Text

/-!
Sets of code points as lists of ranges.
-/

namespace ParseReport

/-- Ranges of code points, both ends included. -/
abbrev Ranges := List (Nat × Nat)

/-- Whether one of the ranges holds the character. -/
def Ranges.holds (ranges : Ranges) (c : Char) : Bool :=
  ranges.any fun (low, high) => low ≤ c.toNat && c.toNat ≤ high

/-- Ranges of code points in ascending order, each with the distance between its members. -/
abbrev Strides := List (Nat × Nat × Nat)

/-- Whether one of the ranges holds the number; none behind a greater one is looked at. -/
def Strides.holdNumber : Strides → Nat → Bool
  | [], _ => false
  | (low, high, step) :: rest, n =>
    if n < low then false
    else (n ≤ high && (n - low) % step = 0) || holdNumber rest n

/-- Whether one of the ranges holds the character. -/
def Strides.hold (strides : Strides) (c : Char) : Bool :=
  strides.holdNumber c.toNat

end ParseReport
