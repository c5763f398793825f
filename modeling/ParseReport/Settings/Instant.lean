import ParseReport.Text.Literal
import ParseReport.Value.Calendar

/-!
Days, times and moments as settings documents write them: `2001-02-03`, `04:05:06.7` and both with
a `T` or a blank between them, perhaps with an offset such as `Z` or `+08:00` behind.
-/

namespace ParseReport.Instant

/-- Reads a number of just so many decimal digits. -/
def number? : Nat → Nat → Text → Option (Nat × Text)
  | 0, value, t => some (value, t)
  | _ + 1, _, [] => none
  | count + 1, value, c :: t =>
    if c.isDigit then number? count (10 * value + (c.toNat - '0'.toNat)) t else none

/-- Reads a number of just so many decimal digits behind a mark. -/
def numberBehind? (mark : Char) (count : Nat) (t : Text) : Option (Nat × Text) :=
  (stripStart? [mark] t).bind (number? count 0)

/-- Reads a fraction of a second, if there is one, in millionths; digits beyond them do not
count. -/
def fraction : Text → Nat × Text
  | '.' :: t =>
    match t.span Char.isDigit with
    | ([], _) => (0, '.' :: t)
    | (digits, rest) =>
      (((digits ++ List.replicate 5 '0').take 6).foldl
        (fun value c => 10 * value + (c.toNat - '0'.toNat)) 0, rest)
  | t => (0, t)

/-- Reads a time of day. -/
def time? (t : Text) : Option (TimeOfDay × Text) := do
  let (hour, t) ← number? 2 0 t
  let (minute, t) ← numberBehind? ':' 2 t
  let (second, t) ← numberBehind? ':' 2 t
  let (micro, t) := fraction t
  return (← TimeOfDay.of? hour minute second micro, t)

/-- Reads the time of day that belongs to the day in front of it. -/
def timeBehind? : Text → Option (TimeOfDay × Text)
  | c :: t => if c = 'T' ∨ c = 't' ∨ c = ' ' then time? t else none
  | [] => none

/-- Reads the size of an offset in minutes. -/
def offsetSize? (t : Text) : Option (Nat × Text) := do
  let (hours, t) ← number? 2 0 t
  let (minutes, t) ← numberBehind? ':' 2 t
  if hours < 24 ∧ minutes < 60 then some (60 * hours + minutes, t) else none

/-- Reads an offset from universal time, if there is one. -/
def offset (t : Text) : Option Int × Text :=
  let found : Option (Int × Text) :=
    match t with
    | [] => none
    | c :: rest =>
      if c = 'Z' ∨ c = 'z' then some (0, rest)
      else if c = '+' then (offsetSize? rest).map fun (size, rest) => ((size : Int), rest)
      else if c = '-' then (offsetSize? rest).map fun (size, rest) => (-(size : Int), rest)
      else none
  (found.map Prod.fst, found.elim t Prod.snd)

/-- Reads the three numbers of a day. -/
def dayNumbers? (t : Text) : Option ((Nat × Nat × Nat) × Text) := do
  let (year, t) ← number? 4 0 t
  let (month, t) ← numberBehind? '-' 2 t
  let (day, t) ← numberBehind? '-' 2 t
  return ((year, month, day), t)

end ParseReport.Instant
