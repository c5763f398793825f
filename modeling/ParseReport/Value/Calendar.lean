import ParseReport.Text

/-!
Days of the calendar, times of day, and moments: a time on a day, perhaps with the distance of its
clock from universal time. Each is named in two ways, as people write it and as messages list its
parts.
-/

namespace ParseReport

/-- Whether a year has a leap day. -/
def isLeapYear (year : Nat) : Bool :=
  year % 4 = 0 && (year % 100 ≠ 0 || year % 400 = 0)

/-- The number of days of a month. -/
def daysInMonth (year month : Nat) : Nat :=
  if month = 2 then (if isLeapYear year then 29 else 28)
  else if month = 4 ∨ month = 6 ∨ month = 9 ∨ month = 11 then 30
  else 31

/-- A day of the calendar. -/
structure Date where
  year : Nat
  month : Nat
  day : Nat
  on_calendar : 0 < year ∧ 0 < month ∧ month ≤ 12 ∧ 0 < day ∧ day ≤ daysInMonth year month
deriving DecidableEq, Repr

/-- A time of day, down to millionths of a second. -/
structure TimeOfDay where
  hour : Nat
  minute : Nat
  second : Nat
  micro : Nat
  on_clock : hour < 24 ∧ minute < 60 ∧ second < 60 ∧ micro < 1000000
deriving DecidableEq, Repr

/-- A time on a day. The offset tells by how many minutes the clock is ahead of universal time, if
that is known. -/
structure Moment where
  date : Date
  time : TimeOfDay
  offset : Option Int := none
deriving DecidableEq, Repr

/-- A number in decimal digits, with zeros in front up to a width. -/
def padded (width n : Nat) : Text :=
  List.replicate (width - (decimal n).length) '0' ++ decimal n

/-- Texts with a comma and a blank between them, in parentheses behind a name. -/
def calling (name : Text) (parts : List Text) : Text :=
  name ++ '(' :: (List.intercalate ", ".toList parts ++ [')'])

namespace Date

/-- The day of a year and a month, if the calendar has it. -/
def of? (year month day : Nat) : Option Date :=
  if h : 0 < year ∧ 0 < month ∧ month ≤ 12 ∧ 0 < day ∧ day ≤ daysInMonth year month then
    some ⟨year, month, day, h⟩
  else none

/-- A day as year, month and day with dashes. -/
def shown (d : Date) : Text :=
  padded 4 d.year ++ '-' :: (padded 2 d.month ++ '-' :: padded 2 d.day)

/-- The numbers of a day. -/
def parts (d : Date) : List Text :=
  [decimal d.year, decimal d.month, decimal d.day]

/-- A day as messages name it. -/
def quoted (d : Date) : Text :=
  calling "datetime.date".toList d.parts

end Date

namespace TimeOfDay

/-- The time of an hour, a minute, a second and millionths of it, if a clock shows it. -/
def of? (hour minute second micro : Nat) : Option TimeOfDay :=
  if h : hour < 24 ∧ minute < 60 ∧ second < 60 ∧ micro < 1000000 then
    some ⟨hour, minute, second, micro, h⟩
  else none

/-- A time as hours, minutes and seconds with colons, and millionths behind a point if there are
any. -/
def shown (t : TimeOfDay) : Text :=
  padded 2 t.hour ++ ':' :: (padded 2 t.minute ++ ':' :: padded 2 t.second)
    ++ if t.micro = 0 then [] else '.' :: padded 6 t.micro

/-- The numbers of a time; seconds are left out if there are none, millionths too. -/
def parts (t : TimeOfDay) : List Text :=
  [decimal t.hour, decimal t.minute]
    ++ (if t.second = 0 ∧ t.micro = 0 then [] else [decimal t.second])
    ++ if t.micro = 0 then [] else [decimal t.micro]

/-- A time as messages name it. -/
def quoted (t : TimeOfDay) : Text :=
  calling "datetime.time".toList t.parts

end TimeOfDay

/-- An offset from universal time as a sign, hours and minutes. -/
def offsetShown (offset : Int) : Text :=
  (if offset < 0 then '-' else '+')
    :: (padded 2 (offset.natAbs / 60) ++ ':' :: padded 2 (offset.natAbs % 60))

/-- An offset from universal time as messages name it: in whole days and the seconds after them. -/
def offsetQuoted (offset : Int) : Text :=
  if offset = 0 then "datetime.timezone.utc".toList
  else
    let seconds (n : Int) : Text := "seconds=".toList ++ signedDecimal (60 * n)
    let parts :=
      if offset < 0 then ["days=-1".toList, seconds (offset + 1440)] else [seconds offset]
    calling "datetime.timezone".toList [calling "datetime.timedelta".toList parts]

namespace Moment

/-- A moment as its day, its time and its offset. -/
def shown (m : Moment) : Text :=
  m.date.shown ++ ' ' :: (m.time.shown ++ m.offset.elim [] offsetShown)

/-- A moment as messages name it. -/
def quoted (m : Moment) : Text :=
  calling "datetime.datetime".toList (m.date.parts ++ m.time.parts
    ++ (m.offset.map fun offset => "tzinfo=".toList ++ offsetQuoted offset).toList)

end Moment

end ParseReport
