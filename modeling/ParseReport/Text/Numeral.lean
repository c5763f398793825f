import ParseReport.Text.Ranges

/-!
Whole numbers as a person types them: blanks around the number, a sign, decimal digits of any
script, and single underscores between digits.
-/

namespace ParseReport

/-- The digit zero of each script; the nine code points after it are the other digits. -/
def scriptZeros : List Nat :=
  [0x30, 0x660, 0x6F0, 0x7C0, 0x966, 0x9E6, 0xA66, 0xAE6, 0xB66, 0xBE6, 0xC66, 0xCE6, 0xD66, 0xDE6,
   0xE50, 0xED0, 0xF20, 0x1040, 0x1090, 0x17E0, 0x1810, 0x1946, 0x19D0, 0x1A80, 0x1A90, 0x1B50,
   0x1BB0, 0x1C40, 0x1C50, 0xA620, 0xA8D0, 0xA900, 0xA9D0, 0xA9F0, 0xAA50, 0xABF0, 0xFF10, 0x104A0,
   0x10D30, 0x11066, 0x110F0, 0x11136, 0x111D0, 0x112F0, 0x11450, 0x114D0, 0x11650, 0x116C0,
   0x11730, 0x118E0, 0x11950, 0x11C50, 0x11D50, 0x11DA0, 0x16A60, 0x16AC0, 0x16B50, 0x1D7CE,
   0x1D7D8, 0x1D7E2, 0x1D7EC, 0x1D7F6, 0x1E140, 0x1E2F0, 0x1E950, 0x1FBF0]

/-- The blank characters that may stand around a number. -/
def blanks : Strides :=
  [(0x9, 0xD, 1), (0x1C, 0x20, 1), (0x85, 0x85, 1), (0xA0, 0xA0, 1), (0x1680, 0x1680, 1),
   (0x2000, 0x200A, 1), (0x2028, 0x2029, 1), (0x202F, 0x202F, 1), (0x205F, 0x205F, 1),
   (0x3000, 0x3000, 1)]

/-- Whether a character is blank. -/
def isBlank (c : Char) : Bool :=
  blanks.hold c

/-- The value of a decimal digit of any script. -/
def digitValue? (c : Char) : Option Nat :=
  (scriptZeros.find? fun first => first ≤ c.toNat && c.toNat ≤ first + 9).map (c.toNat - ·)

/-- The digits' values; an underscore stands between two digits only. -/
def digitValues? : Text → Option (List Nat)
  | [] => none
  | [c] => (digitValue? c).map ([·])
  | c :: '_' :: rest =>
    match digitValue? c, digitValues? rest with
    | some digit, some digits => some (digit :: digits)
    | _, _ => none
  | c :: rest =>
    match digitValue? c, digitValues? rest with
    | some digit, some digits => some (digit :: digits)
    | _, _ => none

/-- The number that a list of decimal digits writes. -/
def ofDigits (digits : List Nat) : Nat :=
  digits.foldl (fun value digit => 10 * value + digit) 0

/-- The most digits that a number may have. -/
def mostDigits : Nat := 4300

/-- A text without the blanks at both ends. -/
def Text.trim (t : Text) : Text :=
  ((t.dropWhile isBlank).reverse.dropWhile isBlank).reverse

/-- The unsigned number that a text writes. -/
def unsigned? (t : Text) : Option Nat :=
  (digitValues? t).bind fun digits =>
    if digits.length ≤ mostDigits then some (ofDigits digits) else none

/-- The whole number that a text writes. -/
def integer? (t : Text) : Option Int :=
  match t.trim with
  | '+' :: digits => (unsigned? digits).map Int.ofNat
  | '-' :: digits => (unsigned? digits).map fun n => -(n : Int)
  | digits => (unsigned? digits).map Int.ofNat

end ParseReport
