import ParseReport.Text.Numeral
import ParseReport.Text.Printable
import ParseReport.Value.Binary64
import ParseReport.Value.Calendar

/-!
Values of no fixed type, as settings files and foreign parsers give them, and their texts.
-/

namespace ParseReport

/-- A value of no fixed type. A table keeps the order of its entries. -/
inductive Value
  | null
  | bool (b : Bool)
  | int (n : Int)
  | float (x : Binary64)
  | text (t : Text)
  | date (d : Date)
  | time (t : TimeOfDay)
  | moment (m : Moment)
  | list (items : List Value)
  | table (entries : List (Text × Value))

instance : Inhabited Value := ⟨.null⟩

namespace Value

/-- How one character stands in a quoted text: the backslash and the quote behind a backslash, the
three common controls by their letter, other characters that do not show by their code. -/
def quotedChar (quote c : Char) : Text :=
  if c = '\\' ∨ c = quote then ['\\', c]
  else if c = '\n' then ['\\', 'n']
  else if c = '\r' then ['\\', 'r']
  else if c = '\t' then ['\\', 't']
  else if isPrintable c then [c]
  else if c.toNat < 0x100 then '\\' :: 'x' :: hexadecimal 2 c.toNat
  else if c.toNat < 0x10000 then '\\' :: 'u' :: hexadecimal 4 c.toNat
  else '\\' :: 'U' :: hexadecimal 8 c.toNat

/-- A text in single quotes, or in double quotes if it holds a single quote and no double one. -/
def quotedText (t : Text) : Text :=
  let quote := if t.contains '\'' && !t.contains '"' then '"' else '\''
  quote :: (t.flatMap (quotedChar quote) ++ [quote])

mutual

/-- A value as it is named in messages, with texts quoted. -/
def quoted : Value → Text
  | .null => "None".toList
  | .bool true => "True".toList
  | .bool false => "False".toList
  | .int n => signedDecimal n
  | .float x => x.shown
  | .text t => quotedText t
  | .date d => d.quoted
  | .time t => t.quoted
  | .moment m => m.quoted
  | .list items => '[' :: (quotedItems items ++ [']'])
  | .table entries => '\x7b' :: (quotedEntries entries ++ ['\x7d'])

/-- The items of a list, with a comma and a blank between them. -/
def quotedItems : List Value → Text
  | [] => []
  | [v] => quoted v
  | v :: vs => quoted v ++ ", ".toList ++ quotedItems vs

/-- The entries of a table, with a comma and a blank between them. -/
def quotedEntries : List (Text × Value) → Text
  | [] => []
  | [(key, v)] => quotedText key ++ ": ".toList ++ quoted v
  | (key, v) :: entries =>
    quotedText key ++ ": ".toList ++ quoted v ++ ", ".toList ++ quotedEntries entries

end

mutual

/-- Whether a value holds a whole number with too many digits to be written. -/
def holdsLongNumber : Value → Bool
  | .int n => mostDigits < (decimal n.natAbs).length
  | .list items => itemsHoldLongNumber items
  | .table entries => entriesHoldLongNumber entries
  | _ => false

/-- Whether an item of a list holds a whole number with too many digits. -/
def itemsHoldLongNumber : List Value → Bool
  | [] => false
  | v :: vs => holdsLongNumber v || itemsHoldLongNumber vs

/-- Whether an entry of a table holds a whole number with too many digits. -/
def entriesHoldLongNumber : List (Text × Value) → Bool
  | [] => false
  | (_, v) :: entries => holdsLongNumber v || entriesHoldLongNumber entries

end

/-- A value as text: a text is itself, a day and a time are written out, anything else is named as
in messages. -/
def shown : Value → Text
  | .text t => t
  | .date d => d.shown
  | .time t => t.shown
  | .moment m => m.shown
  | v => v.quoted

/-- What kind of value it is, as messages name it. -/
def kind : Value → Text
  | .null => "NoneType".toList
  | .bool _ => "bool".toList
  | .int _ => "int".toList
  | .float _ => "float".toList
  | .text _ => "str".toList
  | .date _ => "date".toList
  | .time _ => "time".toList
  | .moment _ => "datetime".toList
  | .list _ => "list".toList
  | .table _ => "dict".toList

/-- The number that a value stands for, as a fraction; a truth value stands for one or zero. -/
def fraction? : Value → Option (Int × Nat)
  | .bool b => some (if b then 1 else 0, 1)
  | .int n => some (n, 1)
  | .float x => x.fraction?
  | _ => none

mutual

/-- Whether two values are the same: numbers by size, lists item by item, tables by their entries
in any order, all else by what it is made of. -/
def same : Value → Value → Bool
  | .null, .null => true
  | .text s, .text t => s = t
  | .date d, .date e => d = e
  | .time s, .time t => s = t
  | .moment m, .moment n => m = n
  | .list vs, .list ws => sameItems vs ws
  | .table vs, .table ws => vs.length = ws.length && sameEntries vs ws
  | .float x, .float y =>
    match x.fraction?, y.fraction? with
    | some (a, b), some (c, d) => a * d = c * b
    | none, none => x = y && x ≠ .nan
    | _, _ => false
  | v, w =>
    match v.fraction?, w.fraction? with
    | some (a, b), some (c, d) => a * d = c * b
    | _, _ => false

/-- Whether two lists are the same item by item. -/
def sameItems : List Value → List Value → Bool
  | [], [] => true
  | v :: vs, w :: ws => same v w && sameItems vs ws
  | _, _ => false

/-- Whether each entry has the same value in another table. -/
def sameEntries : List (Text × Value) → List (Text × Value) → Bool
  | [], _ => true
  | (key, v) :: vs, ws =>
    (match ws.lookup key with
      | some w => same v w
      | none => false) && sameEntries vs ws

end

instance : BEq Value := ⟨same⟩

end Value

end ParseReport
