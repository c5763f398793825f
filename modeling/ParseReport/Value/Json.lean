import ParseReport.Text.Literal
import ParseReport.Value

/-!
Values as JSON documents.
-/

namespace ParseReport.Json

/-- Whether a character may stand between the parts of a document. -/
def isSpace (c : Char) : Bool :=
  c = ' ' || c = '\t' || c = '\n' || c = '\r'

/-- A text without the space at its beginning. -/
def skipSpace (t : Text) : Text :=
  t.dropWhile isSpace

/-- The decimal digits at the beginning of a text, and what follows them. -/
def digits (t : Text) : Text × Text :=
  t.span Char.isDigit

/-- The number that decimal digits write. -/
def natural (digits : Text) : Nat :=
  digits.foldl (fun n c => 10 * n + (c.toNat - '0'.toNat)) 0

/-- Reads the exponent of a number, zero if there is none. -/
def exponent? : Text → Option (Bool × Int × Text)
  | c :: t =>
    if c = 'e' ∨ c = 'E' then
      let (negative, t) :=
        match t with
        | '+' :: t => (false, t)
        | '-' :: t => (true, t)
        | t => (false, t)
      let (ds, rest) := digits t
      if ds = [] then none
      else some (true, if negative then -(natural ds : Int) else natural ds, rest)
    else some (false, 0, c :: t)
  | [] => some (false, 0, [])

/-- Reads a number: whole if it has neither a fraction nor an exponent. -/
def number? (t : Text) : Option (Value × Text) :=
  let (negative, t) :=
    match t with
    | '-' :: t => (true, t)
    | t => (false, t)
  let (whole, rest) := digits t
  if whole = [] then none
  else
    let (fraction, rest) :=
      match rest with
      | '.' :: rest => digits rest
      | rest => ([], rest)
    match exponent? rest with
    | none => none
    | some (scaled, exponent, rest) =>
      if fraction = [] ∧ scaled = false then
        some (.int (if negative then -(natural whole : Int) else natural whole), rest)
      else
        some (.float (.ofDecimal negative (natural (whole ++ fraction))
          (exponent - fraction.length)), rest)

/-- Reads one of the three named values. -/
def named? (t : Text) : Option (Value × Text) :=
  match stripStart? "null".toList t with
  | some rest => some (.null, rest)
  | none =>
    match stripStart? "true".toList t with
    | some rest => some (.bool true, rest)
    | none => (stripStart? "false".toList t).map (.bool false, ·)

mutual

/-- Reads a value. Every call for a part has a shorter text in front of it, so `fuel` at twice the
length of the text is enough. -/
def readValue : Nat → Text → Option (Value × Text)
  | 0, _ => none
  | fuel + 1, t =>
    match skipSpace t with
    | [] => none
    | '"' :: rest => (Literal.decode? ('"' :: rest)).map fun (text, rest) => (.text text, rest)
    | '[' :: rest =>
      match skipSpace rest with
      | ']' :: rest => some (.list [], rest)
      | rest => (readItems fuel rest).map fun (items, rest) => (.list items, rest)
    | '\x7b' :: rest =>
      match skipSpace rest with
      | '\x7d' :: rest => some (.table [], rest)
      | rest => (readEntries fuel rest).map fun (entries, rest) => (.table entries, rest)
    | c :: rest => if c = '-' ∨ c.isDigit then number? (c :: rest) else named? (c :: rest)

/-- Reads the items of a list up to its end. -/
def readItems : Nat → Text → Option (List Value × Text)
  | 0, _ => none
  | fuel + 1, t =>
    match readValue fuel t with
    | none => none
    | some (v, rest) =>
      match skipSpace rest with
      | ',' :: rest => (readItems fuel rest).map fun (vs, rest) => (v :: vs, rest)
      | ']' :: rest => some ([v], rest)
      | _ => none

/-- Reads the entries of a table up to its end. -/
def readEntries : Nat → Text → Option (List (Text × Value) × Text)
  | 0, _ => none
  | fuel + 1, t =>
    match Literal.decode? (skipSpace t) with
    | none => none
    | some (key, rest) =>
      match skipSpace rest with
      | ':' :: rest =>
        match readValue fuel rest with
        | none => none
        | some (v, rest) =>
          match skipSpace rest with
          | ',' :: rest => (readEntries fuel rest).map fun (vs, rest) => ((key, v) :: vs, rest)
          | '\x7d' :: rest => some ([(key, v)], rest)
          | _ => none
      | _ => none

end

/-- The value that a document holds. -/
def read? (t : Text) : Option Value :=
  match readValue (2 * t.length + 1) t with
  | some (v, rest) => if skipSpace rest = [] then some v else none
  | none => none

mutual

/-- The document of a value; days and times are written as texts. -/
def write : Value → Text
  | .null => "null".toList
  | .bool true => "true".toList
  | .bool false => "false".toList
  | .int n => signedDecimal n
  | .float x => x.shown
  | .text t => Literal.encode t
  | .date d => Literal.encode d.shown
  | .time t => Literal.encode t.shown
  | .moment m => Literal.encode m.shown
  | .list items => '[' :: (writeItems items ++ [']'])
  | .table entries => '\x7b' :: (writeEntries entries ++ ['\x7d'])

/-- Items with commas between them. -/
def writeItems : List Value → Text
  | [] => []
  | [v] => write v
  | v :: vs => write v ++ ',' :: writeItems vs

/-- Entries with commas between them. -/
def writeEntries : List (Text × Value) → Text
  | [] => []
  | [(key, v)] => Literal.encode key ++ ':' :: write v
  | (key, v) :: entries => Literal.encode key ++ ':' :: (write v ++ ',' :: writeEntries entries)

end

end ParseReport.Json
