import ParseReport.Settings.Instant
import ParseReport.Text.Numeral
import ParseReport.Value

/-!
Settings documents: lines `key = value`, tables under headers, comments behind `#`. Values are
texts, whole numbers, decimals, truth values, days and times, lists and tables in braces. A key may
have several parts with dots between them, and no key may be set twice.
-/

namespace ParseReport.Document

/-- Why a document cannot be read: it is not one, or it has a number with too many digits. -/
inductive ReadError
  | invalid
  | tooManyDigits (count : Nat)
deriving DecidableEq, Repr

/-- A key with its parts. -/
abbrev Path := List Text

/-- The entries of a table. -/
abbrev Entries := List (Text × Value)

/-- What was read, and the text behind it. -/
abbrev Reading (α : Type) := Except ReadError (α × Text)

/-- Whether a character separates words within a line. -/
def isGap (c : Char) : Bool :=
  c = ' ' || c = '\t'

/-- Whether a character is a control that no line may hold. -/
def isControl (c : Char) : Bool :=
  (c.toNat < 0x20 && c ≠ '\t') || c = '\x7f'

/-- Whether a character may stand in a key without quotes. -/
def isBareKey (c : Char) : Bool :=
  ('a' ≤ c && c ≤ 'z') || ('A' ≤ c && c ≤ 'Z') || c.isDigit || c = '-' || c = '_'

/-- A text without the gap at its beginning. -/
def skipGap (t : Text) : Text :=
  t.dropWhile isGap

/-- A text without the comment at its beginning. -/
def skipComment : Text → Except ReadError Text
  | '#' :: t =>
    let (comment, rest) := t.span (· ≠ '\n')
    if comment.any isControl then .error .invalid else .ok rest
  | t => .ok t

/-- A text without the gaps, line ends and comments at its beginning. -/
def skipFiller : Nat → Text → Except ReadError Text
  | 0, t => .ok t
  | fuel + 1, t =>
    match t.dropWhile fun c => isGap c || c = '\n' with
    | '#' :: rest => skipComment ('#' :: rest) >>= skipFiller fuel
    | rest => .ok rest

/-- Puts characters in front of a text that is read. -/
def prepend (cs : Text) : Reading Text → Reading Text :=
  Except.map fun (t, rest) => (cs ++ t, rest)

/-- Reads a code point of some hexadecimal digits. -/
def codePoint (digits : Nat) (t : Text) : Reading Text :=
  match Literal.hexNumber? digits 0 t with
  | none => .error .invalid
  | some (n, rest) => if n.isValidChar then .ok ([Char.ofNat n], rest) else .error .invalid

/-- Reads what stands behind a backslash. In a text of several lines a backslash at the end of a
line joins it with the next line that is not blank. -/
def escape (multi : Bool) : Text → Reading Text
  | [] => .error .invalid
  | c :: t =>
    if multi && (isGap c || c = '\n') then
      match if c = '\n' then '\n' :: t else skipGap t with
      | [] => .ok ([], [])
      | d :: rest =>
        if d = '\n' then .ok ([], rest.dropWhile fun c => isGap c || c = '\n')
        else .error .invalid
    else if c = 'u' then codePoint 4 t
    else if c = 'U' then codePoint 8 t
    else if c = '/' then .error .invalid
    else
      match Literal.shortEscape? c with
      | some d => .ok ([d], t)
      | none => .error .invalid

/-- Reads a text in double quotes up to its end. -/
def basicBody (multi : Bool) : Nat → Text → Reading Text
  | 0, _ => .error .invalid
  | _ + 1, [] => .error .invalid
  | fuel + 1, c :: t =>
    if c = '"' then
      if multi then
        match t with
        | '"' :: '"' :: rest => .ok ([], rest)
        | t => prepend [c] (basicBody multi fuel t)
      else .ok ([], t)
    else if c = '\\' then
      match escape multi t with
      | .ok (cs, rest) => prepend cs (basicBody multi fuel rest)
      | .error e => .error e
    else if isControl c && !(multi && c = '\n') then .error .invalid
    else prepend [c] (basicBody multi fuel t)

/-- Reads a text in single quotes up to its end; nothing in it is escaped. -/
def literalBody (multi : Bool) : Text → Reading Text
  | [] => .error .invalid
  | '\'' :: t =>
    if multi then
      match t with
      | '\'' :: '\'' :: rest => .ok ([], rest)
      | t => prepend ['\''] (literalBody multi t)
    else .ok ([], t)
  | c :: t =>
    if isControl c && !(multi && c = '\n') then .error .invalid
    else prepend [c] (literalBody multi t)

/-- Reads one or two quotes that belong to a text of several lines although they stand in front of
its closing quotes. -/
def extraQuotes (quote : Char) : Reading Text → Reading Text :=
  Except.map fun (t, rest) =>
    match rest with
    | [] => (t, [])
    | c :: rest' =>
      if c = quote then
        match rest' with
        | [] => (t ++ [quote], [])
        | d :: rest'' => if d = quote then (t ++ [quote, quote], rest'') else (t ++ [quote], rest')
      else (t, rest)

/-- A text without the line feed at its beginning. -/
def dropLineFeed : Text → Text
  | '\n' :: t => t
  | t => t

/-- Reads a text in quotes of either sort. -/
def quotedText : Text → Reading Text
  | '"' :: '"' :: '"' :: t => extraQuotes '"' (basicBody true t.length (dropLineFeed t))
  | '"' :: t => basicBody false t.length t
  | '\'' :: '\'' :: '\'' :: t => extraQuotes '\'' (literalBody true (dropLineFeed t))
  | '\'' :: t => literalBody false t
  | _ => .error .invalid

/-- Reads one part of a key. -/
def keyPart : Text → Reading Text
  | [] => .error .invalid
  | '"' :: t => basicBody false t.length t
  | '\'' :: t => literalBody false t
  | t =>
    match t.span isBareKey with
    | ([], _) => .error .invalid
    | part => .ok part

/-- Reads a key and the gap behind it. -/
def key : Nat → Text → Except ReadError (Path × Text)
  | 0, _ => .error .invalid
  | fuel + 1, t => do
    let (part, rest) ← keyPart t
    match skipGap rest with
    | '.' :: rest => (key fuel (skipGap rest)).map fun (parts, rest) => (part :: parts, rest)
    | rest => .ok ([part], rest)

/-- Reads further digits, with single underscores between them. -/
def moreDigits (isDigit : Char → Bool) : Text → Text × Text
  | [] => ([], [])
  | '_' :: c :: t =>
    if isDigit c then
      let (ds, rest) := moreDigits isDigit t
      (c :: ds, rest)
    else ([], '_' :: c :: t)
  | c :: t =>
    if isDigit c then
      let (ds, rest) := moreDigits isDigit t
      (c :: ds, rest)
    else ([], c :: t)

/-- Reads digits, of which there is at least one. -/
def someDigits? (isDigit : Char → Bool) : Text → Option (Text × Text)
  | [] => none
  | c :: t =>
    if isDigit c then
      let (ds, rest) := moreDigits isDigit t
      some (c :: ds, rest)
    else none

/-- The number that digits of a base write. -/
def inBase (base : Nat) (digits : Text) : Nat :=
  digits.foldl (fun n c => base * n + (Literal.hexDigit? c).getD 0) 0

/-- Reads a number in base 16, 8 or 2, which is marked as such. -/
def marked? : Text → Option (Value × Text)
  | '0' :: mark :: t =>
    let base : Option (Nat × (Char → Bool)) :=
      if mark = 'x' then some (16, fun c => (Literal.hexDigit? c).isSome)
      else if mark = 'o' then some (8, fun c => '0' ≤ c && c ≤ '7')
      else if mark = 'b' then some (2, fun c => c = '0' || c = '1')
      else none
    base.bind fun (base, isDigit) =>
      (someDigits? isDigit t).map fun (ds, rest) => (.int (inBase base ds), rest)
  | _ => none

/-- Reads the sign of a number: whether it is negative. -/
def sign : Text → Bool × Text
  | '+' :: t => (false, t)
  | '-' :: t => (true, t)
  | t => (false, t)

/-- Reads the digits in front of the point; a zero stands alone. -/
def wholeDigits? : Text → Option (Text × Text)
  | '0' :: t => some (['0'], t)
  | t => someDigits? Char.isDigit t

/-- Reads the point and the digits behind it, if there are any. -/
def fractionDigits? : Text → Option (Text × Text)
  | '.' :: t => someDigits? Char.isDigit t
  | _ => none

/-- Reads an exponent of ten, if there is one. -/
def exponent? : Text → Option (Int × Text)
  | [] => none
  | c :: t =>
    if c = 'e' ∨ c = 'E' then
      let (negative, t) := sign t
      (someDigits? Char.isDigit t).map fun (ds, rest) =>
        (if negative then -(inBase 10 ds : Int) else inBase 10 ds, rest)
    else none

/-- Reads a decimal number: whole, if it has neither a fraction nor an exponent. -/
def decimal? (t : Text) : Option (Reading Value) :=
  let (negative, t) := sign t
  (wholeDigits? t).map fun (whole, rest) =>
    match fractionDigits? rest, exponent? ((fractionDigits? rest).elim rest Prod.snd) with
    | none, none =>
      if mostDigits < whole.length then .error (.tooManyDigits whole.length)
      else .ok (.int (if negative then -(inBase 10 whole : Int) else inBase 10 whole), rest)
    | fraction, exponent =>
      let digits := whole ++ fraction.elim [] Prod.fst
      let scale := exponent.elim 0 Prod.fst - (fraction.elim [] Prod.fst).length
      let rest := exponent.elim (fraction.elim rest Prod.snd) Prod.snd
      .ok (.float (.ofDecimal negative (inBase 10 digits) scale), rest)

/-- Reads an infinity or what is no number. -/
def special? (t : Text) : Option (Value × Text) :=
  let (negative, t) := sign t
  match stripStart? "inf".toList t with
  | some rest => some (.float (.infinite negative), rest)
  | none => (stripStart? "nan".toList t).map (.float .nan, ·)

/-- Reads a day, with the time behind it if there is one. What has the form of a day must be one of
the calendar. -/
def day? (t : Text) : Option (Reading Value) :=
  (Instant.dayNumbers? t).map fun ((year, month, day), rest) =>
    match Date.of? year month day with
    | none => .error .invalid
    | some date =>
      match Instant.timeBehind? rest with
      | none => .ok (.date date, rest)
      | some (time, rest) =>
        let (offset, rest) := Instant.offset rest
        .ok (.moment ⟨date, time, offset⟩, rest)

/-- Reads a number of any sort. -/
def anyNumber (t : Text) : Reading Value :=
  match marked? t with
  | some read => .ok read
  | none =>
    match decimal? t with
    | some read => read
    | none =>
      match special? t with
      | some read => .ok read
      | none => .error .invalid

/-- Reads a value that has no parts. -/
def scalar (t : Text) : Reading Value :=
  match stripStart? "true".toList t with
  | some rest => .ok (.bool true, rest)
  | none =>
    match stripStart? "false".toList t with
    | some rest => .ok (.bool false, rest)
    | none =>
      match day? t with
      | some read => read
      | none =>
        match Instant.time? t with
        | some (time, rest) => .ok (.time time, rest)
        | none => anyNumber t

/-- Changes the table behind a path and makes the tables on the way that are missing. A list on
the way stands for its last table, if that is wished. -/
def descend (throughLists : Bool) (change : Entries → Option Entries) :
    Path → Entries → Option Entries
  | [], entries => change entries
  | name :: path, entries =>
    let put (v : Value) : Entries :=
      entries.map fun (other, w) => if other = name then (other, v) else (other, w)
    match entries.lookup name with
    | none =>
      (descend throughLists change path []).map fun inner => entries ++ [(name, .table inner)]
    | some (.table inner) =>
      (descend throughLists change path inner).map fun inner => put (.table inner)
    | some (.list items) =>
      match throughLists, items.getLast? with
      | true, some (.table inner) =>
        (descend throughLists change path inner).map fun inner =>
          put (.list (items.dropLast ++ [.table inner]))
      | _, _ => none
    | some _ => none

/-- Adds an entry whose name is new. -/
def addEntry (name : Text) (v : Value) (entries : Entries) : Option Entries :=
  if (entries.lookup name).isSome then none else some (entries ++ [(name, v)])

/-- Whether a path leads to one of some values or into it. -/
def leadsInto (values : List Path) (path : Path) : Bool :=
  path ≠ [] && values.any fun value => value.isPrefixOf path

/-- Whether a value has parts. -/
def hasParts : Value → Bool
  | .list _ | .table _ => true
  | _ => false

mutual

/-- Reads a value. Every part has a shorter text in front of it, so `fuel` at twice the length of
the text is enough. -/
def value : Nat → Text → Reading Value
  | 0, _ => .error .invalid
  | fuel + 1, t =>
    match t with
    | [] => .error .invalid
    | c :: rest =>
      if c = '"' ∨ c = '\'' then (quotedText t).map fun (text, rest) => (.text text, rest)
      else if c = '[' then
        match skipFiller rest.length rest with
        | .error e => .error e
        | .ok (']' :: rest) => .ok (.list [], rest)
        | .ok rest => (items fuel rest).map fun (vs, rest) => (.list vs, rest)
      else if c = '\x7b' then
        match skipGap rest with
        | '\x7d' :: rest => .ok (.table [], rest)
        | rest => (inlineEntries fuel [] [] rest).map fun (entries, rest) => (.table entries, rest)
      else scalar t

/-- Reads the items of a list up to its end; a comma may stand behind the last one. -/
def items : Nat → Text → Except ReadError (List Value × Text)
  | 0, _ => .error .invalid
  | fuel + 1, t => do
    let (v, rest) ← value fuel t
    match ← skipFiller rest.length rest with
    | ']' :: rest => .ok ([v], rest)
    | ',' :: rest =>
      match ← skipFiller rest.length rest with
      | ']' :: rest => .ok ([v], rest)
      | rest => (items fuel rest).map fun (vs, rest) => (v :: vs, rest)
    | _ => .error .invalid

/-- Reads the entries of a table in braces up to its end, with the entries so far and those of them
that have parts. -/
def inlineEntries :
    Nat → Entries → List Path → Text → Except ReadError (Entries × Text)
  | 0, _, _, _ => .error .invalid
  | fuel + 1, entries, closed, t => do
    let (path, rest) ← key t.length t
    match rest with
    | '=' :: rest =>
      let (v, rest) ← value fuel (skipGap rest)
      if leadsInto closed path then .error .invalid
      else
        match descend false (addEntry (path.getLastD []) v) path.dropLast entries with
        | none => .error .invalid
        | some entries =>
          match skipGap rest with
          | '\x7d' :: rest => .ok (entries, rest)
          | ',' :: rest =>
            let closed := if hasParts v then path :: closed else closed
            inlineEntries fuel entries closed (skipGap rest)
          | _ => .error .invalid
    | _ => .error .invalid

end

/-- A document as far as it is read: its entries, the tables that no header may open any more, those
that none may open below the next header, the values that nothing may be added to, and the path of
the header. -/
structure Draft where
  entries : Entries := []
  opened : List Path := []
  pending : List Path := []
  closed : List Path := []
  header : Path := []

namespace Draft

/-- The paths of the tables on the way to a key below the header. -/
def onTheWay (d : Draft) (path : Path) : List Path :=
  (List.range (path.length - 1)).map fun n => d.header ++ path.take (n + 1)

/-- Sets a key below the header. -/
def set (d : Draft) (path : Path) (v : Value) : Except ReadError Draft :=
  let parent := d.header ++ path.dropLast
  if (d.onTheWay path).any d.opened.contains || leadsInto d.closed parent then .error .invalid
  else
    match descend true (addEntry (path.getLastD []) v) parent d.entries with
    | none => .error .invalid
    | some entries =>
      .ok { d with
        entries := entries
        pending := d.onTheWay path ++ d.pending
        closed := if hasParts v then (d.header ++ path) :: d.closed else d.closed }

/-- A draft at a new header. -/
def atHeader (d : Draft) (path : Path) : Draft :=
  { d with opened := d.pending ++ d.opened, pending := [], header := path }

/-- Opens a table by its header. -/
def openTable (d : Draft) (path : Path) : Except ReadError Draft :=
  let d := d.atHeader path
  if d.opened.contains path || leadsInto d.closed path then .error .invalid
  else
    match descend true some path d.entries with
    | none => .error .invalid
    | some entries => .ok { d with entries := entries, opened := path :: d.opened }

/-- Adds an empty table to the list of a name. -/
def appendTable (name : Text) (entries : Entries) : Option Entries :=
  match entries.lookup name with
  | none => some (entries ++ [(name, .list [.table []])])
  | some (.list items) =>
    some (entries.map fun (other, w) =>
      if other = name then (other, .list (items ++ [.table []])) else (other, w))
  | some _ => none

/-- Opens a further table of a list by its header. -/
def openItem (d : Draft) (path : Path) : Except ReadError Draft :=
  let d := d.atHeader path
  if leadsInto d.closed path then .error .invalid
  else
    match descend true (appendTable (path.getLastD [])) path.dropLast d.entries with
    | none => .error .invalid
    | some entries =>
      .ok { d with
        entries := entries
        opened := path :: d.opened.filter fun other => !path.isPrefixOf other
        closed := d.closed.filter fun other => !path.isPrefixOf other }

end Draft

/-- Reads a statement: a header in one or two pairs of brackets, or a key with its value. -/
def statement (d : Draft) : Text → Except ReadError (Draft × Text)
  | '[' :: '[' :: t => do
    let (path, rest) ← key t.length (skipGap t)
    match rest with
    | ']' :: ']' :: rest => (d.openItem path).map (·, rest)
    | _ => .error .invalid
  | '[' :: t => do
    let (path, rest) ← key t.length (skipGap t)
    match rest with
    | ']' :: rest => (d.openTable path).map (·, rest)
    | _ => .error .invalid
  | t => do
    let (path, rest) ← key t.length t
    match rest with
    | '=' :: rest =>
      let (v, rest) ← value (2 * rest.length) (skipGap rest)
      (d.set path v).map (·, rest)
    | _ => .error .invalid

/-- Reads statements up to the end of the text, one on a line. -/
def statements : Nat → Draft → Text → Except ReadError Entries
  | 0, d, _ => .ok d.entries
  | fuel + 1, d, t =>
    match skipGap t with
    | [] => .ok d.entries
    | '\n' :: rest => statements fuel d rest
    | '#' :: rest =>
      match skipComment ('#' :: rest) with
      | .error e => .error e
      | .ok rest => statements fuel d (dropLineFeed rest)
    | t =>
      match statement d t with
      | .error e => .error e
      | .ok (d, rest) =>
        match skipComment (skipGap rest) with
        | .error e => .error e
        | .ok [] => .ok d.entries
        | .ok ('\n' :: rest) => statements fuel d rest
        | .ok _ => .error .invalid

/-- A text in which a carriage return with a line feed is a line feed. -/
def unifyPairs : Text → Text
  | [] => []
  | '\r' :: '\n' :: t => '\n' :: unifyPairs t
  | c :: t => c :: unifyPairs t

/-- The entries of a document. -/
def read (t : Text) : Except ReadError Entries :=
  statements (t.length + 1) {} (unifyPairs t)

end ParseReport.Document
