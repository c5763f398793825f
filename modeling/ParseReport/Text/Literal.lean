import ParseReport.Text

/-!
Double-quoted string literals. `encode` writes one, `decode` reads it back, also when more text
follows it.
-/

namespace ParseReport.Literal

/-- How one character stands between the quotes: quotes and backslashes behind a backslash,
control characters by their short escape or their hexadecimal code, all else as it is. -/
def encodeChar (c : Char) : Text :=
  if c = '"' then ['\\', '"']
  else if c = '\\' then ['\\', '\\']
  else if c = '\n' then ['\\', 'n']
  else if c = '\r' then ['\\', 'r']
  else if c = '\t' then ['\\', 't']
  else if c = '\x08' then ['\\', 'b']
  else if c = '\x0c' then ['\\', 'f']
  else if c.toNat < 0x20 then '\\' :: 'u' :: hexadecimal 4 c.toNat
  else [c]

/-- A character stands as itself, or behind a backslash with neither a quote nor another backslash
further on. -/
theorem encodeChar_cases (c : Char) :
    (∃ d rest, encodeChar c = '\\' :: d :: rest ∧ '"' ∉ rest ∧ '\\' ∉ rest) ∨
      (encodeChar c = [c] ∧ c ≠ '"' ∧ c ≠ '\\') := by
  have hdigits : ∀ n < 0x20, '"' ∉ hexadecimal 4 n ∧ '\\' ∉ hexadecimal 4 n := by decide
  fun_cases encodeChar c with
  | case8 _ _ _ _ _ _ _ hcontrol => exact .inl ⟨'u', _, rfl, hdigits _ hcontrol⟩
  | case9 hquote hbackslash => exact .inr ⟨rfl, hquote, hbackslash⟩
  | _ => exact .inl ⟨_, [], rfl, List.not_mem_nil, List.not_mem_nil⟩

/-- The literal of a text. -/
def encode (t : Text) : Text :=
  '"' :: (t.flatMap encodeChar ++ ['"'])

/-- The value of a hexadecimal digit of either case. -/
def hexDigit? (c : Char) : Option Nat :=
  if '0' ≤ c ∧ c ≤ '9' then some (c.toNat - '0'.toNat)
  else if 'a' ≤ c ∧ c ≤ 'f' then some (c.toNat - 'a'.toNat + 10)
  else if 'A' ≤ c ∧ c ≤ 'F' then some (c.toNat - 'A'.toNat + 10)
  else none

/-- The number that the first `count` characters write in hexadecimal, and what follows them. -/
def hexNumber? : Nat → Nat → Text → Option (Nat × Text)
  | 0, value, t => some (value, t)
  | _ + 1, _, [] => none
  | count + 1, value, c :: t =>
    match hexDigit? c with
    | some digit => hexNumber? count (16 * value + digit) t
    | none => none

/-- The character that a short escape stands for. -/
def shortEscape? (c : Char) : Option Char :=
  if c = '"' ∨ c = '\\' ∨ c = '/' then some c
  else if c = 'n' then some '\n'
  else if c = 'r' then some '\r'
  else if c = 't' then some '\t'
  else if c = 'b' then some '\x08'
  else if c = 'f' then some '\x0c'
  else none

/-- Reads a code point behind `\u`; one beyond the basic plane is written as a pair of
surrogates. -/
def codePoint? (t : Text) : Option (Char × Text) :=
  match hexNumber? 4 0 t with
  | none => none
  | some (high, rest) =>
    if 0xD800 ≤ high ∧ high < 0xDC00 then
      match rest with
      | '\\' :: 'u' :: rest =>
        match hexNumber? 4 0 rest with
        | none => none
        | some (low, rest) =>
          if 0xDC00 ≤ low ∧ low < 0xE000 then
            some (Char.ofNat (0x10000 + (high - 0xD800) * 0x400 + (low - 0xDC00)), rest)
          else none
      | _ => none
    else if 0xDC00 ≤ high ∧ high < 0xE000 then none
    else some (Char.ofNat high, rest)

/-- Reads up to the closing quote; each step leaves a shorter text, so `fuel` at the text's length
is enough. -/
def decodeBody : Nat → Text → Option (Text × Text)
  | 0, _ => none
  | _ + 1, [] => none
  | fuel + 1, c :: t =>
    if c = '"' then some ([], t)
    else if c = '\\' then
      match t with
      | [] => none
      | 'u' :: t =>
        match codePoint? t with
        | none => none
        | some (d, rest) => (decodeBody fuel rest).map fun (body, rest) => (d :: body, rest)
      | e :: t =>
        match shortEscape? e with
        | none => none
        | some d => (decodeBody fuel t).map fun (body, rest) => (d :: body, rest)
    else if c.toNat < 0x20 then none
    else (decodeBody fuel t).map fun (body, rest) => (c :: body, rest)

/-- The text that the literal at the beginning stands for, and what follows the literal. -/
def decode? : Text → Option (Text × Text)
  | '"' :: t => decodeBody t.length t
  | _ => none

end ParseReport.Literal
