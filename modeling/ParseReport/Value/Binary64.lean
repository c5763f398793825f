import ParseReport.Text

/-!
Binary floating point numbers of 64 bits: the one nearest to a decimal, and the shortest decimal
that is nearest to one.
-/

namespace ParseReport

/-- A number `± mantissa · 2 ^ exponent`, an infinity, or no number. The mantissa is below `2 ^ 53`,
and at least `2 ^ 52` unless the exponent is the least one. -/
inductive Binary64
  | finite (negative : Bool) (mantissa : Nat) (exponent : Int)
  | infinite (negative : Bool)
  | nan
deriving DecidableEq, Repr

namespace Binary64

/-- The exponent of the smallest positive number. -/
def leastExponent : Int := -1074

/-- The exponent of the greatest finite number. -/
def greatestExponent : Int := 971

/-- The least mantissa above the least exponent, `2 ^ 52`. -/
def leastMantissa : Nat := 0x10000000000000

/-- A power of a base as a fraction. -/
def power (base : Nat) (exponent : Int) : Nat × Nat :=
  if 0 ≤ exponent then (base.pow exponent.toNat, 1) else (1, base.pow (-exponent).toNat)

/-- A quotient rounded to the nearest whole number, half to the even neighbour. -/
def roundDiv (num den : Nat) : Nat :=
  let low := num / den
  let rest := num % den
  if 2 * rest < den then low
  else if 2 * rest = den then low + low % 2
  else low + 1

/-- The number nearest to a positive fraction. -/
def ofFraction (negative : Bool) (num den : Nat) : Binary64 :=
  let scale : Int := (num.log2 : Int) - (den.log2 : Int) - 53
  let quotient (e : Int) : Nat × Nat :=
    let (a, b) := power 2 e
    (num * b, den * a)
  let e := max scale leastExponent
  let (n, d) := quotient e
  let e := if 2 * leastMantissa ≤ n / d then e + 1 else e
  let (n, d) := quotient e
  let mantissa := roundDiv n d
  let (mantissa, e) :=
    if mantissa = 2 * leastMantissa then (leastMantissa, e + 1) else (mantissa, e)
  if greatestExponent < e then .infinite negative else .finite negative mantissa e

/-- The number nearest to `± digits · 10 ^ exponent`. Decimals beyond the range are settled by
their size alone. -/
def ofDecimal (negative : Bool) (digits : Nat) (exponent : Int) : Binary64 :=
  let size : Int := (decimal digits).length + exponent
  if digits = 0 ∨ size < -400 then .finite negative 0 leastExponent
  else if 400 < size then .infinite negative
  else
    let (a, b) := power 10 exponent
    ofFraction negative (digits * a) b

/-- The least `k` with `num / den < 10 ^ k`, searched downwards from `k + fuel`. -/
def decimalSize (num den : Nat) : Nat → Int → Int
  | 0, k => k
  | fuel + 1, k =>
    let (a, b) := power 10 (k - 1)
    if num * b < a * den then decimalSize num den fuel (k - 1) else k

/-- The nearest decimal `n · 10 ^ p` on the grid of exponent `p`, if one of the two grid points
around the number reads back as the number. The number is `value / den` and the decimals that read
back lie between `low / den` and `high / den`, which count too if `closed`. -/
def gridPoint? (low value high den : Nat) (closed : Bool) (p : Int) : Option Nat :=
  let (a, b) := power 10 p
  let unit := a * den
  let below := value * b / unit
  let inside (n : Nat) : Bool :=
    if closed then low * b ≤ n * unit && n * unit ≤ high * b
    else low * b < n * unit && n * unit < high * b
  let nearer := if 2 * (value * b) < (2 * below + 1) * unit then below
    else if 2 * (value * b) = (2 * below + 1) * unit then below + below % 2
    else below + 1
  if inside nearer then some nearer
  else if inside below then some below
  else if inside (below + 1) then some (below + 1)
  else none

/-- The first grid with a point that reads back, from one digit on. -/
def firstGrid (low value high den : Nat) (closed : Bool) (size : Int) : Nat → Nat → Nat × Int
  | 0, _ => (0, 0)
  | fuel + 1, count =>
    let p := size - count
    match gridPoint? low value high den closed p with
    | some n => (n, p)
    | none => firstGrid low value high den closed size fuel (count + 1)

/-- The shortest decimal `n · 10 ^ p` that reads back as `mantissa · 2 ^ exponent`, and of those
the nearest. -/
def shortest (mantissa : Nat) (exponent : Int) : Nat × Int :=
  let (a, den) := power 2 (exponent - 2)
  let value := 4 * mantissa * a
  let low :=
    (4 * mantissa - (if mantissa = leastMantissa ∧ leastExponent < exponent then 1 else 2)) * a
  let high := (4 * mantissa + 2) * a
  let size := decimalSize value den 700 320
  firstGrid low value high den (mantissa % 2 = 0) size 17 1

/-- The digits without zeros at the end. -/
def significant (digits : Text) : Text :=
  (digits.reverse.dropWhile (· = '0')).reverse

/-- Digits with the decimal point behind the first `point` ones: positional from `10 ^ -4` up to
`10 ^ 16`, with an exponent of two digits or more outside. -/
def layout (digits : Text) (point : Int) : Text :=
  if -4 < point ∧ point ≤ 16 then
    if point ≤ 0 then
      "0.".toList ++ List.replicate (-point).toNat '0' ++ digits
    else
      let whole := point.toNat
      if digits.length ≤ whole then
        digits ++ List.replicate (whole - digits.length) '0' ++ ".0".toList
      else digits.take whole ++ '.' :: digits.drop whole
  else
    let head := digits.take 1
    let rest := digits.drop 1
    let exponent := point - 1
    let size := decimal exponent.natAbs
    head ++ (if rest = [] then [] else '.' :: rest) ++ ['e', if exponent < 0 then '-' else '+']
      ++ (if size.length < 2 then '0' :: size else size)

/-- The shortest text that reads back as the number. -/
def shown : Binary64 → Text
  | .nan => "nan".toList
  | .infinite negative => (if negative then ['-'] else []) ++ "inf".toList
  | .finite negative mantissa exponent =>
    (if negative then ['-'] else []) ++
      if mantissa = 0 then "0.0".toList
      else
        let (n, p) := shortest mantissa exponent
        let digits := decimal n
        layout (significant digits) (digits.length + p)

/-- A finite number as a fraction with its sign in the numerator. -/
def fraction? : Binary64 → Option (Int × Nat)
  | .finite negative mantissa exponent =>
    let (a, b) := power 2 exponent
    some ((if negative then -1 else 1) * (mantissa * a : Nat), b)
  | _ => none

end Binary64

end ParseReport
