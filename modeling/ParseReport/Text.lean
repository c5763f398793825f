/-!
Texts as lists of code points, their order, and numbers written in them.
-/

namespace ParseReport

/-- A text is the list of its code points, so every column, length and offset counts code points.
Texts are ordered by code point (`<` on lists). -/
abbrev Text := List Char

/-- A name of a terminal, a rule or a setting. -/
abbrev Name := Text

/-- Puts a text into an ascending list, unless the list holds it already. -/
def insertDistinct (t : Text) : List Text → List Text
  | [] => [t]
  | u :: us =>
    if t < u then t :: u :: us
    else if t = u then u :: us
    else u :: insertDistinct t us

/-- The distinct texts of a list in ascending order. -/
def distinctSorted (ts : List Text) : List Text :=
  ts.foldr insertDistinct []

/-- Puts a text into an ascending list in front of the first text that is not smaller. -/
def insertSorted (t : Text) : List Text → List Text
  | [] => [t]
  | u :: us => if u < t then u :: insertSorted t us else t :: u :: us

theorem mem_insertDistinct {t u : Text} {us : List Text} :
    u ∈ insertDistinct t us ↔ u = t ∨ u ∈ us := by
  induction us with
  | nil => simp [insertDistinct]
  | cons v vs ih =>
    unfold insertDistinct
    split
    · simp
    · split
      next h => subst h; simp
      next => simp only [List.mem_cons, ih]; exact or_left_comm

theorem mem_distinctSorted {t : Text} {ts : List Text} : t ∈ distinctSorted ts ↔ t ∈ ts := by
  induction ts with
  | nil => simp [distinctSorted]
  | cons u us ih =>
    have h : distinctSorted (u :: us) = insertDistinct u (distinctSorted us) := rfl
    rw [h, mem_insertDistinct, ih, List.mem_cons]

theorem insertSorted_perm (t : Text) (us : List Text) : (insertSorted t us).Perm (t :: us) := by
  induction us with
  | nil => exact .refl _
  | cons u us ih =>
    unfold insertSorted
    split
    · exact (ih.cons u).trans (.swap t u us)
    · exact .refl _

/-- A number in decimal digits. -/
def decimal (n : Nat) : Text :=
  Nat.toDigits 10 n

theorem decimal_injective : Function.Injective decimal :=
  Function.LeftInverse.injective (g := fun t => Nat.ofDigitChars 10 t 0)
    fun _ => Nat.ofDigitChars_ten_toDigits

theorem not_mem_decimal {c : Char} (h : c.isDigit = false) (n : Nat) : c ∉ decimal n := by
  intro hc
  have hdigit := Nat.isDigit_of_mem_toDigits (by decide) (by decide) hc
  rw [h] at hdigit
  cases hdigit

/-- A whole number in decimal digits, with a minus sign below zero. -/
def signedDecimal : Int → Text
  | .ofNat n => decimal n
  | .negSucc n => '-' :: decimal (n + 1)

/-- The lower-case hexadecimal digits of a number, with zeros in front up to a width. -/
def hexadecimal (width n : Nat) : Text :=
  let digits := Nat.toDigits 16 n
  List.replicate (width - digits.length) '0' ++ digits

/-- A text with blanks in front up to a width. -/
def alignRight (width : Nat) (t : Text) : Text :=
  List.replicate (width - t.length) ' ' ++ t

/-- What is left of a text after a beginning, when it begins so. -/
def stripStart? : Text → Text → Option Text
  | [], t => some t
  | _ :: _, [] => none
  | c :: start, d :: t => if c = d then stripStart? start t else none

theorem stripStart?_eq_some {start t rest : Text} :
    stripStart? start t = some rest ↔ t = start ++ rest := by
  induction start generalizing t with
  | nil => simp [stripStart?, eq_comm]
  | cons c start ih =>
    cases t with
    | nil => simp [stripStart?]
    | cons d t =>
      by_cases h : c = d
      · simp [stripStart?, h, ih]
      · simp [stripStart?, h, Ne.symm h]

theorem stripStart?_eq_none_iff {start t : Text} : stripStart? start t = none ↔ ¬start <+: t := by
  rw [Option.eq_none_iff_forall_ne_some]
  constructor
  · rintro h ⟨rest, he⟩
    exact h rest (stripStart?_eq_some.mpr he.symm)
  · intro h rest hs
    exact h ⟨rest, (stripStart?_eq_some.mp hs).symm⟩

end ParseReport
