import Mathlib.Tactic.SplitIfs
import ParseReport.Text.Utf8

/-!
Reading UTF-8 is the inverse of writing it: bytes are read as a text exactly if they are those of the
text. Between the two stands the table of the byte sequences that write a character.
-/

namespace ParseReport.Utf8

/-- A byte that goes on with a character. -/
def Continues (b : UInt8) : Prop :=
  0x80 ≤ b.toNat ∧ b.toNat ≤ 0xBF

/-- The sequences of bytes that write a character, with its number. The range of the second byte
leaves out long forms, surrogates and numbers above U+10FFFF. -/
inductive Writes : Nat → List UInt8 → Prop
  | one {b : UInt8} (h : b.toNat < 0x80) : Writes b.toNat [b]
  | two {b b₁ : UInt8} (h : 0xC2 ≤ b.toNat ∧ b.toNat < 0xE0) (h₁ : Continues b₁) :
    Writes ((b.toNat - 0xC0) * 64 + (b₁.toNat - 0x80)) [b, b₁]
  | three {b b₁ b₂ : UInt8} (h : 0xE0 ≤ b.toNat ∧ b.toNat < 0xF0) (h₁ : Continues b₁)
      (hlong : b.toNat = 0xE0 → 0xA0 ≤ b₁.toNat) (hsurrogate : b.toNat = 0xED → b₁.toNat ≤ 0x9F)
      (h₂ : Continues b₂) :
    Writes (((b.toNat - 0xE0) * 64 + (b₁.toNat - 0x80)) * 64 + (b₂.toNat - 0x80)) [b, b₁, b₂]
  | four {b b₁ b₂ b₃ : UInt8} (h : 0xF0 ≤ b.toNat ∧ b.toNat < 0xF5) (h₁ : Continues b₁)
      (hlong : b.toNat = 0xF0 → 0x90 ≤ b₁.toNat) (habove : b.toNat = 0xF4 → b₁.toNat ≤ 0x8F)
      (h₂ : Continues b₂) (h₃ : Continues b₃) :
    Writes ((((b.toNat - 0xF0) * 64 + (b₁.toNat - 0x80)) * 64 + (b₂.toNat - 0x80)) * 64
      + (b₃.toNat - 0x80)) [b, b₁, b₂, b₃]

section

variable {n position : Nat} {b b₁ : UInt8} {bytes rest : List UInt8} {t : Text} {p : Pending}

/-! ### The table and the bytes of a character -/

theorem Writes.isValidChar (h : Writes n bytes) : n.isValidChar := by
  unfold Nat.isValidChar
  cases h with
  | one h => omega
  | two h h₁ =>
    unfold Continues at h₁
    omega
  | three h h₁ _ hsurrogate h₂ =>
    unfold Continues at h₁ h₂
    omega
  | four h h₁ hlong habove h₂ h₃ =>
    unfold Continues at h₁ h₂ h₃
    omega

/-- The bytes of the character with a number, as numbers. -/
theorem map_toNat_utf8EncodeChar (h : n.isValidChar) :
    (String.utf8EncodeChar (Char.ofNat n)).map UInt8.toNat =
      if n < 0x80 then [n]
      else if n < 0x800 then [n / 64 + 0xC0, n % 64 + 0x80]
      else if n < 0x10000 then [n / 4096 + 0xE0, n / 64 % 64 + 0x80, n % 64 + 0x80]
      else [n / 262144 + 0xF0, n / 4096 % 64 + 0x80, n / 64 % 64 + 0x80, n % 64 + 0x80] := by
  have hn : (Char.ofNat n).val.toNat = n := by
    rw [Char.ofNat, dif_pos h]
    rfl
  have hbound : n < 0xD800 ∨ 0xDFFF < n ∧ n < 0x110000 := h
  unfold String.utf8EncodeChar
  dsimp only
  rw [hn]
  split_ifs <;> simp <;> omega

/-- The table has no other bytes for a character than those it is written with. -/
theorem Writes.eq_utf8EncodeChar (h : Writes n bytes) :
    bytes = String.utf8EncodeChar (Char.ofNat n) := by
  apply (List.map_inj_right fun _ _ => UInt8.toNat_inj.mp).mp
  rw [map_toNat_utf8EncodeChar h.isValidChar]
  cases h with
  | one h => simp [h]
  | two h h₁ =>
    unfold Continues at h₁
    rw [if_neg (by omega), if_pos (by omega)]
    simp only [List.map_cons, List.map_nil, List.cons.injEq, and_true]
    omega
  | three h h₁ hlong _ h₂ =>
    unfold Continues at h₁ h₂
    rw [if_neg (by omega), if_neg (by omega), if_pos (by omega)]
    simp only [List.map_cons, List.map_nil, List.cons.injEq, and_true]
    omega
  | four h h₁ hlong _ h₂ h₃ =>
    unfold Continues at h₁ h₂ h₃
    rw [if_neg (by omega), if_neg (by omega), if_neg (by omega)]
    simp only [List.map_cons, List.map_nil, List.cons.injEq, and_true]
    omega

/-- The bytes of a character are in the table. -/
theorem writes_utf8EncodeChar (c : Char) : Writes c.toNat (String.utf8EncodeChar c) := by
  have hvalid : c.toNat.isValidChar := c.valid
  have hbytes := map_toNat_utf8EncodeChar hvalid
  rw [Char.ofNat_toNat] at hbytes
  generalize String.utf8EncodeChar c = bytes at hbytes ⊢
  generalize c.toNat = n at hvalid hbytes ⊢
  have hbound : n < 0xD800 ∨ 0xDFFF < n ∧ n < 0x110000 := hvalid
  split_ifs at hbytes with h₁ h₂ h₃
  · simp only [List.map_eq_cons_iff, List.map_eq_nil_iff] at hbytes
    obtain ⟨b, _, rfl, rfl, rfl⟩ := hbytes
    exact .one h₁
  · simp only [List.map_eq_cons_iff, List.map_eq_nil_iff] at hbytes
    obtain ⟨b, _, rfl, hb, b₁, _, rfl, hb₁, rfl⟩ := hbytes
    have hn : n = (b.toNat - 0xC0) * 64 + (b₁.toNat - 0x80) := by omega
    rw [hn]
    exact .two (by omega) ⟨by omega, by omega⟩
  · simp only [List.map_eq_cons_iff, List.map_eq_nil_iff] at hbytes
    obtain ⟨b, _, rfl, hb, b₁, _, rfl, hb₁, b₂, _, rfl, hb₂, rfl⟩ := hbytes
    have hn : n = ((b.toNat - 0xE0) * 64 + (b₁.toNat - 0x80)) * 64 + (b₂.toNat - 0x80) := by omega
    rw [hn]
    exact .three (by omega) ⟨by omega, by omega⟩ (by omega) (by omega) ⟨by omega, by omega⟩
  · simp only [List.map_eq_cons_iff, List.map_eq_nil_iff] at hbytes
    obtain ⟨b, _, rfl, hb, b₁, _, rfl, hb₁, b₂, _, rfl, hb₂, b₃, _, rfl, hb₃, rfl⟩ := hbytes
    have hn : n = (((b.toNat - 0xF0) * 64 + (b₁.toNat - 0x80)) * 64 + (b₂.toNat - 0x80)) * 64
        + (b₃.toNat - 0x80) := by omega
    rw [hn]
    exact .four (by omega) ⟨by omega, by omega⟩ (by omega) (by omega) ⟨by omega, by omega⟩
      ⟨by omega, by omega⟩

/-! ### The table and the reader -/

/-- The range of a second byte, narrower behind two of the first bytes. -/
theorem second_range_iff {x y low high : Nat} (hlow : 0x80 ≤ low) (hhigh : high ≤ 0xBF) :
    ((if b.toNat = x then low else 0x80) ≤ b₁.toNat ∧
        b₁.toNat ≤ if b.toNat = y then high else 0xBF) ↔
      Continues b₁ ∧ (b.toNat = x → low ≤ b₁.toNat) ∧ (b.toNat = y → b₁.toNat ≤ high) := by
  unfold Continues
  split_ifs <;> omega

theorem lead?_two (h : 0xC2 ≤ b.toNat ∧ b.toNat < 0xE0) :
    lead? position b = some ⟨position, b, b.toNat - 0xC0, 1, 0x80, 0xBF⟩ := by
  unfold lead?
  rw [if_neg (by omega), if_neg (by omega), if_pos (by omega)]

theorem lead?_three (h : 0xE0 ≤ b.toNat ∧ b.toNat < 0xF0) :
    lead? position b = some ⟨position, b, b.toNat - 0xE0, 2,
      if b.toNat = 0xE0 then 0xA0 else 0x80, if b.toNat = 0xED then 0x9F else 0xBF⟩ := by
  unfold lead?
  rw [if_neg (by omega), if_neg (by omega), if_neg (by omega), if_pos (by omega)]

theorem lead?_four (h : 0xF0 ≤ b.toNat ∧ b.toNat < 0xF5) :
    lead? position b = some ⟨position, b, b.toNat - 0xF0, 3,
      if b.toNat = 0xF0 then 0x90 else 0x80, if b.toNat = 0xF4 then 0x8F else 0xBF⟩ := by
  unfold lead?
  rw [if_neg (by omega), if_neg (by omega), if_neg (by omega), if_neg (by omega),
    if_pos (by omega)]

theorem decodeFrom_lead (h : lead? position b = some p) (howed : p.owed ≠ 0) :
    decodeFrom none position (b :: rest) = decodeFrom (some p) (position + 1) rest := by
  simp [decodeFrom, h, howed]

/-- An incomplete character goes on with a byte in its range, and may be complete then. -/
theorem decodeFrom_some_cons (h : p.low ≤ b.toNat ∧ b.toNat ≤ p.high) :
    decodeFrom (some p) position (b :: rest) =
      if p.owed = 1 then
        (decodeFrom none (position + 1) rest).map
          (Char.ofNat (p.value * 64 + (b.toNat - 0x80)) :: ·)
      else
        decodeFrom (some ⟨p.position, p.first, p.value * 64 + (b.toNat - 0x80), p.owed - 1, 0x80,
          0xBF⟩) (position + 1) rest := by
  rw [decodeFrom, if_pos h]

/-- The bytes of a character are read as that character, whatever follows. -/
theorem Writes.decodeFrom_append (h : Writes n bytes) :
    decodeFrom none position (bytes ++ rest) =
      (decodeFrom none (position + bytes.length) rest).map (Char.ofNat n :: ·) := by
  cases h with
  | @one b h =>
    have hlead : lead? position b = some ⟨position, b, b.toNat, 0, 0x80, 0xBF⟩ := by
      simp [lead?, h]
    simp [decodeFrom, hlead]
  | two h h₁ =>
    simp only [List.cons_append, List.nil_append]
    rw [decodeFrom_lead (lead?_two h) (by simp), decodeFrom_some_cons (by exact h₁)]
    rfl
  | three h h₁ hlong hsurrogate h₂ =>
    simp only [List.cons_append, List.nil_append]
    rw [decodeFrom_lead (lead?_three h) (by simp),
      decodeFrom_some_cons ((second_range_iff (by decide) (by decide)).mpr ⟨h₁, hlong, hsurrogate⟩),
      if_neg (by simp), decodeFrom_some_cons (by exact h₂)]
    rfl
  | four h h₁ hlong habove h₂ h₃ =>
    simp only [List.cons_append, List.nil_append]
    rw [decodeFrom_lead (lead?_four h) (by simp),
      decodeFrom_some_cons ((second_range_iff (by decide) (by decide)).mpr ⟨h₁, hlong, habove⟩),
      if_neg (by simp), decodeFrom_some_cons (by exact h₂), if_neg (by simp),
      decodeFrom_some_cons (by exact h₃)]
    rfl

/-- Behind an incomplete character a text needs a byte in its range, and more while bytes are owed. -/
theorem exists_of_decodeFrom_some (h : decodeFrom (some p) position bytes = .ok t) :
    ∃ b rest, bytes = b :: rest ∧ (p.low ≤ b.toNat ∧ b.toNat ≤ p.high) ∧
      (p.owed ≠ 1 → decodeFrom (some ⟨p.position, p.first, p.value * 64 + (b.toNat - 0x80),
        p.owed - 1, 0x80, 0xBF⟩) (position + 1) rest = .ok t) := by
  cases bytes with
  | nil => cases h
  | cons b rest =>
    by_cases hb : p.low ≤ b.toNat ∧ b.toNat ≤ p.high
    · rw [decodeFrom_some_cons hb] at h
      exact ⟨b, rest, rfl, hb, fun howed => by rwa [if_neg howed] at h⟩
    · rw [decodeFrom, if_neg hb] at h
      cases h

/-- Bytes that are read as a text begin with those of a character. -/
theorem exists_writes_of_decodeFrom (h : decodeFrom none position (b :: bytes) = .ok t) :
    ∃ n written rest, Writes n written ∧ b :: bytes = written ++ rest := by
  -- the first byte tells how many bytes follow it, and the reader has met each of them in its range
  by_cases hb : b.toNat < 0x80
  · exact ⟨_, [b], bytes, .one hb, rfl⟩
  by_cases hb : 0xC2 ≤ b.toNat ∧ b.toNat < 0xE0
  · rw [decodeFrom_lead (lead?_two hb) (by simp)] at h
    obtain ⟨b₁, rest, rfl, h₁, -⟩ := exists_of_decodeFrom_some h
    exact ⟨_, [b, b₁], rest, .two hb h₁, rfl⟩
  by_cases hb : 0xE0 ≤ b.toNat ∧ b.toNat < 0xF0
  · rw [decodeFrom_lead (lead?_three hb) (by simp)] at h
    obtain ⟨b₁, rest, rfl, h₁, h⟩ := exists_of_decodeFrom_some h
    obtain ⟨b₂, rest, rfl, h₂, -⟩ := exists_of_decodeFrom_some (h (by simp))
    obtain ⟨h₁, hlong, hsurrogate⟩ := (second_range_iff (by decide) (by decide)).mp h₁
    exact ⟨_, [b, b₁, b₂], rest, .three hb h₁ hlong hsurrogate h₂, rfl⟩
  by_cases hb : 0xF0 ≤ b.toNat ∧ b.toNat < 0xF5
  · rw [decodeFrom_lead (lead?_four hb) (by simp)] at h
    obtain ⟨b₁, rest, rfl, h₁, h⟩ := exists_of_decodeFrom_some h
    obtain ⟨b₂, rest, rfl, h₂, h⟩ := exists_of_decodeFrom_some (h (by simp))
    obtain ⟨b₃, rest, rfl, h₃, -⟩ := exists_of_decodeFrom_some (h (by simp))
    obtain ⟨h₁, hlong, habove⟩ := (second_range_iff (by decide) (by decide)).mp h₁
    exact ⟨_, [b, b₁, b₂, b₃], rest, .four hb h₁ hlong habove h₂ h₃, rfl⟩
  have hlead : lead? position b = none := by
    simp only [lead?]
    split_ifs <;> first | rfl | omega
  simp [decodeFrom, hlead] at h

/-! ### Whole texts -/

/-- The bytes of a text are read as the text. -/
theorem decodeFrom_encode (t : Text) (position : Nat) :
    decodeFrom none position (encode t) = .ok t := by
  induction t generalizing position with
  | nil => rfl
  | cons c t ih =>
    change decodeFrom none position (String.utf8EncodeChar c ++ encode t) = _
    rw [(writes_utf8EncodeChar c).decodeFrom_append, ih, Char.ofNat_toNat]
    rfl

/-- Bytes that are read as a text are those of the text. -/
theorem eq_encode_of_decodeFrom {bytes : List UInt8} {t : Text} {position : Nat}
    (h : decodeFrom none position bytes = .ok t) : bytes = encode t := by
  -- a step takes all bytes of a character, so the recursion is on the number of bytes that are left
  match bytes with
  | [] =>
    cases h
    rfl
  | b :: bytes =>
    obtain ⟨n, written, rest, hn, heq⟩ := exists_writes_of_decodeFrom h
    have hlength : written.length + rest.length = bytes.length + 1 := by
      rw [← List.length_append, ← heq, List.length_cons]
    have hwritten : 0 < written.length := by cases hn <;> simp
    rw [heq, hn.decodeFrom_append] at h
    cases hrest : decodeFrom none (position + written.length) rest with
    | error e =>
      rw [hrest] at h
      cases h
    | ok t' =>
      rw [hrest] at h
      cases h
      rw [heq, hn.eq_utf8EncodeChar, eq_encode_of_decodeFrom hrest]
      rfl
termination_by bytes.length

/-- Bytes are read as a text exactly if they are those of the text. -/
theorem decode_eq_ok_iff : decode bytes = .ok t ↔ bytes = encode t := by
  constructor
  · exact eq_encode_of_decodeFrom
  · rintro rfl
    exact decodeFrom_encode t 0

end

end ParseReport.Utf8
