import Mathlib.Algebra.Ring.Parity
import Mathlib.Data.List.DropRight
import ParseReport.Proofs.DescriptionLines
import ParseReport.Proofs.Lines
import ParseReport.Report.Plain

/-!
Literals of JSON. What may stand for a character between the quotes is said without the functions
that write and read literals; every literal is read as the text that it stands for, and the one that
is written for a text is a literal of it. It holds no control, so expectations take one line each.
-/

namespace ParseReport

namespace Literal

/-- Four hexadecimal digits of either case, and the number that they write. -/
inductive FourDigits : Text → Nat → Prop
  | intro {a b c d : Char} {k l m n : Nat} : hexDigit? a = some k → hexDigit? b = some l →
      hexDigit? c = some m → hexDigit? d = some n →
      FourDigits [a, b, c, d] (16 * (16 * (16 * k + l) + m) + n)

/-- What may stand for a character between the quotes: itself, a short escape, its code, or the two
codes of its surrogates. -/
inductive StandsFor : Text → Char → Prop
  | itself {c : Char} : 0x20 ≤ c.toNat → c ≠ '"' → c ≠ '\\' → StandsFor [c] c
  | short {e c : Char} : shortEscape? e = some c → StandsFor ['\\', e] c
  | code {digits : Text} {c : Char} : FourDigits digits c.toNat → StandsFor ('\\' :: 'u' :: digits) c
  | pair {high low : Text} {h l : Nat} {c : Char} : FourDigits high h → FourDigits low l →
      0xD800 ≤ h → h < 0xDC00 → 0xDC00 ≤ l → l < 0xE000 →
      c.toNat = 0x10000 + (h - 0xD800) * 0x400 + (l - 0xDC00) →
      StandsFor ('\\' :: 'u' :: (high ++ '\\' :: 'u' :: low)) c

/-- What may stand for a text between the quotes. -/
inductive Writes : Text → Text → Prop
  | nil : Writes [] []
  | cons {piece body t : Text} {c : Char} : StandsFor piece c → Writes body t →
      Writes (piece ++ body) (c :: t)

/-- A literal of a text. -/
def IsLiteral (literal t : Text) : Prop :=
  ∃ body, Writes body t ∧ literal = '"' :: (body ++ ['"'])

section

variable {digits piece body literal t : Text} {c : Char} {n : Nat}

theorem hexNumber?_of_fourDigits (h : FourDigits digits n) (rest : Text) :
    hexNumber? 4 0 (digits ++ rest) = some (n, rest) := by
  obtain ⟨ha, hb, hc, hd⟩ := h
  simp [hexNumber?, ha, hb, hc, hd]

theorem codePoint?_of_fourDigits (h : FourDigits digits c.toNat) (rest : Text) :
    codePoint? (digits ++ rest) = some (c, rest) := by
  have hvalid : c.toNat < 0xD800 ∨ 0xDFFF < c.toNat ∧ c.toNat < 0x110000 := c.valid
  have hhigh : ¬(0xD800 ≤ c.toNat ∧ c.toNat < 0xDC00) := by omega
  have hlow : ¬(0xDC00 ≤ c.toNat ∧ c.toNat < 0xE000) := by omega
  unfold codePoint?
  simp only [hexNumber?_of_fourDigits h, if_neg hhigh, if_neg hlow, Char.ofNat_toNat]

theorem codePoint?_of_pair {high low : Text} {h l : Nat} (hhigh : FourDigits high h)
    (hlow : FourDigits low l) (hh : 0xD800 ≤ h ∧ h < 0xDC00) (hl : 0xDC00 ≤ l ∧ l < 0xE000)
    (hc : c.toNat = 0x10000 + (h - 0xD800) * 0x400 + (l - 0xDC00)) (rest : Text) :
    codePoint? (high ++ '\\' :: 'u' :: (low ++ rest)) = some (c, rest) := by
  unfold codePoint?
  simp only [hexNumber?_of_fourDigits hhigh, hexNumber?_of_fourDigits hlow, if_pos hh, if_pos hl,
    ← hc, Char.ofNat_toNat]

theorem decodeBody_code (fuel : Nat) (rest : Text) :
    decodeBody (fuel + 1) ('\\' :: 'u' :: rest) =
      match codePoint? rest with
      | none => none
      | some (d, rest) => (decodeBody fuel rest).map fun (body, rest) => (d :: body, rest) :=
  rfl

/-- A character is read from what stands for it, whatever follows. -/
theorem decodeBody_of_standsFor (h : StandsFor piece c) (fuel : Nat) (rest : Text) :
    decodeBody (fuel + 1) (piece ++ rest) =
      (decodeBody fuel rest).map fun (body, rest) => (c :: body, rest) := by
  cases h with
  | itself hle hquote hbackslash =>
    have hnot : ¬c.toNat < 0x20 := by omega
    simp [decodeBody, hquote, hbackslash, hnot]
  | @short e _ he =>
    -- the letter is not the one in front of a code, so the reader looks it up
    have hu : e ≠ 'u' := by
      rintro rfl
      have hnone : shortEscape? 'u' = none := by decide
      rw [hnone] at he
      cases he
    simp [decodeBody, he]
  | @code digits _ hdigits =>
    rw [List.cons_append, List.cons_append, decodeBody_code, codePoint?_of_fourDigits hdigits]
  | pair hhigh hlow hh hh' hl hl' hc =>
    rw [List.cons_append, List.cons_append, List.append_assoc, decodeBody_code, List.cons_append,
      List.cons_append, codePoint?_of_pair hhigh hlow ⟨hh, hh'⟩ ⟨hl, hl'⟩ hc]

theorem StandsFor.ne_nil (h : StandsFor piece c) : piece ≠ [] := by
  cases h <;> exact List.cons_ne_nil _ _

theorem Writes.length_le (h : Writes body t) : t.length ≤ body.length := by
  induction h with
  | nil => exact Nat.le_refl 0
  | cons hc _ ih =>
    have hpos := List.length_pos_iff.mpr hc.ne_nil
    rw [List.length_cons, List.length_append]
    omega

theorem decodeBody_of_writes (h : Writes body t) {fuel : Nat} (hfuel : t.length < fuel)
    (rest : Text) : decodeBody fuel (body ++ '"' :: rest) = some (t, rest) := by
  induction h generalizing fuel with
  | nil =>
    obtain ⟨fuel, rfl⟩ := Nat.exists_eq_add_of_lt hfuel
    simp [decodeBody]
  | @cons piece body t c hc _ ih =>
    obtain ⟨fuel, rfl⟩ : ∃ k, fuel = k + 1 := ⟨fuel - 1, by omega⟩
    have hrest : t.length < fuel := by
      rw [List.length_cons] at hfuel
      omega
    rw [List.append_assoc, decodeBody_of_standsFor hc, ih hrest]
    rfl

/-- Every literal is read as the text that it stands for, and what follows it is left. -/
theorem decode?_of_isLiteral (h : IsLiteral literal t) (rest : Text) :
    decode? (literal ++ rest) = some (t, rest) := by
  obtain ⟨body, hbody, rfl⟩ := h
  have hlength : t.length < (body ++ '"' :: rest).length := by
    have hle := hbody.length_le
    rw [List.length_append, List.length_cons]
    omega
  rw [List.cons_append, List.append_assoc, List.singleton_append, decode?]
  exact decodeBody_of_writes hbody hlength rest

end

/-- A control has a code of two digits behind two zeros. -/
theorem fourDigits_control {n : Nat} (h : n < 0x20) : FourDigits (hexadecimal 4 n) n := by
  have hdigits : ∀ n < 0x20, hexadecimal 4 n =
      ['0', '0', Nat.digitChar (n / 16), Nat.digitChar (n % 16)] := by decide
  have hread : ∀ k < 16, hexDigit? (Nat.digitChar k) = some k := by decide
  have hzero : hexDigit? '0' = some 0 := by decide
  have hfour := FourDigits.intro hzero hzero (hread (n / 16) (by omega)) (hread (n % 16) (by omega))
  have hsum : 16 * (16 * (16 * 0 + 0) + n / 16) + n % 16 = n := by omega
  rwa [hsum, ← hdigits n h] at hfour

theorem standsFor_encodeChar (c : Char) : StandsFor (encodeChar c) c := by
  fun_cases encodeChar c with
  | case8 _ _ _ _ _ _ _ hcontrol => exact .code (fourDigits_control hcontrol)
  | case9 hquote hbackslash _ _ _ _ _ hcontrol =>
    exact .itself (by omega) hquote hbackslash
  | _ =>
    subst_vars
    exact .short (by decide)

theorem isLiteral_encode (t : Text) : IsLiteral (encode t) t := by
  refine ⟨t.flatMap encodeChar, ?_, rfl⟩
  induction t with
  | nil => exact .nil
  | cons c t ih => exact .cons (standsFor_encodeChar c) ih

theorem encode_injective {t u : Text} (h : encode u = encode t) : u = t := by
  have ht := decode?_of_isLiteral (isLiteral_encode t) []
  rw [← h, decode?_of_isLiteral (isLiteral_encode u)] at ht
  exact (Prod.mk.inj (Option.some.inj ht)).1

/-- The number of backslashes at the end of a text. -/
def backslashes (t : Text) : Nat :=
  (t.rtakeWhile (· = '\\')).length

theorem backslashes_concat (t : Text) : backslashes (t ++ ['\\']) = backslashes t + 1 := by
  rw [backslashes, List.rtakeWhile_concat_pos _ _ _ (by decide), List.length_append]
  rfl

theorem backslashes_append_of_not_mem {rest : Text} (hne : rest ≠ []) (h : '\\' ∉ rest) (t : Text) :
    backslashes (t ++ rest) = 0 := by
  obtain ⟨front, last, rfl⟩ := (List.eq_nil_or_concat' rest).resolve_left hne
  have hlast : last ≠ '\\' := by
    rintro rfl
    exact h (List.mem_append_right front List.mem_cons_self)
  rw [← List.append_assoc, backslashes, List.rtakeWhile_concat_neg _ _ _ (by simpa using hlast)]
  rfl

/-- What stands for a character leaves the number of backslashes at the end even. -/
theorem even_backslashes_append {t : Text} (h : Even (backslashes t)) (c : Char) :
    Even (backslashes (t ++ encodeChar c)) := by
  rcases encodeChar_cases c with ⟨d, rest, he, _, hrest⟩ | ⟨he, _, hc⟩
  · have hapart : t ++ '\\' :: d :: rest = t ++ ['\\'] ++ [d] ++ rest := by simp
    rw [he, hapart]
    by_cases hnil : rest = []
    · rw [hnil, List.append_nil]
      by_cases hd : d = '\\'
      · rw [hd, backslashes_concat, backslashes_concat]
        exact h.add even_two
      · rw [backslashes_append_of_not_mem (List.cons_ne_nil d []) (by simpa using Ne.symm hd)]
        exact Even.zero
    · rw [backslashes_append_of_not_mem hnil hrest]
      exact Even.zero
  · rw [he, backslashes_append_of_not_mem (List.cons_ne_nil c []) (by simpa using Ne.symm hc)]
    exact Even.zero

theorem even_backslashes (t : Text) : Even (backslashes ('"' :: t.flatMap encodeChar)) := by
  induction t using List.reverseRecOn with
  | nil => exact Even.zero
  | append_singleton t c ih =>
    rw [List.flatMap_append, List.flatMap_singleton, ← List.cons_append]
    exact even_backslashes_append ih c

/-- Between the quotes a quote stands only right behind the backslash of a character. -/
theorem quote_mem_encodeChar {c : Char} {before after : Text}
    (h : encodeChar c = before ++ '"' :: after) : before = ['\\'] := by
  rcases encodeChar_cases c with ⟨d, rest, he, hrest, _⟩ | ⟨he, hc, _⟩
  · rw [he] at h
    match before with
    | [] => cases (List.cons.inj h).1
    | ['\\'] => rfl
    | [e] => cases (List.cons.inj h).1; rfl
    | e :: e' :: before =>
      have htail := (List.cons.inj (List.cons.inj h).2).2
      exact absurd (htail ▸ List.mem_append_right before List.mem_cons_self) hrest
  · rw [he] at h
    match before with
    | [] => exact absurd (List.cons.inj h).1 hc
    | e :: before => cases before <;> cases (List.cons.inj h).2

/-- A quote behind the first one of a literal is the last one, or it stands right behind the
backslash of a character. -/
theorem quote_of_encoded {t before after : Text}
    (h : t.flatMap encodeChar ++ ['"'] = before ++ '"' :: after) :
    after = [] ∨ ∃ front : Text, before = front.flatMap encodeChar ++ ['\\'] := by
  induction t generalizing before with
  | nil =>
    cases before with
    | nil => exact .inl (List.cons.inj h).2.symm
    | cons c before => cases before <;> cases (List.cons.inj h).2
  | cons c t ih =>
    rw [List.flatMap_cons, List.append_assoc] at h
    rcases List.append_eq_append_iff.mp h with ⟨rest, rfl, hrest⟩ | ⟨rest, he, hrest⟩
    · refine (ih hrest).imp_right ?_
      rintro ⟨front, rfl⟩
      exact ⟨c :: front, by rw [List.flatMap_cons, List.append_assoc]⟩
    · cases rest with
      | nil =>
        rcases @ih [] hrest.symm with hnil | ⟨front, hfront⟩
        · exact .inl hnil
        · simp at hfront
      | cons d rest =>
        cases (List.cons.inj hrest).1
        exact .inr ⟨[], quote_mem_encodeChar he⟩

theorem quote_behind_backslashes {t before after : Text}
    (h : encode t = before ++ '"' :: after) (hbefore : before ≠ []) (hafter : after ≠ []) :
    Odd (backslashes before) := by
  cases before with
  | nil => exact absurd rfl hbefore
  | cons c before =>
    obtain ⟨hc, hbody⟩ := List.cons.inj h
    rcases quote_of_encoded hbody with hnil | ⟨front, rfl⟩
    · exact absurd hnil hafter
    · rw [← hc, ← List.cons_append, backslashes_concat]
      exact (even_backslashes front).add_one

/-- What a function of characters has a value for is no control, if it has none for the controls. -/
theorem le_of_eq_some {α : Type} {f : Char → Option α} (hnone : ∀ n < 0x20, f (Char.ofNat n) = none)
    {c : Char} {x : α} (h : f c = some x) : 0x20 ≤ c.toNat := by
  by_contra hlt
  have hc := hnone c.toNat (by omega)
  rw [Char.ofNat_toNat, h] at hc
  cases hc

theorem FourDigits.le_of_mem {digits : Text} {n : Nat} (h : FourDigits digits n) :
    ∀ c ∈ digits, 0x20 ≤ c.toNat := by
  have hdigit : ∀ {c : Char} {k : Nat}, hexDigit? c = some k → 0x20 ≤ c.toNat :=
    le_of_eq_some (by decide)
  obtain ⟨ha, hb, hc, hd⟩ := h
  simp [hdigit ha, hdigit hb, hdigit hc, hdigit hd]

theorem StandsFor.le_of_mem {piece : Text} {c : Char} (h : StandsFor piece c) :
    ∀ d ∈ piece, 0x20 ≤ d.toNat := by
  have hmark : 0x20 ≤ '\\'.toNat ∧ 0x20 ≤ 'u'.toNat := by decide
  cases h with
  | itself hle => simpa using hle
  | @short e _ he =>
    have hletter : 0x20 ≤ e.toNat := le_of_eq_some (f := shortEscape?) (by decide) he
    simp [hletter]
  | code hdigits => simpa [hmark] using hdigits.le_of_mem
  | pair hhigh hlow =>
    have hh := hhigh.le_of_mem
    have hl := hlow.le_of_mem
    simp only [List.mem_cons, List.mem_append]
    rintro d (rfl | rfl | hd | rfl | rfl | hd)
    · exact hmark.1
    · exact hmark.2
    · exact hh d hd
    · exact hmark.1
    · exact hmark.2
    · exact hl d hd

/-- No literal holds a control. -/
theorem IsLiteral.le_of_mem {literal t : Text} (h : IsLiteral literal t) :
    ∀ c ∈ literal, 0x20 ≤ c.toNat := by
  obtain ⟨body, hbody, rfl⟩ := h
  have hquote : 0x20 ≤ '"'.toNat := by decide
  have hle : ∀ c ∈ body, 0x20 ≤ c.toNat := by
    induction hbody with
    | nil => exact fun c hc => absurd hc List.not_mem_nil
    | cons hpiece _ ih =>
      intro c hc
      exact (List.mem_append.mp hc).elim (hpiece.le_of_mem c) (ih c)
  intro c hc
  rcases List.mem_cons.mp hc with rfl | hc
  · exact hquote
  · rcases List.mem_append.mp hc with hc | hc
    · exact hle c hc
    · cases List.mem_singleton.mp hc
      exact hquote

end Literal

open Literal

section

variable {problem : Problem} {problems : List Problem} {phrases : List Classification}
  {t line : Text} {ts : List Text}

theorem breaks_not_mem_expected (h : problem.classify = .ok (.expected t)) :
    '\r' ∉ t ∧ '\n' ∉ t := by
  have hfixed : ∀ u ∈ fixedPhrases, '\r' ∉ u ∧ '\n' ∉ u := by decide
  rcases expected_cases h with ⟨u, rfl⟩ | hmem
  · have hle := (isLiteral_encode u).le_of_mem
    exact ⟨fun hr => absurd (hle _ hr) (by decide), fun hf => absurd (hle _ hf) (by decide)⟩
  · exact hfixed t hmem

theorem mem_intercalate {c : Char} {separator : Text} (h : c ∈ List.intercalate separator ts) :
    c ∈ separator ∨ ∃ t ∈ ts, c ∈ t := by
  induction ts with
  | nil => cases h
  | cons t ts ih =>
    cases ts with
    | nil =>
      rw [List.intercalate_singleton] at h
      exact .inr ⟨t, List.mem_cons_self, h⟩
    | cons u us =>
      rw [List.intercalate_cons_cons, List.mem_append, List.mem_append] at h
      rcases h with (h | h) | h
      · exact .inr ⟨t, List.mem_cons_self, h⟩
      · exact .inl h
      · exact (ih h).imp_right fun ⟨v, hv, hc⟩ => ⟨v, List.mem_cons_of_mem t hv, hc⟩

/-- The line for expected texts holds a character that is none of its words only if one of the
texts does. -/
theorem not_mem_expectingLine? {c : Char} (hword : c ∉ "Expecting one of ".toList)
    (hcomma : c ∉ ", ".toList) (hts : ∀ t ∈ ts, c ∉ t) (h : expectingLine? ts = some line) :
    c ∉ line := by
  have hbegin : "Expecting ".toList ⊆ "Expecting one of ".toList :=
    List.IsPrefix.subset ⟨"one of ".toList, rfl⟩
  intro hc
  match ts with
  | [t] =>
    cases Option.some.inj h
    rcases List.mem_append.mp hc with hc | hc
    · exact hword (hbegin hc)
    · exact hts t List.mem_cons_self hc
  | t :: u :: ts =>
    cases Option.some.inj h
    rcases List.mem_append.mp hc with hc | hc
    · exact hword hc
    · rcases mem_intercalate hc with hc | ⟨v, hv, hc⟩
      · exact hcomma hc
      · exact hts v hv hc

/-- Problems are described by lines without breaks, if the sentences among their phrases have
none. -/
theorem breaks_not_mem_describe (h : problems.mapM Problem.classify = .ok phrases)
    (hsentences : ∀ s, .other s ∈ phrases → '\r' ∉ s ∧ '\n' ∉ s) :
    ∀ line ∈ describe phrases, '\r' ∉ line ∧ '\n' ∉ line := by
  intro line hline
  rw [describe_eq_describedBy] at hline
  rcases mem_describedBy.mp hline with hs | he
  · exact hsentences line (mem_sentences.mp hs)
  · have hplain : ∀ t ∈ (expectedTexts phrases).sort, '\r' ∉ t ∧ '\n' ∉ t := by
      intro t ht
      have hmem := mem_expectedTexts.mp ((Finset.mem_sort (· ≤ ·)).mp ht)
      obtain ⟨problem, _, hp⟩ := exists_of_mem_mapM_eq_ok h _ hmem
      exact breaks_not_mem_expected hp
    exact ⟨not_mem_expectingLine? (by decide) (by decide) (fun t ht => (hplain t ht).1) he,
      not_mem_expectingLine? (by decide) (by decide) (fun t ht => (hplain t ht).2) he⟩

/-- In plain text each line of description is one line. -/
theorem lines_descriptions {lines : List Text} (h : ∀ line ∈ lines, '\r' ∉ line ∧ '\n' ∉ line) :
    Text.lines (lines.flatMap (descriptionLine Plain.markup)).flatten =
      lines.map (fun line => ' ' :: ' ' :: line) ++ [[]] := by
  have hflat : (lines.flatMap (descriptionLine Plain.markup)).flatten =
      (lines.map fun line => ' ' :: ' ' :: line).flatMap (· ++ ['\n']) := by
    rw [List.flatMap_map]
    induction lines with
    | nil => rfl
    | cons line lines ih =>
      rw [List.flatMap_cons, List.flatten_append,
        ih fun other hother => h other (List.mem_cons_of_mem line hother)]
      simp [descriptionLine, Plain.markup]
  rw [hflat]
  apply lines_flatMap_feed
  intro line hline
  obtain ⟨line, hmem, rfl⟩ := List.mem_map.mp hline
  simpa using h line hmem

end

/-- The literal of a text is a literal of JSON, and every literal of the text is read back as the
text, also in front of something else; so different texts have different literals. A quote in it
other than the first and the last one stands behind an odd number of backslashes, and no control is
in it. What is expected according to the phrase of a problem has no break, a text, a symbol and a
keyword being phrased by their literals; so each line that describes problems is one line of a plain
report, unless a break is in one of the other sentences. -/
theorem literal_reads_back (t : Text) :
    IsLiteral (encode t) t ∧
    (∀ literal rest, IsLiteral literal t → decode? (literal ++ rest) = some (t, rest)) ∧
    (∀ u, encode u = encode t → u = t) ∧
    (∀ before after, encode t = before ++ '"' :: after → before ≠ [] → after ≠ [] →
      Odd (before.rtakeWhile (· = '\\')).length) ∧
    (∀ c ∈ encode t, 0x20 ≤ c.toNat) ∧
    (∀ problem ∈ [Problem.expecting t, .expectingSymbol t, .expectingKeyword t],
      problem.classify = .ok (.expected (encode t))) ∧
    (∀ (problem : Problem) (expected : Text), problem.classify = .ok (.expected expected) →
      '\r' ∉ expected ∧ '\n' ∉ expected) ∧
    ∀ (problems : List Problem) (phrases : List Classification),
      problems.mapM Problem.classify = .ok phrases →
      (∀ s, .other s ∈ phrases → '\r' ∉ s ∧ '\n' ∉ s) →
      Text.lines ((describe phrases).flatMap (descriptionLine Plain.markup)).flatten =
        (describe phrases).map (fun line => ' ' :: ' ' :: line) ++ [[]] := by
  refine ⟨isLiteral_encode t, fun literal rest h => decode?_of_isLiteral h rest,
    fun u => encode_injective, fun before after => quote_behind_backslashes,
    (isLiteral_encode t).le_of_mem, ?_, fun problem expected => breaks_not_mem_expected, ?_⟩
  · intro problem hp
    simp only [List.mem_cons, List.not_mem_nil, or_false] at hp
    rcases hp with rfl | rfl | rfl <;> rfl
  · intro problems phrases h hsentences
    exact lines_descriptions (breaks_not_mem_describe h hsentences)

/-- A backslash in front of a quote makes three backslashes of it, and a control its code. -/
example : encode "\\\"\x01".toList = "\"\\\\\\\"\\u0001\"".toList := by decide

end ParseReport
