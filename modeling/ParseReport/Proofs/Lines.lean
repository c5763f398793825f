import ParseReport.Text.Lines

/-!
How the lines of a text grow when a character or another text is put in front of it, and which
numbers they have.
-/

namespace ParseReport

theorem lines_feed (rest : Text) : Text.lines ('\n' :: rest) = [] :: Text.lines rest := by
  rw [Text.lines]
  · simp
  · simp

theorem lines_return_feed (rest : Text) :
    Text.lines ('\r' :: '\n' :: rest) = [] :: Text.lines rest := by
  rw [Text.lines]

theorem lines_return {rest : Text} (h : ∀ r, rest ≠ '\n' :: r) :
    Text.lines ('\r' :: rest) = [] :: Text.lines rest := by
  rw [Text.lines]
  · simp
  · simpa using h

theorem lines_char {c : Char} {rest : Text} (hr : c ≠ '\r') (hf : c ≠ '\n') :
    Text.lines (c :: rest) = extendFirst c (Text.lines rest) := by
  rw [Text.lines]
  · simp [hr, hf]
  · simp [hr]

theorem extendFirst_length {c : Char} {lines : List Text} (h : lines ≠ []) :
    (extendFirst c lines).length = lines.length := by
  cases lines with
  | nil => exact absurd rfl h
  | cons line rest => rfl

/-- The last line is longer by the character if it is also the first one. -/
theorem extendFirst_getLast {c : Char} {lines : List Text} (h : lines ≠ []) :
    ((extendFirst c lines).getLastD []).length =
      (lines.getLastD []).length + if lines.length = 1 then 1 else 0 := by
  cases lines with
  | nil => exact absurd rfl h
  | cons line rest =>
    cases rest with
    | nil => rfl
    | cons next rest => simp [extendFirst]

theorem getLastD_cons_lines (line : Text) (t : Text) :
    (line :: t.lines).getLastD [] = t.lines.getLastD [] := by
  cases h : t.lines with
  | nil => exact absurd h t.lines_ne_nil
  | cons first lines => rfl

/-- The lines of two texts in a row, unless the cut is inside a break of two characters: the last
line of the first text and the first line of the second one are one line. -/
theorem lines_append {a b : Text} (h : a.getLast? = some '\r' → b.head? ≠ some '\n') :
    Text.lines (a ++ b) =
      a.lines.dropLast ++ (a.lines.getLastD [] ++ b.lines.headD []) :: b.lines.tail := by
  -- what the cut is not inside of, it is not inside of behind the first break either
  have hrest : ∀ {c : Char} {rest : Text}, ((c :: rest).getLast? = some '\r' →
      b.head? ≠ some '\n') → rest.getLast? = some '\r' → b.head? ≠ some '\n' := by
    intro c rest h hr
    exact h (by rw [List.getLast?_cons, hr]; rfl)
  fun_induction Text.lines a with
  | case1 =>
    cases hb : Text.lines b with
    | nil => exact absurd hb b.lines_ne_nil
    | cons line lines => simp [hb]
  | case2 rest ih =>
    have hne : Text.lines rest ≠ [] := Text.lines_ne_nil rest
    rw [List.cons_append, List.cons_append, lines_return_feed, ih (hrest (hrest h)),
      List.dropLast_cons_of_ne_nil hne, getLastD_cons_lines]
    rfl
  | case3 c rest hn hc ih =>
    have hne : Text.lines rest ≠ [] := Text.lines_ne_nil rest
    have hbreak : Text.lines (c :: (rest ++ b)) = [] :: Text.lines (rest ++ b) := by
      rcases hc with rfl | rfl
      · apply lines_return
        intro after he
        cases rest with
        | nil => exact h rfl (by rw [show b = '\n' :: after from he]; rfl)
        | cons d rest =>
          cases he
          exact hn _ rfl rfl
      · exact lines_feed _
    rw [List.cons_append, hbreak, ih (hrest h), List.dropLast_cons_of_ne_nil hne,
      getLastD_cons_lines]
    rfl
  | case4 c rest hn hc ih =>
    obtain ⟨hr, hf⟩ := not_or.mp hc
    rw [List.cons_append, lines_char hr hf, ih (hrest h)]
    cases hl : Text.lines rest with
    | nil => exact absurd hl (Text.lines_ne_nil rest)
    | cons line lines =>
      cases lines with
      | nil => rfl
      | cons next lines => simp [extendFirst]

theorem breaks_not_mem_lines {t line : Text} (h : line ∈ t.lines) : '\r' ∉ line ∧ '\n' ∉ line := by
  fun_induction Text.lines t generalizing line with
  | case1 =>
    cases List.mem_singleton.mp h
    exact ⟨List.not_mem_nil, List.not_mem_nil⟩
  | case2 rest ih =>
    rcases List.mem_cons.mp h with rfl | h
    · exact ⟨List.not_mem_nil, List.not_mem_nil⟩
    · exact ih h
  | case3 c rest _ _ ih =>
    rcases List.mem_cons.mp h with rfl | h
    · exact ⟨List.not_mem_nil, List.not_mem_nil⟩
    · exact ih h
  | case4 c rest _ hc ih =>
    obtain ⟨hr, hf⟩ := not_or.mp hc
    cases hl : Text.lines rest with
    | nil => exact absurd hl (Text.lines_ne_nil rest)
    | cons first lines =>
      rw [hl] at h ih
      rcases List.mem_cons.mp h with rfl | h
      · obtain ⟨hreturn, hfeed⟩ := ih List.mem_cons_self
        rw [List.mem_cons, List.mem_cons, not_or, not_or]
        exact ⟨⟨Ne.symm hr, hreturn⟩, Ne.symm hf, hfeed⟩
      · exact ih (List.mem_cons_of_mem _ h)

theorem feed_not_mem_lines {t line : Text} (h : line ∈ t.lines) : '\n' ∉ line :=
  (breaks_not_mem_lines h).2

/-- A text without breaks in front of a line feed is the first line. -/
theorem lines_append_feed {line : Text} (hr : '\r' ∉ line) (hf : '\n' ∉ line) (rest : Text) :
    Text.lines (line ++ '\n' :: rest) = line :: rest.lines := by
  induction line with
  | nil => exact lines_feed rest
  | cons c line ih =>
    rw [List.mem_cons, not_or] at hr hf
    rw [List.cons_append, lines_char (Ne.symm hr.1) (Ne.symm hf.1), ih hr.2 hf.2]
    rfl

/-- Texts without breaks that each end in a line feed are the lines, in front of an empty one. -/
theorem lines_flatMap_feed {lines : List Text} (h : ∀ line ∈ lines, '\r' ∉ line ∧ '\n' ∉ line) :
    Text.lines (lines.flatMap (· ++ ['\n'])) = lines ++ [[]] := by
  induction lines with
  | nil => rfl
  | cons line lines ih =>
    obtain ⟨hr, hf⟩ := h line List.mem_cons_self
    rw [List.flatMap_cons, List.append_assoc, List.singleton_append, lines_append_feed hr hf,
      ih fun next hn => h next (List.mem_cons_of_mem line hn)]
    rfl

section

variable {α : Type}

theorem numberedFrom_eq_zip (n : Nat) (xs : List α) :
    numberedFrom n xs = (List.range' n xs.length).zip xs := by
  induction xs generalizing n with
  | nil => rfl
  | cons x xs ih =>
    rw [numberedFrom, ih]
    rfl

theorem numberedFrom_getElem? (n : Nat) (xs : List α) (i : Nat) :
    (numberedFrom n xs)[i]? = xs[i]?.map fun x => (n + i, x) := by
  induction xs generalizing n i with
  | nil => rfl
  | cons x xs ih =>
    cases i with
    | zero => rfl
    | succ i =>
      have hn : n + 1 + i = n + (i + 1) := by omega
      rw [numberedFrom, List.getElem?_cons_succ, List.getElem?_cons_succ, ih, hn]

theorem numberedFrom_drop (n count : Nat) (xs : List α) :
    (numberedFrom n xs).drop count = numberedFrom (n + count) (xs.drop count) := by
  induction xs generalizing n count with
  | nil => cases count <;> rfl
  | cons x xs ih =>
    cases count with
    | zero => rfl
    | succ count =>
      have hn : n + 1 + count = n + (count + 1) := by omega
      rw [numberedFrom, List.drop_succ_cons, List.drop_succ_cons, ih, hn]

theorem le_of_mem_numberedFrom {n : Nat} {xs : List α} {entry : Nat × α}
    (h : entry ∈ numberedFrom n xs) : n ≤ entry.1 := by
  induction xs generalizing n with
  | nil => cases h
  | cons x xs ih =>
    rcases List.mem_cons.mp h with rfl | h
    · exact Nat.le_refl _
    · exact Nat.le_of_succ_le (ih h)

theorem mem_numberedFrom {n k : Nat} {x : α} {xs : List α} :
    (k, x) ∈ numberedFrom n xs ↔ n ≤ k ∧ xs[k - n]? = some x := by
  rw [List.mem_iff_getElem?]
  constructor
  · rintro ⟨i, hi⟩
    rw [numberedFrom_getElem?, Option.map_eq_some_iff] at hi
    obtain ⟨y, hy, he⟩ := hi
    cases he
    rw [Nat.add_sub_cancel_left]
    exact ⟨Nat.le_add_right n i, hy⟩
  · rintro ⟨hle, hx⟩
    refine ⟨k - n, ?_⟩
    rw [numberedFrom_getElem?, hx, Nat.add_sub_of_le hle]
    rfl

theorem numberedFrom_pairwise (n : Nat) (xs : List α) :
    (numberedFrom n xs).Pairwise fun a b => a.1 < b.1 := by
  induction xs generalizing n with
  | nil => exact .nil
  | cons x xs ih => exact List.pairwise_cons.mpr ⟨fun _ h => le_of_mem_numberedFrom h, ih (n + 1)⟩

/-- The elements with numbers between two bounds stand in a row. -/
theorem numberedFrom_filter (n low high : Nat) (xs : List α) :
    (numberedFrom n xs).filter (fun entry => low ≤ entry.1 ∧ entry.1 < high) =
      ((numberedFrom n xs).drop (low - n)).take (high - max low n) := by
  induction xs generalizing n with
  | nil => simp [numberedFrom]
  | cons x xs ih =>
    rw [numberedFrom, List.filter_cons, ih (n + 1)]
    by_cases hlow : low ≤ n
    · have hdrop : low - n = 0 ∧ low - (n + 1) = 0 := by omega
      have hmax : max low n = n ∧ max low (n + 1) = n + 1 := by omega
      rw [hdrop.1, hdrop.2, hmax.1, hmax.2]
      by_cases hhigh : n < high
      · obtain ⟨count, rfl⟩ := Nat.exists_eq_add_of_lt hhigh
        have hcount : n + count + 1 - n = n + count + 1 - (n + 1) + 1 := by omega
        rw [if_pos (decide_eq_true ⟨hlow, hhigh⟩), hcount]
        rfl
      · have hnone : high - n = 0 ∧ high - (n + 1) = 0 := by omega
        rw [if_neg (by simp [hhigh]), hnone.1, hnone.2, List.take_zero, List.take_zero]
    · have hdrop : low - n = low - (n + 1) + 1 := by omega
      have hmax : max low n = max low (n + 1) := by omega
      rw [if_neg (by simp [hlow]), hdrop, List.drop_succ_cons, hmax]

end

end ParseReport
