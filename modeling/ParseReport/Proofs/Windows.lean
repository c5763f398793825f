import ParseReport.Proofs.Carets

/-!
The window of source lines around a row. A source block shows it line by line, in any output format,
with the caret right below the row. In plain text the numbers of a block end in one column, and the
caret is counted from there.
-/

namespace ParseReport

/-- The numbered lines of a text that are at most `extra` lines away from a row, and an empty line
for the row if the text ends above it. -/
def Text.window (source : Text) (extra row : Nat) : List (Nat × Text) :=
  (source.numberedLines.filter fun line => row ≤ line.1 + extra ∧ line.1 ≤ row + extra) ++
    if source.lines.length < row then [(row, [])] else []

section

variable {source : Text} {extra row : Nat}

theorem mem_window {k : Nat} {t : Text} :
    (k, t) ∈ source.window extra row ↔
      (1 ≤ k ∧ source.lines[k - 1]? = some t ∧ row ≤ k + extra ∧ k ≤ row + extra) ∨
        (source.lines.length < row ∧ k = row ∧ t = []) := by
  unfold Text.window Text.numberedLines
  rw [List.mem_append, List.mem_filter, mem_numberedFrom]
  by_cases h : source.lines.length < row
  · simp [h, and_assoc]
  · simp [h, and_assoc]

theorem window_pairwise (source : Text) (extra row : Nat) :
    (source.window extra row).Pairwise fun line next => line.1 < next.1 := by
  have hlines : (source.numberedLines.filter fun line => row ≤ line.1 + extra ∧
      line.1 ≤ row + extra).Pairwise fun line next => line.1 < next.1 :=
    (numberedFrom_pairwise 1 source.lines).filter _
  unfold Text.window
  split
  next hbeyond =>
    refine List.pairwise_append.mpr ⟨hlines, List.pairwise_singleton _ _, ?_⟩
    rintro ⟨k, t⟩ hmem _ hrow
    cases List.mem_singleton.mp hrow
    obtain ⟨hk, ht⟩ := mem_numberedFrom.mp (List.mem_of_mem_filter hmem)
    obtain ⟨hlt, _⟩ := List.getElem?_eq_some_iff.mp ht
    show k < row
    omega
  next => rwa [List.append_nil]

theorem numberedLines_drop_beyond (h : source.lines.length ≤ row) :
    source.numberedLines.drop row = [] := by
  rw [Text.numberedLines, List.drop_eq_nil_iff, numberedFrom_length]
  exact h

theorem numberedLines_drop_before (hrow : 1 ≤ row) (h : row ≤ source.lines.length) :
    source.numberedLines.drop (row - 1) =
      (row, (source.lines[row - 1]?).getD []) :: source.numberedLines.drop row := by
  have hlt : row - 1 < source.lines.length := by omega
  have hnumbered : source.numberedLines[row - 1]? = some (row, source.lines[row - 1]) := by
    rw [Text.numberedLines, numberedFrom_getElem?, List.getElem?_eq_getElem hlt,
      Nat.add_sub_of_le hrow]
    rfl
  obtain ⟨hlt', hget⟩ := List.getElem?_eq_some_iff.mp hnumbered
  rw [List.drop_eq_getElem_cons hlt', hget, Nat.sub_add_cancel hrow,
    List.getElem?_eq_getElem hlt, Option.getD_some]

/-- A window is made of the lines before the row, the row and the lines after it. -/
theorem window_eq (source : Text) (extra : Nat) (hrow : 1 ≤ row) :
    source.window extra row =
      (source.numberedLines.drop (row - 1 - extra)).take (min extra (row - 1)) ++
        (row, (source.lines[row - 1]?).getD []) :: (source.numberedLines.drop row).take extra := by
  have hlines : (source.numberedLines.filter fun line => row ≤ line.1 + extra ∧
      line.1 ≤ row + extra) =
      (source.numberedLines.drop (row - 1 - extra)).take (min extra (row - 1)) ++
        (source.numberedLines.drop (row - 1)).take (extra + 1) := by
    have hcut := numberedFrom_filter 1 (row - extra) (row + extra + 1) source.lines
    have hstart : row - extra - 1 = row - 1 - extra := by omega
    have hcount : row + extra + 1 - max (row - extra) 1 = min extra (row - 1) + (extra + 1) := by
      omega
    have hmiddle : row - 1 - extra + min extra (row - 1) = row - 1 := by omega
    rw [hstart, hcount, List.take_add, List.drop_drop, Nat.add_comm, hmiddle] at hcut
    rw [Text.numberedLines, ← hcut]
    apply List.filter_congr
    intro line _
    rw [decide_eq_decide]
    omega
  unfold Text.window
  rw [hlines, List.append_assoc]
  congr 1
  by_cases hbeyond : source.lines.length < row
  · have hnone : source.lines[row - 1]? = none := List.getElem?_eq_none (by omega)
    rw [if_pos hbeyond, hnone, numberedLines_drop_beyond (by omega),
      numberedLines_drop_beyond (by omega), List.take_nil, List.take_nil]
    rfl
  · rw [if_neg hbeyond, List.append_nil, numberedLines_drop_before hrow (by omega),
      List.take_succ_cons]

/-- The numbers in a window are as wide as that of the last line or narrower. -/
theorem window_widest (source : Text) (extra : Nat) (hrow : 1 ≤ row) :
    ∃ last ∈ source.window extra row,
      (decimal last.1).length = source.numberWidth extra row ∧
      ∀ line ∈ source.window extra row, line.1 ≤ last.1 := by
  have hlast : ∃ last, (source.window extra row).getLast? = some last ∧
      (decimal last.1).length = source.numberWidth extra row := by
    rw [window_eq source extra hrow, List.getLast?_append, List.getLast?_cons]
    unfold Text.numberWidth numberWidth
    cases ((source.numberedLines.drop row).take extra).getLast? with
    | none => exact ⟨_, rfl, rfl⟩
    | some last => exact ⟨_, rfl, rfl⟩
  obtain ⟨last, hlast, hwidth⟩ := hlast
  refine ⟨last, List.mem_of_getLast? hlast, hwidth, ?_⟩
  have hsplit := List.dropLast_append_getLast? last hlast
  have hordered := window_pairwise source extra row
  intro line hline
  rw [← hsplit] at hordered hline
  rcases List.mem_append.mp hline with hline | hline
  · exact Nat.le_of_lt ((List.pairwise_append.mp hordered).2.2 line hline last (by simp))
  · rw [List.mem_singleton.mp hline]

theorem decimal_length_le_of_mem_window (hrow : 1 ≤ row) {line : Nat × Text}
    (h : line ∈ source.window extra row) :
    (decimal line.1).length ≤ source.numberWidth extra row := by
  obtain ⟨last, _, hwidth, hle⟩ := window_widest source extra hrow
  rw [← hwidth]
  exact decimal_length_le (hle line h)

theorem breaks_not_mem_window {line : Nat × Text} (h : line ∈ source.window extra row) :
    '\r' ∉ line.2 ∧ '\n' ∉ line.2 := by
  obtain ⟨k, t⟩ := line
  rcases mem_window.mp h with ⟨_, ht, _⟩ | ⟨_, _, rfl⟩
  · exact breaks_not_mem_lines (List.mem_of_getElem? ht)
  · exact ⟨List.not_mem_nil, List.not_mem_nil⟩

/-- Only one line of a window has the number of the row. -/
theorem window_ne_row {before after : List (Nat × Text)} {text : Text}
    (h : source.window extra row = before ++ (row, text) :: after) :
    (∀ line ∈ before, line.1 ≠ row) ∧ ∀ line ∈ after, line.1 ≠ row := by
  have hordered := window_pairwise source extra row
  rw [h, List.pairwise_append, List.pairwise_cons] at hordered
  obtain ⟨_, ⟨hafter, _⟩, hbefore⟩ := hordered
  exact ⟨fun line hm => Nat.ne_of_lt (hbefore line hm _ List.mem_cons_self),
    fun line hm => Nat.ne_of_gt (hafter line hm)⟩

end

/-- The line with a caret under a column, behind numbers of some width. -/
def caretText (width col : Nat) : Text :=
  List.replicate (width + col + 1) ' ' ++ ['^']

/-- The lines of text that a source block is made of. -/
def Text.blockLines (source : Text) (extra : Nat) (p : Position) : List Text :=
  (source.window extra p.row).flatMap fun line =>
    shownLine (source.numberWidth extra p.row) line.1 line.2 ::
      if line.1 = p.row then [caretText (source.numberWidth extra p.row) p.col] else []

theorem breaks_not_mem_shownLine {width row : Nat} {line : Text} (h : '\r' ∉ line ∧ '\n' ∉ line) :
    '\r' ∉ shownLine width row line ∧ '\n' ∉ shownLine width row line :=
  ⟨fun hm => h.1 (mem_of_mem_shownLine hm (by decide)),
    fun hm => h.2 (mem_of_mem_shownLine hm (by decide))⟩

theorem breaks_not_mem_blockLines {source : Text} {extra : Nat} {p : Position} {line : Text}
    (h : line ∈ source.blockLines extra p) : '\r' ∉ line ∧ '\n' ∉ line := by
  obtain ⟨entry, hentry, h⟩ := List.mem_flatMap.mp h
  rcases List.mem_cons.mp h with rfl | h
  · exact breaks_not_mem_shownLine (breaks_not_mem_window hentry)
  · split at h
    next =>
      rw [List.mem_singleton.mp h]
      simp [caretText]
    next => cases h

/-- The text of a source block is its lines, each with a line feed behind it. -/
theorem sourceBlock_eq_blockLines (source : Text) (extra : Nat) (p : Position) :
    (sourceBlock Plain.markup extra source.numberedLines p).flatten =
      (source.blockLines extra p).flatMap (· ++ ['\n']) := by
  have hwindow := window_eq source extra p.row_pos
  obtain ⟨hbefore, hafter⟩ := window_ne_row hwindow
  have hplain : ∀ lines : List (Nat × Text), (∀ line ∈ lines, line.1 ≠ p.row) →
      (lines.flatMap fun line => shownLine (source.numberWidth extra p.row) line.1 line.2 ::
        if line.1 = p.row then [caretText (source.numberWidth extra p.row) p.col] else []).flatMap
          (· ++ ['\n']) =
      lines.flatMap fun line =>
        shownLine (source.numberWidth extra p.row) line.1 line.2 ++ ['\n'] := by
    intro lines hne
    rw [List.flatMap_assoc]
    apply List.flatMap_congr
    intro line hm
    rw [if_neg (hne line hm), List.flatMap_singleton]
  rw [sourceBlock_flatten extra source.numberedLines p rfl rfl, numberedLines_text,
    Text.blockLines, hwindow, List.flatMap_append, List.flatMap_cons, if_pos rfl,
    List.flatMap_append, List.flatMap_append, hplain _ hbefore, hplain _ hafter]
  simp only [caretText, Text.numberWidth, List.flatMap_cons, List.flatMap_nil, List.append_assoc,
    List.cons_append, List.nil_append]

theorem lines_sourceBlock (source : Text) (extra : Nat) (p : Position) :
    Text.lines (sourceBlock Plain.markup extra source.numberedLines p).flatten =
      source.blockLines extra p ++ [[]] := by
  rw [sourceBlock_eq_blockLines]
  exact lines_flatMap_feed fun line h => breaks_not_mem_blockLines h

/-- The numbered lines of a source block are the window of its row: in ascending order and each once
the lines of the text that are at most `extra` lines away, and the row itself, which is empty beyond
the text. The caret line comes right below the row, and something follows it exactly if there are
lines below to be shown. -/
theorem source_block_shows_window (source : Text) (extra : Nat) (p : Position) :
    (source.window extra p.row).Pairwise (fun line next => line.1 < next.1) ∧
    (∀ k t, (k, t) ∈ source.window extra p.row ↔
      (1 ≤ k ∧ source.lines[k - 1]? = some t ∧ p.row ≤ k + extra ∧ k ≤ p.row + extra) ∨
        (source.lines.length < p.row ∧ k = p.row ∧ t = [])) ∧
    ∃ before text after,
      source.window extra p.row = before ++ (p.row, text) :: after ∧
      (∀ (Out : Type) (m : Markup Out), sourceBlock m extra source.numberedLines p =
        (before ++ [(p.row, text)]).flatMap (numberedLine m (source.numberWidth extra p.row)) ++
          caretLine m (source.numberWidth extra p.row) p.col ++
          after.flatMap (numberedLine m (source.numberWidth extra p.row))) ∧
      (after = [] ↔ extra = 0 ∨ source.lines.length ≤ p.row) := by
  refine ⟨window_pairwise source extra p.row, fun k t => mem_window, _, _, _,
    window_eq source extra p.row_pos, ?_, ?_⟩
  · intro Out m
    rw [← numberedLines_text]
    unfold sourceBlock surrounding
    rw [List.flatMap_append, List.flatMap_singleton]
    rfl
  · rw [List.take_eq_nil_iff, List.drop_eq_nil_iff, Text.numberedLines, numberedFrom_length]

/-- In the plain text of a source block the numbers are aligned to the right, in as many columns as
the widest of them has digits, and a bar with a blank comes behind them. In front of the caret there
are as many blanks as these columns and the column of the position, and one more. So the caret stands
under the code point of the position, or just past the line if the column is the next one. In a
plain report with a failure at the position the block is a number of whole lines. -/
theorem source_block_aligned (source : Text) (extra : Nat) (p : Position) :
    ∃ width,
      Text.lines (sourceBlock Plain.markup extra source.numberedLines p).flatten =
        ((source.window extra p.row).flatMap fun line => shownLine width line.1 line.2 ::
          if line.1 = p.row then [List.replicate (width + p.col + 1) ' ' ++ ['^']] else []) ++
        [[]] ∧
      (∃ line ∈ source.window extra p.row, (decimal line.1).length = width) ∧
      (∀ line ∈ source.window extra p.row, ∃ blanks, blanks + (decimal line.1).length = width ∧
        shownLine width line.1 line.2 =
          List.replicate blanks ' ' ++ decimal line.1 ++ "| ".toList ++ line.2) ∧
      (∀ content, source.lines[p.row - 1]? = some content →
        (p.row, content) ∈ source.window extra p.row ∧
        (p.col ≤ content.length → ∃ c, content[p.col - 1]? = some c ∧
          (shownLine width p.row content)[width + p.col + 1]? = some c) ∧
        (p.col = content.length + 1 →
          (shownLine width p.row content).length = width + p.col + 1)) ∧
      ∀ (ε : Type) (x : Extraction ε) (failures : List Failure) (report : Text),
        Plain.report x extra source failures = .ok report → (∃ f ∈ failures, f.position = p) →
        ∃ before after, before.EndsLine ∧ report =
          before ++ (sourceBlock Plain.markup extra source.numberedLines p).flatten ++
            '\n' :: after := by
  have hfits : ∀ line ∈ source.window extra p.row,
      (decimal line.1).length ≤ source.numberWidth extra p.row :=
    fun line => decimal_length_le_of_mem_window p.row_pos
  refine ⟨source.numberWidth extra p.row, lines_sourceBlock source extra p, ?_, ?_, ?_, ?_⟩
  · obtain ⟨last, hmem, hwidth, _⟩ := window_widest source extra p.row_pos
    exact ⟨last, hmem, hwidth⟩
  · intro line hline
    exact ⟨_, Nat.sub_add_cancel (hfits line hline), rfl⟩
  · intro content hcontent
    have hmem : (p.row, content) ∈ source.window extra p.row :=
      mem_window.mpr (.inl ⟨p.row_pos, hcontent, by omega, by omega⟩)
    have hwidth := hfits _ hmem
    refine ⟨hmem, ?_, ?_⟩
    · intro hcol
      have hlt : p.col - 1 < content.length := Nat.sub_one_lt_of_le p.col_pos hcol
      refine ⟨_, List.getElem?_eq_getElem hlt, ?_⟩
      rw [shownLine_getElem? hwidth p.col_pos, List.getElem?_eq_getElem hlt]
    · intro hcol
      rw [shownLine_length hwidth]
      omega
  · rintro ε x failures report hreport ⟨f, hf, rfl⟩
    exact report_holds_block hreport hf

/-- The ninth of ten lines is shown with a blank in front of its number, for there is a tenth. -/
theorem source_block_aligned_ninth :
    ∃ width report before after,
      Plain.report .standard 1 "a\nb\nc\nd\ne\nf\ng\nh\ni\nj".toList
        [⟨⟨9, 1, by decide, by decide⟩, .badRepeat, []⟩] = .ok report ∧
      (shownLine width 9 ['i'])[width + 2]? = some 'i' ∧ before.EndsLine ∧
      report = before ++ " 8| h\n 9| i\n    ^\n10| j\n".toList ++ '\n' :: after := by
  obtain ⟨width, _, _, _, hrow, hreport⟩ := source_block_aligned
    "a\nb\nc\nd\ne\nf\ng\nh\ni\nj".toList 1 ⟨9, 1, by decide, by decide⟩
  obtain ⟨_, hunder, _⟩ := hrow ['i'] rfl
  obtain ⟨c, hc, hshown⟩ := hunder (by decide)
  cases Option.some.inj hc
  obtain ⟨before, after, hbefore, heq⟩ := hreport Fault .standard
    [⟨⟨9, 1, by decide, by decide⟩, .badRepeat, []⟩] _ rfl ⟨_, List.mem_cons_self, rfl⟩
  exact ⟨width, _, before, after, rfl, hshown, hbefore, heq⟩

end ParseReport
