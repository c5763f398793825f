import ParseReport.Proofs.Carets
import ParseReport.Proofs.StyledSpans

/-!
Carets on a terminal. What is printed of a source line has blanks for tabs and lacks some controls,
and the blanks in front of a caret count code points of the source. So a caret stands under its code
point exactly if the tabs in front of it take as many columns more as there are controls missing.
-/

namespace ParseReport.Terminal

open Styled

/-- The blanks that the tabs of a text take beyond one each; the text begins at a column. -/
def widening : Nat → Text → Nat
  | _, [] => 0
  | column, c :: rest =>
    if c = '\t' then
      let gap := tabWidth - column % tabWidth
      gap - 1 + widening (column + gap) rest
    else widening (if c = '\n' then 0 else column + columns c) rest

theorem gap_pos (column : Nat) : 0 < tabWidth - column % tabWidth :=
  Nat.sub_pos_of_lt (Nat.mod_lt _ (by decide))

theorem expandTabs_append (column : Nat) (a b : Text) :
    expandTabs column (a ++ b) = expandTabs column a ++ expandTabs (columnAfter column a) b := by
  induction a generalizing column with
  | nil => rfl
  | cons c a ih =>
    rw [List.cons_append, expandTabs, expandTabs, columnAfter]
    by_cases hc : c = '\t'
    · rw [if_pos hc, if_pos hc, if_pos hc, List.append_assoc, ← ih]
    · rw [if_neg hc, if_neg hc, if_neg hc, List.cons_append, ← ih]

theorem columnAfter_append (column : Nat) (a b : Text) :
    columnAfter column (a ++ b) = columnAfter (columnAfter column a) b := by
  induction a generalizing column with
  | nil => rfl
  | cons c a ih => exact ih _

theorem expandTabs_of_not_mem {t : Text} (h : '\t' ∉ t) (column : Nat) :
    expandTabs column t = t := by
  induction t generalizing column with
  | nil => rfl
  | cons c t ih =>
    obtain ⟨hc, ht⟩ := not_or.mp (mt List.mem_cons.mpr h)
    rw [expandTabs, if_neg (Ne.symm hc), ih ht]

theorem expandTabs_length (column : Nat) (t : Text) :
    (expandTabs column t).length = t.length + widening column t := by
  induction t generalizing column with
  | nil => rfl
  | cons c t ih =>
    have hgap := gap_pos column
    rw [expandTabs, widening, List.length_cons]
    split
    next =>
      rw [List.length_append, List.length_replicate, ih]
      dsimp only
      omega
    next =>
      rw [List.length_cons, ih]
      omega

theorem widening_of_not_mem {t : Text} (h : '\t' ∉ t) (column : Nat) : widening column t = 0 := by
  have hlen := expandTabs_length column t
  rw [expandTabs_of_not_mem h] at hlen
  omega

theorem feed_not_mem_expandTabs {t : Text} (h : '\n' ∉ t) (column : Nat) :
    '\n' ∉ expandTabs column t := by
  induction t generalizing column with
  | nil => exact h
  | cons c t ih =>
    obtain ⟨hc, ht⟩ := not_or.mp (mt List.mem_cons.mpr h)
    rw [expandTabs]
    split
    next =>
      rw [List.mem_append, not_or]
      exact ⟨fun hm => absurd (List.eq_of_mem_replicate hm) (by decide), ih ht _⟩
    next =>
      rw [List.mem_cons, not_or]
      exact ⟨hc, ih ht _⟩

/-- What a text begins with is printed as it is, or as a blank if it is a tab. -/
theorem expandTabs_cons (column : Nat) (c : Char) (t : Text) :
    ∃ after, expandTabs column (c :: t) = (if c = '\t' then ' ' else c) :: after := by
  rw [expandTabs]
  split
  next =>
    obtain ⟨n, hn⟩ := Nat.exists_eq_add_of_lt (gap_pos column)
    rw [hn, Nat.zero_add]
    exact ⟨_, rfl⟩
  next => exact ⟨_, rfl⟩

theorem printFrom_false (column : Nat) (pieces : List Piece) :
    printFrom false column pieces = expandTabs column (plain pieces) := by
  induction pieces generalizing column with
  | nil => rfl
  | cons piece pieces ih =>
    rw [printFrom, plain_cons, expandTabs_append, ih]
    rfl

theorem columnAfter_endsLine {t : Text} (h : t.EndsLine) : columnAfter 0 t = 0 := by
  rcases h with rfl | ⟨before, rfl⟩
  · rfl
  · rw [columnAfter_append]
    rfl

theorem clean_endsLine {t : Text} (h : t.EndsLine) : Text.EndsLine (clean t) := by
  rcases h with rfl | ⟨before, rfl⟩
  · exact .inl rfl
  · rw [clean_append]
    exact endsLine_concat _

theorem expandTabs_endsLine {t : Text} (h : t.EndsLine) : Text.EndsLine (expandTabs 0 t) := by
  rcases h with rfl | ⟨before, rfl⟩
  · exact .inl rfl
  · rw [expandTabs_append]
    exact endsLine_concat _

/-- What is printed of a source line. -/
def printedLine (width row : Nat) (line : Text) : Text :=
  expandTabs 0 (clean (shownLine width row line))

section

variable {width row : Nat} {line : Text}

theorem not_mem_clean_shownLine {c : Char} (h : c ∉ line)
    (hc : c ≠ ' ' ∧ c ≠ '|' ∧ c.isDigit = false) : c ∉ clean (shownLine width row line) :=
  fun hm => h (mem_of_mem_shownLine (List.mem_of_mem_filter hm) hc)

/-- The controls of a shown line are those of the source line. -/
theorem clean_shownLine : clean (shownLine width row line) = shownLine width row (clean line) := by
  have hkept : clean (shownLine width row []) = shownLine width row [] := by
    apply List.filter_eq_self.mpr
    intro c hc
    by_contra hn
    have hd : isDropped c = true := by simpa using hn
    simp only [isDropped, Bool.or_eq_true, decide_eq_true_eq, or_assoc] at hd
    refine absurd (mem_of_mem_shownLine hc ?_) List.not_mem_nil
    rcases hd with rfl | rfl | rfl | rfl | rfl <;> decide
  have hline : ∀ t, shownLine width row t = shownLine width row [] ++ t := by
    intro t
    simp [shownLine]
  rw [hline line, clean_append, hkept, ← hline]

theorem clean_shownLine_length (h : (decimal row).length ≤ width) :
    (clean (shownLine width row line)).length + line.countP isDropped =
      width + 2 + line.length := by
  have hcount := List.length_eq_countP_add_countP isDropped (l := line)
  have hclean : (clean line).length = line.countP fun c => !isDropped c :=
    List.countP_eq_length_filter.symm
  rw [clean_shownLine, shownLine_length h, hclean, hcount]
  simp only [Bool.not_eq_true, Bool.decide_eq_false]
  omega

end

section

variable {report line : Text} {width : Nat} {p : Position}

theorem clean_caret (indent : Nat) (after : Text) :
    clean ('\n' :: (List.replicate indent ' ' ++ '^' :: '\n' :: after)) =
      '\n' :: (List.replicate indent ' ' ++ '^' :: '\n' :: clean after) := by
  have hblanks : clean (List.replicate indent ' ') = List.replicate indent ' ' := by
    simp [clean, isDropped]
  change '\n' :: clean (List.replicate indent ' ' ++ '^' :: '\n' :: after) = _
  rw [clean_append, hblanks]
  rfl

theorem expandTabs_caret (column indent : Nat) (after : Text) :
    expandTabs column ('\n' :: (List.replicate indent ' ' ++ '^' :: '\n' :: after)) =
      '\n' :: (List.replicate indent ' ' ++ '^' :: '\n' :: expandTabs 0 after) := by
  have hblanks : '\t' ∉ List.replicate indent ' ' := by
    intro hm
    exact absurd (List.eq_of_mem_replicate hm) (by decide)
  change '\n' :: expandTabs 0 (List.replicate indent ' ' ++ '^' :: '\n' :: after) = _
  rw [expandTabs_append, expandTabs_of_not_mem hblanks]
  rfl

/-- A line and its caret are printed as two lines, one below the other. -/
theorem printed_marks (h : report.Marks width p line) :
    ∃ before after, before.EndsLine ∧
      expandTabs 0 (clean report) = before ++ printedLine width p.row line ++
        '\n' :: (List.replicate (width + p.col + 1) ' ' ++ '^' :: '\n' :: after) := by
  obtain ⟨before, after, _, hbefore, rfl⟩ := h
  have hfront := clean_endsLine hbefore
  refine ⟨expandTabs 0 (clean before), expandTabs 0 (clean after), expandTabs_endsLine hfront, ?_⟩
  rw [clean_append, clean_append, clean_caret, expandTabs_append, expandTabs_append,
    expandTabs_caret, columnAfter_endsLine hfront]
  rfl

/-- What is printed of a line up to a code point begins what is printed of the line. -/
theorem printedLine_append (width row : Nat) (head tail : Text) {c : Char}
    (hc : isDropped c = false) :
    ∃ back, printedLine width row (head ++ c :: tail) =
      printedLine width row head ++ (if c = '\t' then ' ' else c) :: back := by
  have hshown : shownLine width row (head ++ c :: tail) =
      shownLine width row head ++ c :: tail := by
    simp [shownLine]
  have hclean : clean (c :: tail) = c :: clean tail := by
    simp [clean, hc]
  unfold printedLine
  rw [hshown, clean_append, hclean, expandTabs_append]
  obtain ⟨back, hback⟩ := expandTabs_cons (columnAfter 0 (clean (shownLine width row head))) c
    (clean tail)
  exact ⟨back, by rw [hback]⟩

end

theorem plain_of_report {ε : Type} {styles : Styles} {x : Extraction ε} {extra : Nat}
    {source : Text} {failures : List Failure} {pieces : List Piece}
    (h : report styles x extra source failures = .ok pieces) :
    ∃ text, Plain.report x extra source failures = .ok text ∧ plain pieces = clean text := by
  unfold report at h
  rw [render_write (markup styles)] at h
  obtain ⟨fragments, hr, rfl⟩ := Session.map_eq_ok h
  refine ⟨(fragments.map (Fragment.write Plain.markup)).flatten, ?_, plain_writes styles fragments⟩
  unfold Plain.report
  rw [render_write Plain.markup, hr]
  rfl

/-- The code point of a failure and the caret are printed in two lines, one below the other. The
caret stands under the code point exactly if the tabs in front of it take as many columns more than
one each as there are controls that are not printed; so it does if there are no tabs and no such
controls. -/
theorem caret_under_code_point_iff {ε : Type} (styles : Styles) (x : Extraction ε) (extra : Nat)
    {source : Text} {failures : List Failure} {pieces : List Piece}
    (h : report styles x extra source failures = .ok pieces) {f : Failure} (hf : f ∈ failures)
    {content : Text} (hline : source.lines[f.position.row - 1]? = some content) {c : Char}
    (hc : content[f.position.col - 1]? = some c) (hkept : isDropped c = false) :
    ∃ width before front back after,
      width = source.numberWidth extra f.position.row ∧ before.EndsLine ∧ '\n' ∉ front ∧
      print false pieces = before ++ (front ++ (if c = '\t' then ' ' else c) :: back) ++
        '\n' :: (List.replicate (width + f.position.col + 1) ' ' ++ '^' :: '\n' :: after) ∧
      printedLine width f.position.row content = front ++ (if c = '\t' then ' ' else c) :: back ∧
      printedLine width f.position.row (content.take (f.position.col - 1)) = front ∧
      (front.length = width + f.position.col + 1 ↔
        widening 0 (clean (shownLine width f.position.row (content.take (f.position.col - 1)))) =
          (content.take (f.position.col - 1)).countP isDropped) ∧
      ((∀ d ∈ content.take (f.position.col - 1), d ≠ '\t' ∧ isDropped d = false) →
        front.length = width + f.position.col + 1) := by
  obtain ⟨text, htext, hplain⟩ := plain_of_report h
  have hmarks := report_marks htext hf
  rw [hline, Option.getD_some] at hmarks
  obtain ⟨width, hw⟩ : ∃ width, width = source.numberWidth extra f.position.row := ⟨_, rfl⟩
  rw [← hw] at hmarks
  have ⟨_, _, hwidth, _, _⟩ := hmarks
  obtain ⟨before, after, hbefore, hprinted⟩ := printed_marks hmarks
  obtain ⟨hlt, hget⟩ := List.getElem?_eq_some_iff.mp hc
  have hsplit : content.take (f.position.col - 1) ++ c :: content.drop (f.position.col - 1 + 1) =
      content := by
    rw [← hget, ← List.drop_eq_getElem_cons, List.take_append_drop]
  obtain ⟨back, hback⟩ := printedLine_append width f.position.row
    (content.take (f.position.col - 1)) (content.drop (f.position.col - 1 + 1)) hkept
  rw [hsplit] at hback
  have hhead : (content.take (f.position.col - 1)).length = f.position.col - 1 :=
    List.length_take_of_le (Nat.le_of_lt hlt)
  have hfeed : '\n' ∉ content.take (f.position.col - 1) := fun hm =>
    feed_not_mem_lines (List.mem_of_getElem? hline) (List.mem_of_mem_take hm)
  generalize content.take (f.position.col - 1) = head at hback hhead hfeed ⊢
  have hlength : (printedLine width f.position.row head).length = _ :=
    expandTabs_length 0 (clean (shownLine width f.position.row head))
  have hcount : (clean (shownLine width f.position.row head)).length + head.countP isDropped =
      width + 2 + head.length := clean_shownLine_length hwidth
  have hcol := f.position.col_pos
  have hiff : (printedLine width f.position.row head).length = width + f.position.col + 1 ↔
      widening 0 (clean (shownLine width f.position.row head)) = head.countP isDropped := by
    omega
  refine ⟨width, before, _, back, after, hw, hbefore, ?_, ?_, hback, rfl, hiff, ?_⟩
  · exact feed_not_mem_expandTabs (not_mem_clean_shownLine hfeed (by decide)) 0
  · rw [print, printFrom_false, hplain, hprinted, hback]
  · intro hordinary
    have htab : '\t' ∉ head := fun hm => (hordinary _ hm).1 rfl
    have hnone : head.countP isDropped = 0 := by
      rw [List.countP_eq_zero]
      intro d hd
      rw [(hordinary d hd).2]
      exact Bool.false_ne_true
    rw [hiff, hnone]
    exact widening_of_not_mem (not_mem_clean_shownLine htab (by decide)) 0

/-- A failure behind a text. -/
def failuresBehind (t : Text) : List Failure :=
  [⟨.endOf t, .unexpectedChar, []⟩]

/-- Behind a tab that takes one column, the caret stands under the code point. -/
theorem caret_behind_narrow_tab :
    ∃ pieces before front back after,
      report {} Extraction.standard 0 "abcd\tx".toList (failuresBehind "abcd\t".toList) =
        .ok pieces ∧
      print false pieces = before ++ (front ++ 'x' :: back) ++
        '\n' :: (List.replicate front.length ' ' ++ '^' :: '\n' :: after) := by
  obtain ⟨pieces, h⟩ : ∃ pieces,
      report {} Extraction.standard 0 "abcd\tx".toList (failuresBehind "abcd\t".toList) =
        .ok pieces := ⟨_, rfl⟩
  have hline : Text.lines "abcd\tx".toList = ["abcd\tx".toList] := rfl
  have hhere : "abcd\tx".toList[6 - 1]? = some 'x' := rfl
  obtain ⟨width, before, front, back, after, hwidth, _, _, hprinted, _, _, hiff, _⟩ :=
    caret_under_code_point_iff {} Extraction.standard 0 h List.mem_cons_self
      (congrArg List.head? hline) hhere rfl
  have haligned : front.length = width + 6 + 1 := by
    apply hiff.mpr
    rw [hwidth]
    decide
  refine ⟨pieces, before, front, back, after, h, ?_⟩
  rw [haligned]
  exact hprinted

/-- Behind a tab at the beginning of a line, the code point stands in the ninth column of what is
printed and the caret in the fifth. -/
theorem caret_behind_wide_tab :
    ∃ pieces,
      report {} Extraction.standard 0 "\tx".toList (failuresBehind "\t".toList) = .ok pieces ∧
      print false pieces = "1|      x\n    ^\n\n  Unexpected char\n".toList := by
  refine ⟨_, rfl, ?_⟩
  decide

end ParseReport.Terminal
