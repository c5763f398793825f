import ParseReport.Proofs.Coordinates
import ParseReport.Proofs.FilteredReport
import ParseReport.Proofs.Sessions

/-!
Carets in reports. The source block of a failure shows its line behind the number of the line, and
below it a caret under the column of the failure. Line and caret are whole lines of the report, so
the caret stands under the code point that an error is at.
-/

namespace ParseReport

/-- A text that is empty or ends where a line ends. -/
def Text.EndsLine (t : Text) : Prop :=
  t = [] ∨ ∃ before, t = before ++ ['\n']

theorem endsLine_concat (t : Text) : Text.EndsLine (t ++ ['\n']) :=
  .inr ⟨t, rfl⟩

theorem Text.EndsLine.append {a b : Text} (ha : a.EndsLine) (hb : b.EndsLine) :
    Text.EndsLine (a ++ b) := by
  rcases hb with rfl | ⟨before, rfl⟩
  · rwa [List.append_nil]
  · rw [← List.append_assoc]
    exact endsLine_concat _

theorem endsLine_flatMap {α : Type} {f : α → Text} {xs : List α} (h : ∀ x ∈ xs, (f x).EndsLine) :
    Text.EndsLine (xs.flatMap f) := by
  induction xs with
  | nil => exact .inl rfl
  | cons x xs ih =>
    rw [List.flatMap_cons]
    have hx := h x List.mem_cons_self
    exact hx.append (ih fun y hy => h y (List.mem_cons_of_mem x hy))

/-- A source line as a report shows it. -/
def shownLine (width row : Nat) (line : Text) : Text :=
  alignRight width (decimal row) ++ "| ".toList ++ line

theorem alignRight_length {width : Nat} {t : Text} (h : t.length ≤ width) :
    (alignRight width t).length = width := by
  rw [alignRight, List.length_append, List.length_replicate]
  omega

theorem decimal_length_le {m n : Nat} (h : m ≤ n) : (decimal m).length ≤ (decimal n).length := by
  have hpos : 0 < (decimal n).length := Nat.length_toDigits_pos
  have hn : n < 10 ^ (decimal n).length :=
    (Nat.length_toDigits_le_iff (by decide) hpos).mp (Nat.le_refl _)
  exact (Nat.length_toDigits_le_iff (by decide) hpos).mpr (Nat.lt_of_le_of_lt h hn)

/-- The width that the line numbers around a row of a text have. -/
def Text.numberWidth (source : Text) (extra row : Nat) : Nat :=
  ParseReport.numberWidth row ((source.numberedLines.drop row).take extra)

section

variable {source : Text} {extra row : Nat}

theorem numberedLines_text :
    (source.numberedLines[row - 1]?.map Prod.snd).getD [] = (source.lines[row - 1]?).getD [] := by
  rw [Text.numberedLines, numberedFrom_getElem?, Option.map_map]
  cases source.lines[row - 1]? <;> rfl

/-- The number of a failing line fits in the width of the numbers around it. -/
theorem decimal_length_le_numberWidth :
    (decimal row).length ≤ source.numberWidth extra row := by
  unfold Text.numberWidth numberWidth
  cases hlast : ((source.numberedLines.drop row).take extra).getLast? with
  | none => exact Nat.le_refl _
  | some entry =>
    have hmem := List.mem_of_mem_take (List.mem_of_getLast? hlast)
    rw [Text.numberedLines, numberedFrom_drop] at hmem
    have hle := le_of_mem_numberedFrom hmem
    exact decimal_length_le (by simp only [Option.map_some, Option.getD_some]; omega)

end

/-- A report shows the line of a position with a caret under its column: the line behind its number,
and the caret behind blanks, each as a whole line of the report. -/
def Text.Marks (report : Text) (width : Nat) (p : Position) (line : Text) : Prop :=
  ∃ before after, (decimal p.row).length ≤ width ∧ before.EndsLine ∧
    report = before ++ shownLine width p.row line ++
      '\n' :: (List.replicate (width + p.col + 1) ' ' ++ '^' :: '\n' :: after)

theorem Text.Marks.extend {report line before : Text} {width : Nat} {p : Position}
    (h : report.Marks width p line) (hb : before.EndsLine) (after : Text) :
    Text.Marks (before ++ report ++ after) width p line := by
  obtain ⟨front, behind, hw, hf, rfl⟩ := h
  refine ⟨before ++ front, behind ++ after, hw, hb.append hf, ?_⟩
  simp

theorem numberedLine_flatten (width : Nat) (line : Nat × Text) :
    (numberedLine Plain.markup width line).flatten = shownLine width line.1 line.2 ++ ['\n'] := by
  simp [numberedLine, Plain.markup, shownLine]

theorem caretLine_flatten (width col : Nat) :
    (caretLine Plain.markup width col).flatten =
      List.replicate (width + col + 1) ' ' ++ ['^', '\n'] := by
  simp [caretLine, Plain.markup]

theorem numberedLines_flatten (width : Nat) (lines : List (Nat × Text)) :
    (lines.flatMap (numberedLine Plain.markup width)).flatten =
      lines.flatMap fun line => shownLine width line.1 line.2 ++ ['\n'] := by
  induction lines with
  | nil => rfl
  | cons line lines ih =>
    rw [List.flatMap_cons, List.flatMap_cons, List.flatten_append, ih, numberedLine_flatten]

/-- The text of a source block, line by line. -/
theorem sourceBlock_flatten (extra : Nat) (lines : List (Nat × Text)) (p : Position) {width : Nat}
    {after : List (Nat × Text)} (ha : (lines.drop p.row).take extra = after)
    (hw : numberWidth p.row after = width) :
    (sourceBlock Plain.markup extra lines p).flatten =
      (((lines.drop (p.row - 1 - extra)).take (min extra (p.row - 1))).flatMap fun line =>
        shownLine width line.1 line.2 ++ ['\n']) ++
      shownLine width p.row ((lines[p.row - 1]?.map Prod.snd).getD []) ++
      '\n' :: (List.replicate (width + p.col + 1) ' ' ++
        '^' :: '\n' :: after.flatMap fun line => shownLine width line.1 line.2 ++ ['\n']) := by
  subst ha hw
  unfold sourceBlock surrounding
  simp only [List.flatten_append, numberedLine_flatten, numberedLines_flatten, caretLine_flatten,
    List.append_assoc, List.cons_append, List.nil_append]

theorem sourceBlock_marks (extra : Nat) (source : Text) (p : Position) :
    Text.Marks (sourceBlock Plain.markup extra source.numberedLines p).flatten
      (source.numberWidth extra p.row) p ((source.lines[p.row - 1]?).getD []) := by
  have htext := sourceBlock_flatten extra source.numberedLines p rfl rfl
  rw [numberedLines_text] at htext
  refine ⟨_, _, decimal_length_le_numberWidth, ?_, htext⟩
  exact endsLine_flatMap fun line _ => endsLine_concat _

theorem flatten_intercalate {α : Type} (separator : List (List α)) (parts : List (List (List α))) :
    (List.intercalate separator parts).flatten =
      List.intercalate separator.flatten (parts.map List.flatten) := by
  induction parts with
  | nil => rfl
  | cons part parts ih =>
    cases parts with
    | nil => simp
    | cons next parts =>
      rw [List.intercalate_cons_cons, List.flatten_append, List.flatten_append, ih]
      simp only [List.map_cons, List.intercalate_cons_cons]

/-- A part stands between parts that come before it, each with a separator, and something else. -/
theorem intercalate_append_cons {α : Type} (separator : List α) (before : List (List α))
    (part : List α) (behind : List (List α)) :
    ∃ after, List.intercalate separator (before ++ part :: behind) =
      before.flatMap (· ++ separator) ++ part ++ after := by
  induction before with
  | nil =>
    cases behind with
    | nil => exact ⟨[], by simp⟩
    | cons next behind =>
      refine ⟨separator ++ List.intercalate separator (next :: behind), ?_⟩
      rw [List.nil_append, List.intercalate_cons_cons, List.append_assoc]
      rfl
  | cons first before ih =>
    obtain ⟨after, he⟩ := ih
    refine ⟨after, ?_⟩
    rw [List.cons_append, List.intercalate_cons_of_ne_nil (by simp), he, List.flatMap_cons]
    simp only [List.append_assoc]

/-- The source block of a failure is a number of whole lines of the report, above an empty one. -/
theorem report_holds_block {ε : Type} {x : Extraction ε} {extra : Nat} {source report : Text}
    {failures : List Failure} (h : Plain.report x extra source failures = .ok report) {f : Failure}
    (hf : f ∈ failures) :
    ∃ before after, before.EndsLine ∧ report =
      before ++ (sourceBlock Plain.markup extra source.numberedLines f.position).flatten ++
        '\n' :: after := by
  obtain ⟨fragments, hr, rfl⟩ := Session.map_eq_ok h
  obtain ⟨_, rfl⟩ := render_eq_ok_iff.mp hr
  obtain ⟨front, behind, hps⟩ := List.append_of_mem (mem_positionsOf.mpr ⟨f, hf, rfl⟩)
  unfold filteredReport
  rw [hps, flatten_intercalate, List.map_append, List.map_append, List.map_cons, List.map_cons,
    List.flatten_append]
  obtain ⟨after, he⟩ := intercalate_append_cons ['\n'] _ _ _
  have hline : [Plain.markup.newline].flatten = ['\n'] := rfl
  rw [hline, he, ← List.append_assoc, List.append_assoc]
  exact ⟨_, _, endsLine_flatMap fun part _ => endsLine_concat _, rfl⟩

/-- The report of failures marks the position of each of them. -/
theorem report_marks {ε : Type} {x : Extraction ε} {extra : Nat} {source report : Text}
    {failures : List Failure} (h : Plain.report x extra source failures = .ok report) {f : Failure}
    (hf : f ∈ failures) :
    report.Marks (source.numberWidth extra f.position.row) f.position
      ((source.lines[f.position.row - 1]?).getD []) := by
  obtain ⟨before, after, hbefore, rfl⟩ := report_holds_block h hf
  exact (sourceBlock_marks extra source f.position).extend hbefore _

theorem shownLine_eq (width row : Nat) (line : Text) :
    shownLine width row line = alignRight width (decimal row) ++ '|' :: ' ' :: line := by
  rw [shownLine, List.append_assoc]
  rfl

/-- What stands in a shown line and is neither a blank, a bar nor a digit comes from the source. -/
theorem mem_of_mem_shownLine {width row : Nat} {line : Text} {c : Char}
    (h : c ∈ shownLine width row line)
    (hc : c ≠ ' ' ∧ c ≠ '|' ∧ c.isDigit = false) : c ∈ line := by
  obtain ⟨hblank, hbar, hdigit⟩ := hc
  rw [shownLine_eq, List.mem_append, List.mem_cons, List.mem_cons, alignRight,
    List.mem_append] at h
  rcases h with (h | h) | h | h | h
  · exact absurd (List.eq_of_mem_replicate h) hblank
  · exact absurd h (not_mem_decimal hdigit row)
  · exact absurd h hbar
  · exact absurd h hblank
  · exact h

theorem shownLine_length {width row : Nat} (h : (decimal row).length ≤ width) (line : Text) :
    (shownLine width row line).length = width + 2 + line.length := by
  rw [shownLine_eq, List.length_append, alignRight_length h]
  simp only [List.length_cons]
  omega

/-- The number of a line and what is behind it take two columns more than the number is wide. -/
theorem shownLine_getElem? {width row : Nat} (h : (decimal row).length ≤ width) {col : Nat}
    (hcol : 1 ≤ col) (content : Text) :
    (shownLine width row content)[width + col + 1]? = content[col - 1]? := by
  obtain ⟨n, rfl⟩ := Nat.exists_eq_add_of_le' hcol
  have hi : width + (n + 1) + 1 - width = n + 2 := by omega
  rw [shownLine_eq, List.getElem?_append_right (by rw [alignRight_length h]; omega),
    alignRight_length h, hi]
  rfl

section

open Session

variable {compile : GrammarCompiler} {w : Workspace} {r : Request} {settings : Settings}
  {v : Vocabulary} {t : Table} {source : FilePath} {text : Text} {outcome : Outcome}

end

/-- The text of the grammar of pairs. -/
def pairGrammar : Text := "pair: A B\nA: \"a\"\nB: \"b\"\n".toList

/-- A compiler that knows the grammar of pairs. -/
def pairCompiler : GrammarCompiler := fun grammar _ start =>
  if grammar = pairGrammar ∧ start = "pair".toList then
    .ok ⟨⟨[("A".toList, some ['a']), ("B".toList, some ['b'])], []⟩, .table pairTable⟩
  else .error "unknown grammar".toList

/-- A working directory with the grammar of pairs and a text with two bad places. -/
def pairWorkspace : Workspace where
  entries := [
    (.ofText "pair.lark".toList, .bytes (pairGrammar.map fun c => UInt8.ofNat c.toNat)),
    (.ofText "pair.txt".toList, .bytes [13, 10, 97, 97])]

/-- Parse the text for a report in plain text. -/
def pairRequest : Request where
  grammar := some "pair.lark".toList
  source := some "pair.txt".toList
  start := "pair".toList
  given := fun s => if s = .format then some (.text "plain".toList) else none

/-- The settings of that request. -/
def pairSettings : Settings where
  contextLines := 2
  format := .plain
  parser := .lalr
  maxErrors := 10
  logFile := "deadends.log".toList

end ParseReport
