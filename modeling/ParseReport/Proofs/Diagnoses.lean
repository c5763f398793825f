import ParseReport.Proofs.FilteredReport
import ParseReport.Report.Html
import ParseReport.Report.Markdown
import ParseReport.Report.Terminal

/-!
Every error can be reported. Whatever an error lacks or lists, it stands for at least one failure,
at a position, and every format has a report of these failures that shows something.
-/

namespace ParseReport

/-- An error is at a position: it is not about the end, and that is the position at its line and
column. -/
structure ParseError.PlacedAt (e : ParseError) (p : Position) : Prop where
  not_end : e.isEnd = false
  line_eq : e.line = some (p.row : Int)
  column_eq : e.column = some (p.col : Int)

/-- Another error tells the same but for the order in which it lists the names and how often. -/
structure ParseError.Relists (e other : ParseError) : Prop where
  line_eq : other.line = e.line
  column_eq : other.column = e.column
  isCharacters_eq : other.isCharacters = e.isCharacters
  isEnd_eq : other.isEnd = e.isEnd
  mem_names_iff : ∀ name, name ∈ other.names ↔ name ∈ e.names

/-- Where an error in a text is, and the names of what is missing there, in ascending order. -/
structure ParseError.Means (e : ParseError) (source : Text) (v : Vocabulary) (p : Position)
    (names : List Name) : Prop where
  placed : ∀ q, e.PlacedAt q → p = q
  unplaced : (∀ q, ¬e.PlacedAt q) → p = .endOf source
  ascending : names.Pairwise (· < ·)
  mem_iff : ∀ name, name ∈ names ↔ name ∈ e.names ∧ name ∉ v.ignored

/-- Every format has a report of failures, with any number of source lines around them, and none of
these reports is empty. -/
structure Reportable (failures : List Failure) : Prop where
  fragments : ∀ (Out : Type) (m : Markup Out) (extra : Nat) (source : Text),
    ∃ fragments, render m .standard extra source failures = .ok fragments ∧ fragments ≠ []
  plain : ∀ (extra : Nat) (source : Text),
    ∃ report, Plain.report .standard extra source failures = .ok report ∧ report ≠ []
  html : ∀ (extra : Nat) (source : Text),
    ∃ report, Html.report .standard extra source failures = .ok report ∧ report ≠ []
  markdown : ∀ (extra : Nat) (source : Text),
    ∃ report, Markdown.report .standard extra source failures = .ok report ∧ report ≠ []
  styled : ∀ (styles : Styled.Styles) (extra : Nat) (source : Text),
    ∃ pieces, Styled.report styles .standard extra source failures = .ok pieces ∧
      Styled.plain pieces ≠ [] ∧ ∀ color, Terminal.print color pieces ≠ []

section

variable {e other : ParseError} {p : Position} {v : Vocabulary}

theorem ParseError.PlacedAt.position_eq (h : e.PlacedAt p) (source : Text) :
    e.position source = p := by
  have hp : Position.of? p.row p.col = some p := Position.of?_eq_some_iff.mpr ⟨rfl, rfl⟩
  unfold ParseError.position
  rw [h.not_end, h.line_eq, h.column_eq]
  exact congrArg (Option.getD · (.endOf source)) hp

theorem ParseError.position_eq_endOf (h : ∀ p, ¬e.PlacedAt p) (source : Text) :
    e.position source = .endOf source := by
  unfold ParseError.position
  split
  next => rfl
  next hend =>
    split
    next line column hline hcolumn =>
      cases hp : Position.of? line column with
      | none => rfl
      | some p =>
        obtain ⟨hrow, hcol⟩ := Position.of?_eq_some_iff.mp hp
        exact absurd ⟨Bool.eq_false_iff.mpr hend, hrow ▸ hline, hcol ▸ hcolumn⟩ (h p)
    next => rfl

theorem ParseError.means (e : ParseError) (source : Text) (v : Vocabulary) :
    e.Means source v (e.position source) (e.terminals v) where
  placed _ h := h.position_eq source
  unplaced h := position_eq_endOf h source
  ascending := distinctSorted_pairwise _
  mem_iff _ := mem_terminals_iff

theorem problems_eq_append (e : ParseError) (v : Vocabulary) :
    e.problems v = (if e.isCharacters = true ∨ e.terminals v = [] then [.unexpectedChar] else []) ++
      (e.terminals v).map v.problemFor := by
  unfold ParseError.problems
  simp only [Bool.or_eq_true, List.isEmpty_iff, List.map_eq_nil_iff]
  split <;> rfl

theorem ParseError.Relists.position_eq (h : e.Relists other) (source : Text) :
    other.position source = e.position source := by
  rw [position, position, h.isEnd_eq, h.line_eq, h.column_eq]

theorem ParseError.Relists.terminals_eq (h : e.Relists other) (v : Vocabulary) :
    other.terminals v = e.terminals v := by
  have hnames : (other.names.filter fun name => !v.ignored.contains name).toFinset =
      (e.names.filter fun name => !v.ignored.contains name).toFinset := by
    ext name
    rw [List.mem_toFinset, List.mem_toFinset, List.mem_filter, List.mem_filter, h.mem_names_iff]
  rw [terminals, terminals, distinctSorted_eq_sort, distinctSorted_eq_sort, hnames]

theorem ParseError.Relists.failures_eq (h : e.Relists other) (source : Text) (v : Vocabulary) :
    other.failures source v = e.failures source v := by
  rw [failures, failures, problems_eq_append, problems_eq_append, h.isCharacters_eq,
    h.terminals_eq, h.position_eq]

end

theorem feed_mem_printFrom {styles : Styled.Styles} {pieces : List Styled.Piece}
    (h : (Styled.markup styles).newline ∈ pieces) (color : Bool) (column : Nat) :
    '\n' ∈ Terminal.printFrom color column pieces := by
  induction pieces generalizing column with
  | nil => cases h
  | cons piece pieces ih =>
    rw [Terminal.printFrom, List.mem_append]
    rcases List.mem_cons.mp h with rfl | h
    · left
      cases color <;> exact List.mem_cons_self
    · exact .inr (ih h _)

section

variable {failures : List Failure} (hne : failures ≠ [])

include hne

theorem flatten_filteredReport_ne_nil {ε : Type} (x : Extraction ε) {m : Markup Text}
    (hm : m.newline ≠ []) (extra : Nat) (source : Text) :
    (filteredReport x failures m extra source).flatten ≠ [] := by
  intro h
  exact hm (List.flatten_eq_nil_iff.mp h _ (newline_mem_filteredReport hne extra source))

theorem reportable (h : ∀ f ∈ failures, ∃ c, f.problem.classify = .ok c) :
    Reportable failures := by
  have hrender : ∀ {Out : Type} (m : Markup Out) (extra : Nat) (source : Text),
      render m .standard extra source failures =
        .ok (filteredReport .standard failures m extra source) := fun m extra source =>
    render_eq_ok_filteredReport h extra source
  have hfilled : ∀ {Out : Type} (m : Markup Out) (extra : Nat) (source : Text),
      filteredReport .standard failures m extra source ≠ [] := fun m extra source =>
    mt (filteredReport_eq_nil_iff extra source).mp hne
  constructor
  case fragments =>
    intro Out m extra source
    exact ⟨_, hrender m extra source, hfilled m extra source⟩
  case plain =>
    intro extra source
    exact ⟨_, congrArg (Except.map List.flatten) (hrender Plain.markup extra source),
      flatten_filteredReport_ne_nil hne _ (List.cons_ne_nil _ _) extra source⟩
  case html =>
    intro extra source
    refine ⟨_, congrArg (Except.map Html.wrap) (hrender Html.markup extra source), ?_⟩
    cases hr : filteredReport .standard failures Html.markup extra source with
    | nil => exact absurd hr (hfilled Html.markup extra source)
    | cons fragment fragments => simp [Html.wrap]
  case markdown =>
    intro extra source
    exact ⟨_, congrArg (Except.map List.flatten) (hrender Markdown.markup extra source),
      flatten_filteredReport_ne_nil hne _ (List.cons_ne_nil _ _) extra source⟩
  case styled =>
    intro styles extra source
    have hline : (Styled.markup styles).newline ∈
        filteredReport .standard failures (Styled.markup styles) extra source :=
      newline_mem_filteredReport hne extra source
    refine ⟨_, hrender (Styled.markup styles) extra source, ?_, fun color => ?_⟩
    · exact List.ne_nil_of_mem (List.mem_flatMap.mpr ⟨_, hline, List.mem_cons_self⟩)
    · exact List.ne_nil_of_mem (feed_mem_printFrom hline color 0)

end

/-- An error of any kind, in any text and with any grammar, stands for failures, and there is always
one. All are at the position of the error, which is the end of the text if the error has none of its
own or is about the end, and they have no contexts. Their problems are one for each name that the
error lists and the grammar does not ignore, in ascending order, behind an unexpected character if
the error is about characters or no name is left; in which order and how often the error lists the
names does not matter. Every problem has a phrase, so every format has a report of them that is not
empty. -/
theorem failures_tell_error (e : ParseError) (source : Text) (v : Vocabulary) :
    (∃ p names, e.Means source v p names ∧
      e.failures source v =
        ((if e.isCharacters = true ∨ names = [] then [Problem.unexpectedChar] else []) ++
          names.map v.problemFor).map fun problem => ⟨p, problem, []⟩) ∧
    e.failures source v ≠ [] ∧
    (∀ f ∈ e.failures source v, 1 ≤ f.position.row ∧ 1 ≤ f.position.col ∧
      Failure.ofInts f.position.row f.position.col f.problem [] = .ok f) ∧
    (∀ other, e.Relists other → other.failures source v = e.failures source v) ∧
    (∀ f ∈ e.failures source v, ∃ c, f.problem.classify = .ok c) ∧
    Reportable (e.failures source v) := by
  refine ⟨⟨_, _, e.means source v, ?_⟩, failures_ne_nil e source v, ?_,
    fun other h => h.failures_eq source v, fun f hf => failures_phrased hf,
    reportable (failures_ne_nil e source v) fun f hf => failures_phrased hf⟩
  · rw [← problems_eq_append]
    rfl
  · intro f hf
    obtain ⟨_, hcontexts⟩ := failures_mem hf
    exact ⟨f.position.row_pos, f.position.col_pos,
      Failure.ofInts_eq_ok_iff.mpr ⟨rfl, rfl, rfl, hcontexts⟩⟩

/-- An error about characters without a line, which lists one name twice and one that is skipped. -/
def unplacedError : ParseError where
  obstacle := .characters ["SEMICOLON".toList, "WS".toList, "INT".toList, "SEMICOLON".toList]
  column := some 3

/-- The same error with its names in another order, and each once. -/
def relistedError : ParseError where
  obstacle := .characters ["INT".toList, "WS".toList, "SEMICOLON".toList]
  column := some 3

/-- A grammar of a symbol, with a terminal that is skipped. -/
def symbolVocabulary : Vocabulary where
  literals := [("SEMICOLON".toList, some ";".toList)]
  ignored := ["WS".toList]

/-- Both errors stand for the same three failures at the end of the text, and there is a report. -/
theorem failures_tell_error_unplaced :
    (∀ p, ¬unplacedError.PlacedAt p) ∧ unplacedError.Relists relistedError ∧
      relistedError.failures ['x'] symbolVocabulary =
        unplacedError.failures ['x'] symbolVocabulary ∧
      (unplacedError.failures ['x'] symbolVocabulary).map (fun f => (f.position, f.problem)) =
        [(.endOf ['x'], .unexpectedChar), (.endOf ['x'], .expectingInt),
          (.endOf ['x'], .expectingSymbol [';'])] ∧
      ∃ report, Plain.report .standard 2 ['x'] (unplacedError.failures ['x'] symbolVocabulary) =
        .ok report ∧ report ≠ [] := by
  obtain ⟨_, _, _, hrelists, _, hreport⟩ := failures_tell_error unplacedError ['x'] symbolVocabulary
  have hmore : ∀ name ∈ relistedError.names, name ∈ unplacedError.names := by decide
  have hless : ∀ name ∈ unplacedError.names, name ∈ relistedError.names := by decide
  have hother : unplacedError.Relists relistedError :=
    ⟨rfl, rfl, rfl, rfl, fun name => ⟨hmore name, hless name⟩⟩
  refine ⟨?_, hother, hrelists _ hother, rfl, hreport.plain 2 ['x']⟩
  rintro p ⟨_, hline, _⟩
  cases hline

end ParseReport
