import ParseReport.Proofs.FilteredReport
import ParseReport.Report.Html
import ParseReport.Report.Markdown
import ParseReport.Report.Styled

/-!
Reports in no output format yet. Every format writes the same fragments, each in its own way, and
fails with the same fault. Among the fragments, the decorated ones are a caret for each position and
a context line for each context stack with frames.
-/

namespace ParseReport

/-- A fragment of a report, told by what makes it and by what it is made of. -/
inductive Fragment
  | text (t : Text)
  | caret (inner : Fragment)
  | context (inner : Fragment)
  | newline
deriving DecidableEq, Repr

namespace Fragment

/-- Fragments as an output format of their own. -/
def markup : Markup Fragment where
  text := .text
  caret := .caret
  context := .context
  newline := .newline

/-- A fragment in an output format. -/
def write {Out : Type} (m : Markup Out) : Fragment → Out
  | .text t => m.text t
  | .caret inner => m.caret (inner.write m)
  | .context inner => m.context (inner.write m)
  | .newline => m.newline

/-- Whether a fragment is set off from the text around it. -/
def decorated : Fragment → Bool
  | .caret _ | .context _ => true
  | .text _ | .newline => false

end Fragment

section

variable {ε Out : Type} (m : Markup Out) (x : Extraction ε)

theorem numberedLine_write (width : Nat) (line : Nat × Text) :
    (numberedLine Fragment.markup width line).map (Fragment.write m) = numberedLine m width line :=
  rfl

theorem sourceBlock_write (extra : Nat) (lines : List (Nat × Text)) (p : Position) :
    (sourceBlock Fragment.markup extra lines p).map (Fragment.write m) =
      sourceBlock m extra lines p := by
  unfold sourceBlock
  simp only [List.map_append, List.map_flatMap, numberedLine_write]
  rfl

theorem contextHeader_write (contexts : List Frame) :
    (contextHeader Fragment.markup contexts).map (Fragment.write m) = contextHeader m contexts := by
  cases contexts <;> rfl

theorem contextPart_write (group : List Frame × List Failure) :
    contextPart m x group =
      (contextPart Fragment.markup x group).map (List.map (Fragment.write m)) := by
  unfold contextPart
  cases group.2.mapM fun failure => x.classify failure.problem with
  | error fault => rfl
  | ok problems =>
    have hlines : ((describe problems).flatMap (descriptionLine Fragment.markup)).map
        (Fragment.write m) = (describe problems).flatMap (descriptionLine m) :=
      List.map_flatMap
    show Except.ok _ = Except.ok _
    rw [List.map_append, contextHeader_write, hlines]

theorem positionPart_write (extra : Nat) (lines : List (Nat × Text))
    (group : Position × List Failure) :
    positionPart m x extra lines group =
      (positionPart Fragment.markup x extra lines group).map (List.map (Fragment.write m)) := by
  unfold positionPart
  rw [mapM_eq_map (contextPart_write m x)]
  cases (groupBy x.contexts group.2).mapM (contextPart Fragment.markup x) with
  | error fault => rfl
  | ok parts =>
    show Except.ok _ = Except.ok _
    rw [List.map_append, sourceBlock_write, List.map_cons, List.map_flatten]
    rfl

theorem map_intercalate {α β : Type} (f : α → β) (separator : List α) (parts : List (List α)) :
    (List.intercalate separator parts).map f =
      List.intercalate (separator.map f) (parts.map (List.map f)) := by
  induction parts with
  | nil => rfl
  | cons part parts ih =>
    cases parts with
    | nil => simp
    | cons next parts =>
      rw [List.intercalate_cons_cons, List.map_append, List.map_append, ih]
      simp only [List.map_cons, List.intercalate_cons_cons]

/-- A report in a format is made of the fragments in no format. -/
theorem render_write (extra : Nat) (source : Text) (failures : List Failure) :
    render m x extra source failures =
      (render Fragment.markup x extra source failures).map (List.map (Fragment.write m)) := by
  unfold render
  rw [mapM_eq_map (positionPart_write m x extra source.numberedLines)]
  cases (groupBy Failure.position failures).mapM
      (positionPart Fragment.markup x extra source.numberedLines) with
  | error fault => rfl
  | ok parts =>
    show Except.ok _ = Except.ok _
    rw [map_intercalate]
    rfl

theorem render_error_iff {extra : Nat} {source : Text} {failures : List Failure} {fault : ε} :
    render m x extra source failures = .error fault ↔
      render Fragment.markup x extra source failures = .error fault := by
  rw [render_write m]
  cases render Fragment.markup x extra source failures <;> simp [Except.map]

end

section

variable {ε : Type} (x : Extraction ε) (failures : List Failure)

/-- What a report sets off: a caret for each position, and below it a context line for each context
stack there that has frames. -/
def decorations : List Fragment :=
  (positionsOf failures).flatMap fun p =>
    .caret (.text ['^']) :: ((stacksAt x failures p).filter (· ≠ [])).map fun contexts =>
      .context (.text (describeContexts contexts))

theorem filter_intercalate {α : Type} {keep : α → Bool} {separator : List α}
    (h : separator.filter keep = []) (parts : List (List α)) :
    (List.intercalate separator parts).filter keep = parts.flatMap (List.filter keep) := by
  induction parts with
  | nil => rfl
  | cons part parts ih =>
    cases parts with
    | nil => simp
    | cons next parts =>
      rw [List.intercalate_cons_cons, List.filter_append, List.filter_append, h, ih]
      simp only [List.append_nil, List.flatMap_cons]

theorem filter_sourceBlock (extra : Nat) (lines : List (Nat × Text)) (p : Position) :
    (sourceBlock Fragment.markup extra lines p).filter Fragment.decorated =
      [.caret (.text ['^'])] := by
  have hlines : ∀ (width : Nat) (shown : List (Nat × Text)),
      (shown.flatMap (numberedLine Fragment.markup width)).filter Fragment.decorated = [] := by
    intro width shown
    rw [List.filter_flatMap]
    exact List.flatMap_eq_nil_iff.mpr fun _ _ => rfl
  unfold sourceBlock
  simp only [List.filter_append, hlines]
  rfl

theorem filter_stackPart (p : Position) (contexts : List Frame) :
    (stackPart x failures Fragment.markup p contexts).filter Fragment.decorated =
      if contexts = [] then [] else [.context (.text (describeContexts contexts))] := by
  have hlines : ((linesAt x failures p contexts).flatMap fun line =>
      [Fragment.markup.text (' ' :: ' ' :: line), Fragment.markup.newline]).filter
        Fragment.decorated = [] := by
    rw [List.filter_flatMap]
    exact List.flatMap_eq_nil_iff.mpr fun _ _ => rfl
  unfold stackPart
  rw [List.filter_append, hlines, List.append_nil]
  split <;> rfl

theorem filter_stackParts (p : Position) (groups : List (List Frame)) :
    (groups.flatMap (stackPart x failures Fragment.markup p)).filter Fragment.decorated =
      (groups.filter (· ≠ [])).map fun contexts => .context (.text (describeContexts contexts)) := by
  rw [List.filter_flatMap]
  induction groups with
  | nil => rfl
  | cons contexts groups ih =>
    rw [List.flatMap_cons, filter_stackPart, ih]
    by_cases h : contexts = []
    · simp [h]
    · simp [h]

/-- What is set off in the part of a report for a position. -/
theorem filter_partAt (extra : Nat) (lines : List (Nat × Text)) (p : Position) :
    (sourceBlock Fragment.markup extra lines p ++
      .newline :: (stacksAt x failures p).flatMap (stackPart x failures Fragment.markup p)).filter
        Fragment.decorated =
      .caret (.text ['^']) :: ((stacksAt x failures p).filter (· ≠ [])).map fun contexts =>
        .context (.text (describeContexts contexts)) := by
  rw [List.filter_append, filter_sourceBlock, List.filter_cons_of_neg (by decide),
    filter_stackParts]
  rfl

theorem filter_filteredReport (extra : Nat) (source : Text) :
    (filteredReport x failures Fragment.markup extra source).filter Fragment.decorated =
      decorations x failures := by
  unfold filteredReport decorations
  rw [filter_intercalate rfl, List.flatMap_map]
  apply List.flatMap_congr
  intro p _
  exact filter_partAt x failures extra source.numberedLines p

end

/-- A report in any format is the list of fragments in no format, each written in that format: plain
text, HTML, Markdown and styled text are made of one list of fragments, or of none, for they fail
together and with the same fault. -/
theorem render_eq_written {ε : Type} (x : Extraction ε) (extra : Nat) (source : Text)
    (failures : List Failure) :
    (∀ (Out : Type) (m : Markup Out), render m x extra source failures =
      (render Fragment.markup x extra source failures).map (List.map (Fragment.write m))) ∧
    (∀ (Out Out' : Type) (m : Markup Out) (m' : Markup Out') (fault : ε),
      render m x extra source failures = .error fault ↔
        render m' x extra source failures = .error fault) ∧
    ((∃ fragments : List Fragment,
        Plain.report x extra source failures =
          .ok (fragments.map (Fragment.write Plain.markup)).flatten ∧
        Html.report x extra source failures =
          .ok (Html.wrap (fragments.map (Fragment.write Html.markup))) ∧
        Markdown.report x extra source failures =
          .ok (fragments.map (Fragment.write Markdown.markup)).flatten ∧
        ∀ styles, Styled.report styles x extra source failures =
          .ok (fragments.map (Fragment.write (Styled.markup styles)))) ∨
      ∃ fault : ε,
        Plain.report x extra source failures = .error fault ∧
        Html.report x extra source failures = .error fault ∧
        Markdown.report x extra source failures = .error fault ∧
        ∀ styles, Styled.report styles x extra source failures = .error fault) := by
  refine ⟨fun Out m => render_write m x extra source failures,
    fun Out Out' m m' fault => (render_error_iff m x).trans (render_error_iff m' x).symm, ?_⟩
  unfold Plain.report Html.report Markdown.report Styled.report
  simp only [render_write Plain.markup, render_write Html.markup, render_write Markdown.markup,
    render_write (Styled.markup _)]
  cases render Fragment.markup x extra source failures with
  | ok fragments => exact .inl ⟨fragments, rfl, rfl, rfl, fun _ => rfl⟩
  | error fault => exact .inr ⟨fault, rfl, rfl, rfl, fun _ => rfl⟩

end ParseReport
