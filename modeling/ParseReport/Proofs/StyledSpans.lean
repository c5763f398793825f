import ParseReport.Proofs.Fragments

/-!
Reports as styled text. The text is the plain one without the controls that styled text does not
hold, and the stretches in a style are the carets and the context lines, one after the other.
-/

namespace ParseReport.Styled

/-- The part of a text that a span is about. -/
def Span.within (s : Span) (t : Text) : Text :=
  (t.drop s.start).take (s.stop - s.start)

/-- Whether a piece makes a span. -/
def Piece.marked (piece : Piece) : Bool :=
  piece.style ≠ [] ∧ piece.text ≠ []

theorem Piece.length_pos_of_marked {piece : Piece} (h : piece.marked = true) :
    0 < piece.text.length :=
  List.length_pos_iff.mpr (of_decide_eq_true h).2

theorem spansFrom_of_marked {piece : Piece} (h : piece.marked = true) (start : Nat)
    (pieces : List Piece) :
    spansFrom start (piece :: pieces) =
      ⟨start, start + piece.text.length, piece.style⟩ ::
        spansFrom (start + piece.text.length) pieces := by
  have hm : piece.style ≠ [] ∧ piece.text ≠ [] := of_decide_eq_true h
  rw [spansFrom, if_neg (by simpa using hm)]

theorem spansFrom_of_not_marked {piece : Piece} (h : ¬piece.marked = true) (start : Nat)
    (pieces : List Piece) :
    spansFrom start (piece :: pieces) = spansFrom (start + piece.text.length) pieces := by
  have hm : piece.style = [] ∨ piece.text = [] := by
    by_contra hn
    exact h (decide_eq_true (not_or.mp hn))
  rw [spansFrom, if_pos hm]

theorem plain_cons (piece : Piece) (pieces : List Piece) :
    plain (piece :: pieces) = piece.text ++ plain pieces :=
  List.flatMap_cons

theorem spansFrom_bounds {start : Nat} {pieces : List Piece} {s : Span}
    (h : s ∈ spansFrom start pieces) :
    start ≤ s.start ∧ s.start < s.stop ∧ s.stop ≤ start + (plain pieces).length := by
  induction pieces generalizing start with
  | nil => cases h
  | cons piece pieces ih =>
    rw [plain_cons, List.length_append]
    by_cases hm : piece.marked = true
    · rw [spansFrom_of_marked hm] at h
      rcases List.mem_cons.mp h with rfl | h
      · have hpos := Piece.length_pos_of_marked hm
        dsimp only
        omega
      · have hb := ih h
        omega
    · rw [spansFrom_of_not_marked hm] at h
      have hb := ih h
      omega

theorem spansFrom_pairwise (start : Nat) (pieces : List Piece) :
    (spansFrom start pieces).Pairwise fun a b => a.stop ≤ b.start ∧ a.start < b.start := by
  induction pieces generalizing start with
  | nil => exact .nil
  | cons piece pieces ih =>
    by_cases hm : piece.marked = true
    · rw [spansFrom_of_marked hm]
      refine List.pairwise_cons.mpr ⟨?_, ih _⟩
      intro s hs
      have hpos := Piece.length_pos_of_marked hm
      have hb := spansFrom_bounds hs
      dsimp only
      omega
    · rw [spansFrom_of_not_marked hm]
      exact ih _

/-- Spans are about the texts of their pieces. -/
theorem spansFrom_within (before : Text) (pieces : List Piece) :
    (spansFrom before.length pieces).map (fun s => (s.style, s.within (before ++ plain pieces))) =
      (pieces.filter Piece.marked).map fun piece => (piece.style, piece.text) := by
  -- `before` holds the texts of all earlier pieces, so offsets are those in the whole text
  induction pieces generalizing before with
  | nil => rfl
  | cons piece pieces ih =>
    have hrest := ih (before ++ piece.text)
    rw [List.length_append, List.append_assoc, ← plain_cons] at hrest
    by_cases hm : piece.marked = true
    · have hhere : (before ++ plain (piece :: pieces)).drop before.length =
          piece.text ++ plain pieces := by
        rw [List.drop_left, plain_cons]
      rw [spansFrom_of_marked hm, List.map_cons, hrest, List.filter_cons_of_pos hm, List.map_cons]
      simp [Span.within, hhere]
    · rw [spansFrom_of_not_marked hm, hrest, List.filter_cons_of_neg hm]

section

variable (styles : Styles)

theorem clean_append (t u : Text) : clean (t ++ u) = clean t ++ clean u :=
  List.filter_append ..

theorem text_write (f : Fragment) :
    (f.write (markup styles)).text = clean (f.write Plain.markup) := by
  induction f with
  | text t => rfl
  | caret inner ih => exact ih
  | context inner ih => exact ih
  | newline => rfl

theorem plain_writes (fragments : List Fragment) :
    plain (fragments.map (Fragment.write (markup styles))) =
      clean (fragments.map (Fragment.write Plain.markup)).flatten := by
  induction fragments with
  | nil => rfl
  | cons f fragments ih =>
    rw [List.map_cons, plain_cons, ih, text_write, ← clean_append]
    rfl

end

theorem open_mem_describeContexts {contexts : List Frame} (h : contexts ≠ []) :
    '(' ∈ describeContexts contexts := by
  cases contexts with
  | nil => exact absurd rfl h
  | cons frame contexts =>
    have hframe : frame.describe ∈ (frame :: contexts).reverse.map Frame.describe :=
      List.mem_map_of_mem (by simp)
    refine (infix_intercalate hframe).subset ?_
    simp [Frame.describe, Position.inParens]

/-- What is decorated in a report is never empty, not even without its controls. -/
theorem decorations_text_ne_nil {ε : Type} {x : Extraction ε} {failures : List Failure}
    {f : Fragment} (h : f ∈ decorations x failures) : clean (f.write Plain.markup) ≠ [] := by
  obtain ⟨p, _, hf⟩ := List.mem_flatMap.mp h
  rcases List.mem_cons.mp hf with rfl | hf
  · exact List.cons_ne_nil _ _
  · obtain ⟨contexts, hs, rfl⟩ := List.mem_map.mp hf
    have hne : contexts ≠ [] := of_decide_eq_true (List.mem_filter.mp hs).2
    have hopen : '(' ∈ clean (describeContexts contexts) :=
      List.mem_filter.mpr ⟨open_mem_describeContexts hne, rfl⟩
    exact List.ne_nil_of_mem hopen

section

variable {styles : Styles} (hcaret : styles.caret ≠ []) (hcontext : styles.context ≠ [])

include hcaret hcontext

theorem marked_write {f : Fragment}
    (h : f.decorated = true → clean (f.write Plain.markup) ≠ []) :
    (f.write (markup styles)).marked = f.decorated := by
  cases f with
  | text t => rfl
  | caret inner =>
    exact decide_eq_true ⟨hcaret, text_write styles inner.caret ▸ h rfl⟩
  | context inner =>
    exact decide_eq_true ⟨hcontext, text_write styles inner.context ▸ h rfl⟩
  | newline => rfl

theorem filter_marked {fragments : List Fragment}
    (h : ∀ f ∈ fragments.filter Fragment.decorated, clean (f.write Plain.markup) ≠ []) :
    (fragments.map (Fragment.write (markup styles))).filter Piece.marked =
      (fragments.filter Fragment.decorated).map (Fragment.write (markup styles)) := by
  rw [List.filter_map]
  congr 1
  apply List.filter_congr
  intro f hf
  exact marked_write hcaret hcontext fun hd => h f (List.mem_filter.mpr ⟨hf, hd⟩)

end

/-- The styled texts of a report: a caret for each position, and below it the line of contexts for
each context stack there that has frames. -/
def styledTexts {ε : Type} (styles : Styles) (x : Extraction ε) (failures : List Failure) :
    List (Text × Text) :=
  (positionsOf failures).flatMap fun p =>
    (styles.caret, ['^']) :: ((stacksAt x failures p).filter (· ≠ [])).map fun contexts =>
      (styles.context, clean (describeContexts contexts))

theorem decorations_written {ε : Type} (styles : Styles) (x : Extraction ε)
    (failures : List Failure) :
    ((decorations x failures).map (Fragment.write (markup styles))).map
        (fun piece => (piece.style, piece.text)) = styledTexts styles x failures := by
  unfold decorations styledTexts
  rw [List.map_map, List.map_flatMap]
  apply List.flatMap_congr
  intro p _
  rw [List.map_cons, List.map_map]
  rfl

/-- The text of a styled report is that of the report in plain text without five controls, whatever
the styles are. If both styles have names, the spans are about the carets and the lines of contexts,
in the order of the report; each of them lies inside the text and is not empty, and they begin and
end one after the other. -/
theorem report_spans_decorations {ε : Type} (styles : Styles) (x : Extraction ε) (extra : Nat)
    (source : Text) (failures : List Failure) :
    (report styles x extra source failures).map plain =
      (Plain.report x extra source failures).map clean ∧
    (styles.caret ≠ [] → styles.context ≠ [] →
      ∀ pieces, report styles x extra source failures = .ok pieces →
        (spans pieces).map (fun s => (s.style, s.within (plain pieces))) =
          styledTexts styles x failures ∧
        (∀ s ∈ spans pieces, s.start < s.stop ∧ s.stop ≤ (plain pieces).length) ∧
        (spans pieces).Pairwise fun a b => a.stop ≤ b.start ∧ a.start < b.start) := by
  unfold Plain.report report
  rw [render_write Plain.markup, render_write (markup styles)]
  cases hr : render Fragment.markup x extra source failures with
  | error fault => exact ⟨rfl, fun _ _ _ h => by cases h⟩
  | ok fragments =>
    refine ⟨congrArg Except.ok (plain_writes styles fragments), ?_⟩
    intro hcaret hcontext pieces h
    cases Except.ok.inj h
    obtain ⟨_, rfl⟩ := render_eq_ok_iff.mp hr
    have hdecorated := filter_filteredReport x failures extra source
    refine ⟨?_, fun s hs => ?_, spansFrom_pairwise 0 _⟩
    · have hwithin := spansFrom_within [] ((filteredReport x failures Fragment.markup extra
        source).map (Fragment.write (markup styles)))
      rw [filter_marked hcaret hcontext
        (fun f hf => decorations_text_ne_nil (hdecorated ▸ hf)), hdecorated,
        decorations_written] at hwithin
      exact hwithin
    · obtain ⟨_, hlt, hle⟩ := spansFrom_bounds hs
      exact ⟨hlt, by omega⟩

/-- A failure behind a control, inside a context with a control in its label. -/
def controlFailures : List Failure :=
  [⟨.endOf ['\x07'], .unexpectedChar, [⟨.endOf [], "l\x08ist".toList⟩]⟩]

/-- The spans are about the caret and the label without its control. -/
theorem report_spans_decorations_control :
    ∃ pieces, report {} Extraction.standard 0 "\x07ab".toList controlFailures = .ok pieces ∧
      (Plain.report Extraction.standard 0 "\x07ab".toList controlFailures).map clean =
        .ok (plain pieces) ∧
      (spans pieces).map (fun s => (s.style, s.within (plain pieces))) =
        [("bold red".toList, ['^']), ("bold cyan".toList, "list (1:1)".toList)] ∧
      ∀ s ∈ spans pieces, s.start < s.stop ∧ s.stop ≤ (plain pieces).length := by
  obtain ⟨pieces, h⟩ :
      ∃ pieces, report {} Extraction.standard 0 "\x07ab".toList controlFailures = .ok pieces :=
    ⟨_, rfl⟩
  obtain ⟨hplain, hspans⟩ :=
    report_spans_decorations {} Extraction.standard 0 "\x07ab".toList controlFailures
  obtain ⟨htexts, hinside, _⟩ := hspans (by decide) (by decide) pieces h
  rw [h] at hplain
  exact ⟨pieces, h, hplain.symm, htexts.trans (by decide), hinside⟩

end ParseReport.Styled
