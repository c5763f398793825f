import ParseReport.Proofs.Descriptions
import ParseReport.Proofs.Grouping
import ParseReport.Proofs.Phrases
import ParseReport.Report.Plain

/-!
Reports without groups: what stands in a report is said by picking from the list of failures those
of a position, and those of a position and a context stack. If every problem has a phrase, a report
is put together in this way.
-/

namespace ParseReport

section

variable {ε : Type} (x : Extraction ε) (failures : List Failure)

/-- The positions of failures, in the order in which they first occur. -/
def positionsOf : List Position :=
  (failures.map Failure.position).eraseDups

/-- The context stacks of the failures at a position, in the order in which they first occur. -/
def stacksAt (p : Position) : List (List Frame) :=
  ((failures.filter fun f => f.position = p).map x.contexts).eraseDups

/-- The failures with a position and a context stack. -/
def failuresAt (p : Position) (contexts : List Frame) : List Failure :=
  failures.filter fun f => f.position = p ∧ x.contexts f = contexts

/-- The texts of one kind in the phrases of those failures. -/
def textsAt (kind : Classification → Option Text) (p : Position) (contexts : List Frame) :
    Finset Text :=
  ((failuresAt x failures p contexts).filterMap fun f =>
    (x.classify f.problem).toOption.bind kind).toFinset

/-- The lines that describe those failures. -/
def linesAt (p : Position) (contexts : List Frame) : List Text :=
  describedBy (textsAt x failures Classification.expected? p contexts)
    (textsAt x failures Classification.other? p contexts)

variable {Out : Type} (m : Markup Out)

/-- The part of a report for a position and a context stack: a line that names the contexts if there
are any, and the lines that describe the failures. -/
def stackPart (p : Position) (contexts : List Frame) : List Out :=
  (if contexts = [] then []
    else [m.text "- ".toList, m.context (m.text (describeContexts contexts)), m.text ":".toList,
      m.newline]) ++
    (linesAt x failures p contexts).flatMap fun line => [m.text (' ' :: ' ' :: line), m.newline]

/-- The report of failures, with a part for each position and, below its source block, one for each
context stack there. -/
def filteredReport (extra : Nat) (source : Text) : List Out :=
  List.intercalate [m.newline] ((positionsOf failures).map fun p =>
    sourceBlock m extra source.numberedLines p ++
      m.newline :: (stacksAt x failures p).flatMap (stackPart x failures m p))

end

section

variable {ε Out : Type} {x : Extraction ε} {m : Markup Out} {failures : List Failure}
  {p : Position} {contexts : List Frame}

theorem mem_positionsOf : p ∈ positionsOf failures ↔ ∃ f ∈ failures, f.position = p := by
  rw [positionsOf, List.mem_eraseDups, List.mem_map]

theorem mem_stacksAt :
    contexts ∈ stacksAt x failures p ↔
      ∃ f ∈ failures, f.position = p ∧ x.contexts f = contexts := by
  rw [stacksAt, List.mem_eraseDups, List.mem_map]
  simp [and_assoc]

theorem mem_failuresAt {f : Failure} :
    f ∈ failuresAt x failures p contexts ↔
      f ∈ failures ∧ f.position = p ∧ x.contexts f = contexts := by
  simp [failuresAt]

theorem filter_filter_eq_failuresAt :
    (failures.filter fun f => f.position = p).filter (fun f => x.contexts f = contexts) =
      failuresAt x failures p contexts := by
  rw [failuresAt, List.filter_filter]
  apply List.filter_congr
  intro f _
  simp [Bool.and_comm]

theorem mem_textsAt {kind : Classification → Option Text} {t : Text} :
    t ∈ textsAt x failures kind p contexts ↔
      ∃ f ∈ failures, f.position = p ∧ x.contexts f = contexts ∧
        ∃ c, x.classify f.problem = .ok c ∧ kind c = some t := by
  rw [textsAt, List.mem_toFinset, List.mem_filterMap]
  constructor
  · rintro ⟨f, hf, ht⟩
    obtain ⟨hf, hp, hs⟩ := mem_failuresAt.mp hf
    obtain ⟨c, hc, hk⟩ := Option.bind_eq_some_iff.mp ht
    cases hr : x.classify f.problem with
    | error fault => rw [hr] at hc; cases hc
    | ok c' =>
      rw [hr] at hc
      cases Option.some.inj hc
      exact ⟨f, hf, hp, hs, _, hr, hk⟩
  · rintro ⟨f, hf, hp, hs, c, hc, hk⟩
    refine ⟨f, mem_failuresAt.mpr ⟨hf, hp, hs⟩, ?_⟩
    rw [hc]
    exact hk

theorem contextHeader_eq (m : Markup Out) (contexts : List Frame) :
    contextHeader m contexts = if contexts = [] then []
      else [m.text "- ".toList, m.context (m.text (describeContexts contexts)), m.text ":".toList,
        m.newline] := by
  cases contexts <;> rfl

theorem contextPart_eq_stackPart
    (h : ∀ f ∈ failures, ∃ c, x.classify f.problem = .ok c) :
    contextPart m x (contexts, failuresAt x failures p contexts) =
      .ok (stackPart x failures m p contexts) := by
  have hall : (failuresAt x failures p contexts).mapM (fun f => x.classify f.problem) =
      .ok ((failuresAt x failures p contexts).filterMap fun f =>
        (x.classify f.problem).toOption) := by
    apply mapM_eq_ok_filterMap
    intro f hf
    obtain ⟨c, hc⟩ := h f (mem_failuresAt.mp hf).1
    rw [hc]
    rfl
  unfold contextPart
  rw [hall, contextHeader_eq]
  unfold stackPart linesAt textsAt
  rw [← List.filterMap_filterMap, ← List.filterMap_filterMap, ← describe_eq_describedBy]
  rfl

theorem positionPart_eq (h : ∀ f ∈ failures, ∃ c, x.classify f.problem = .ok c) (extra : Nat)
    (lines : List (Nat × Text)) :
    positionPart m x extra lines (p, failures.filter fun f => f.position = p) =
      .ok (sourceBlock m extra lines p ++
        m.newline :: (stacksAt x failures p).flatMap (stackPart x failures m p)) := by
  have hparts : (groupBy x.contexts (failures.filter fun f => f.position = p)).mapM
      (contextPart m x) = .ok ((stacksAt x failures p).map (stackPart x failures m p)) := by
    rw [groupBy_eq_filter, List.mapM_map]
    apply mapM_eq_ok
    intro contexts _
    rw [Function.comp_apply, filter_filter_eq_failuresAt]
    exact contextPart_eq_stackPart h
  unfold positionPart
  rw [hparts, List.flatMap_def]
  rfl

theorem render_eq_ok_filteredReport (h : ∀ f ∈ failures, ∃ c, x.classify f.problem = .ok c)
    (extra : Nat) (source : Text) :
    render m x extra source failures = .ok (filteredReport x failures m extra source) := by
  have hparts : (groupBy Failure.position failures).mapM
      (positionPart m x extra source.numberedLines) =
      .ok ((positionsOf failures).map fun p => sourceBlock m extra source.numberedLines p ++
        m.newline :: (stacksAt x failures p).flatMap (stackPart x failures m p)) := by
    rw [groupBy_eq_filter, List.mapM_map]
    apply mapM_eq_ok
    intro p _
    exact positionPart_eq h extra source.numberedLines
  unfold render
  rw [hparts]
  rfl

/-- If there is a report, every problem has a phrase. -/
theorem exists_phrase_of_render_eq_ok {extra : Nat} {source : Text} {out : List Out}
    (h : render m x extra source failures = .ok out) :
    ∀ f ∈ failures, ∃ c, x.classify f.problem = .ok c := by
  intro f hf
  unfold render at h
  cases hpositions : (groupBy Failure.position failures).mapM
      (positionPart m x extra source.numberedLines) with
  | error fault => rw [hpositions] at h; cases h
  | ok positionParts =>
    obtain ⟨_, hp⟩ := exists_of_mapM_eq_ok hpositions _ (mem_groupBy Failure.position hf)
    unfold positionPart at hp
    cases hcontexts : (groupBy x.contexts (failures.filter fun g => g.position = f.position)).mapM
        (contextPart m x) with
    | error fault => rw [hcontexts] at hp; cases hp
    | ok contextParts =>
      have hmem : f ∈ failures.filter fun g => g.position = f.position := by simp [hf]
      obtain ⟨_, hc⟩ := exists_of_mapM_eq_ok hcontexts _ (mem_groupBy x.contexts hmem)
      unfold contextPart at hc
      dsimp only at hc
      cases hphrases : ((failures.filter fun g => g.position = f.position).filter fun g =>
          x.contexts g = x.contexts f).mapM fun g => x.classify g.problem with
      | error fault => rw [hphrases] at hc; cases hc
      | ok phrases => exact exists_of_mapM_eq_ok hphrases f (by simp [hf])

theorem render_eq_ok_iff {extra : Nat} {source : Text} {out : List Out} :
    render m x extra source failures = .ok out ↔
      (∀ f ∈ failures, ∃ c, x.classify f.problem = .ok c) ∧
      filteredReport x failures m extra source = out := by
  constructor
  · intro h
    have hphrases := exists_phrase_of_render_eq_ok h
    rw [render_eq_ok_filteredReport hphrases] at h
    exact ⟨hphrases, Except.ok.inj h⟩
  · rintro ⟨h, rfl⟩
    exact render_eq_ok_filteredReport h extra source

theorem exists_line_of_expected {f : Failure} {t : Text} (hf : f ∈ failures)
    (hc : x.classify f.problem = .ok (.expected t)) :
    ∃ line ∈ linesAt x failures f.position (x.contexts f), t <:+: line :=
  exists_line_of_mem_expected (mem_textsAt.mpr ⟨f, hf, rfl, rfl, _, hc, rfl⟩)

theorem mem_linesAt_of_other {f : Failure} {t : Text} (hf : f ∈ failures)
    (hc : x.classify f.problem = .ok (.other t)) :
    t ∈ linesAt x failures f.position (x.contexts f) :=
  mem_describedBy.mpr (.inl (mem_textsAt.mpr ⟨f, hf, rfl, rfl, _, hc, rfl⟩))

/-- No part of a report is without a line. -/
theorem linesAt_ne_nil (h : ∀ f ∈ failures, ∃ c, x.classify f.problem = .ok c)
    (hs : contexts ∈ stacksAt x failures p) : linesAt x failures p contexts ≠ [] := by
  obtain ⟨f, hf, rfl, rfl⟩ := mem_stacksAt.mp hs
  obtain ⟨c, hc⟩ := h f hf
  cases c with
  | expected t =>
    obtain ⟨line, hl, _⟩ := exists_line_of_expected hf hc
    exact List.ne_nil_of_mem hl
  | other t => exact List.ne_nil_of_mem (mem_linesAt_of_other hf hc)

/-- Below the first source block of a report a line ends. -/
theorem newline_mem_filteredReport (h : failures ≠ []) (extra : Nat) (source : Text) :
    m.newline ∈ filteredReport x failures m extra source := by
  obtain ⟨f, hf⟩ := List.exists_mem_of_ne_nil _ h
  have hp : f.position ∈ positionsOf failures := mem_positionsOf.mpr ⟨f, hf, rfl⟩
  unfold filteredReport
  cases hps : positionsOf failures with
  | nil => rw [hps] at hp; cases hp
  | cons p ps =>
    cases ps with
    | nil => simp
    | cons q qs => simp [List.intercalate_cons_cons]

theorem filteredReport_eq_nil_iff (extra : Nat) (source : Text) :
    filteredReport x failures m extra source = [] ↔ failures = [] := by
  constructor
  · intro h
    by_contra hne
    have hm := newline_mem_filteredReport (x := x) (m := m) hne extra source
    rw [h] at hm
    cases hm
  · rintro rfl
    rfl

end

/-- A report whose problems all have phrases goes through the distinct positions in the order in
which they first occur. Below the source block of each one it goes through the distinct context
stacks there, with a header unless the stack is empty, and with the lines for the set of what is
expected and the set of what else is said there. Nothing is lost and nothing comes from elsewhere:
the positions, stacks and texts are those that some failure has, each failure has its text in a line
for its position and its stack, a line is one of the sentences or tells of all that is expected, and
no part is without a line. Only a report of no failures is empty. -/
theorem render_eq_filtered {ε Out : Type} (x : Extraction ε) (m : Markup Out) (extra : Nat)
    (source : Text) (failures : List Failure)
    (h : ∀ f ∈ failures, ∃ c, x.classify f.problem = .ok c) :
    render m x extra source failures = .ok (filteredReport x failures m extra source) ∧
    (filteredReport x failures m extra source = [] ↔ failures = []) ∧
    (positionsOf failures).Nodup ∧
    (∀ p, p ∈ positionsOf failures ↔ ∃ f ∈ failures, f.position = p) ∧
    (∀ p, (stacksAt x failures p).Nodup ∧ ∀ contexts, contexts ∈ stacksAt x failures p ↔
      ∃ f ∈ failures, f.position = p ∧ x.contexts f = contexts) ∧
    (∀ p contexts t,
      (t ∈ textsAt x failures Classification.expected? p contexts ↔ ∃ f ∈ failures,
        f.position = p ∧ x.contexts f = contexts ∧ x.classify f.problem = .ok (.expected t)) ∧
      (t ∈ textsAt x failures Classification.other? p contexts ↔ ∃ f ∈ failures,
        f.position = p ∧ x.contexts f = contexts ∧ x.classify f.problem = .ok (.other t))) ∧
    (∀ p contexts line, line ∈ linesAt x failures p contexts ↔
      line ∈ textsAt x failures Classification.other? p contexts ∨
      expectingLine? (textsAt x failures Classification.expected? p contexts).sort = some line) ∧
    (∀ f ∈ failures, ∀ t,
      (x.classify f.problem = .ok (.expected t) →
        ∃ line ∈ linesAt x failures f.position (x.contexts f), t <:+: line) ∧
      (x.classify f.problem = .ok (.other t) →
        t ∈ linesAt x failures f.position (x.contexts f))) ∧
    ∀ p, ∀ contexts ∈ stacksAt x failures p, linesAt x failures p contexts ≠ [] := by
  refine ⟨render_eq_ok_filteredReport h extra source, filteredReport_eq_nil_iff extra source,
    eraseDups_nodup _, fun p => mem_positionsOf,
    fun p => ⟨eraseDups_nodup _, fun _ => mem_stacksAt⟩,
    ?_, fun p contexts line => mem_describedBy,
    fun f hf t => ⟨exists_line_of_expected hf, mem_linesAt_of_other hf⟩,
    fun p contexts hs => linesAt_ne_nil h hs⟩
  intro p contexts t
  have hexpected : ∀ c : Classification, c.expected? = some t ↔ c = .expected t := by
    intro c
    cases c <;> simp [Classification.expected?]
  have hother : ∀ c : Classification, c.other? = some t ↔ c = .other t := by
    intro c
    cases c <;> simp [Classification.other?]
  constructor
  · rw [mem_textsAt]
    simp [hexpected]
  · rw [mem_textsAt]
    simp [hother]

/-- Four failures at two positions, the first with and without contexts: neither the failures of the
first position nor those inside the list follow one another. -/
def interleavedFailures : List Failure :=
  [⟨⟨1, 2, by decide, by decide⟩, .expecting "b".toList,
      [⟨⟨1, 1, by decide, by decide⟩, "list".toList⟩]⟩,
    ⟨⟨2, 1, by decide, by decide⟩, .expectingEnd, []⟩,
    ⟨⟨1, 2, by decide, by decide⟩, .unexpectedChar, []⟩,
    ⟨⟨1, 2, by decide, by decide⟩, .expecting "a".toList,
      [⟨⟨1, 1, by decide, by decide⟩, "list".toList⟩]⟩]

/-- The two failures inside the list get one line, and the report has one part for each position. -/
theorem render_eq_filtered_interleaved :
    (∀ f ∈ interleavedFailures, ∃ c, Extraction.standard.classify f.problem = .ok c) ∧
    render Plain.markup Extraction.standard 0 "x!\ny".toList interleavedFailures =
      .ok (filteredReport Extraction.standard interleavedFailures Plain.markup 0
        "x!\ny".toList) ∧
    (positionsOf interleavedFailures).map (fun p => (p.row, p.col)) = [(1, 2), (2, 1)] ∧
    ∀ f ∈ interleavedFailures, ∀ t, f.problem = .expecting t →
      ∃ line ∈ linesAt Extraction.standard interleavedFailures f.position f.contexts,
        Literal.encode t <:+: line := by
  have h : ∀ f ∈ interleavedFailures, ∃ c, Extraction.standard.classify f.problem = .ok c := by
    intro f hf
    simp only [interleavedFailures, List.mem_cons, List.not_mem_nil, or_false] at hf
    rcases hf with rfl | rfl | rfl | rfl <;> exact ⟨_, rfl⟩
  obtain ⟨hrender, _, _, _, _, _, _, htold, _⟩ :=
    render_eq_filtered Extraction.standard Plain.markup 0 "x!\ny".toList interleavedFailures h
  refine ⟨h, hrender, by decide, ?_⟩
  intro f hf t ht
  refine (htold f hf (Literal.encode t)).1 ?_
  rw [ht]
  rfl

end ParseReport
