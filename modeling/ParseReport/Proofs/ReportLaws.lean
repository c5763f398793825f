import ParseReport.Proofs.FilteredReport

/-!
Laws of reports. A report forgets the order and the number of its failures except for which position
comes first and, at a position, which context stack comes first; and the report of lists that share
no position is made of their reports.
-/

namespace ParseReport

/-- All problems of failures have phrases. -/
def Phrased {ε : Type} (x : Extraction ε) (failures : List Failure) : Prop :=
  ∀ f ∈ failures, ∃ c, x.classify f.problem = .ok c

/-- The phrases of the failures with a position and a context stack. -/
def phrasesAt {ε : Type} (x : Extraction ε) (failures : List Failure) (p : Position)
    (contexts : List Frame) : Finset Classification :=
  ((failuresAt x failures p contexts).filterMap fun f => (x.classify f.problem).toOption).toFinset

/-- Two lists of failures have the same positions, the same context stacks at each position, both in
the order in which they first occur, and the same phrases for each position and stack. -/
structure Alike {ε : Type} (x : Extraction ε) (failures others : List Failure) : Prop where
  positions : positionsOf failures = positionsOf others
  contexts : ∀ p, stacksAt x failures p = stacksAt x others p
  phrases : ∀ p contexts, phrasesAt x failures p contexts = phrasesAt x others p contexts

/-- Changes of a list of failures: one of them is repeated further behind, two with one position and
one context stack change places, or one that is not the first with its position and context stack
goes further behind. -/
inductive Rearranges {ε : Type} (x : Extraction ε) : List Failure → List Failure → Prop
  | repeated (before : List Failure) (f : Failure) (between after : List Failure) :
      Rearranges x (before ++ f :: (between ++ after)) (before ++ f :: (between ++ f :: after))
  | swapped (before : List Failure) {f : Failure} (between : List Failure) {g : Failure}
      (after : List Failure) : f.position = g.position → x.contexts f = x.contexts g →
      Rearranges x (before ++ f :: (between ++ g :: after)) (before ++ g :: (between ++ f :: after))
  | moved {before : List Failure} {f : Failure} (between after : List Failure) :
      (∃ g ∈ before, g.position = f.position ∧ x.contexts g = x.contexts f) →
      Rearranges x (before ++ f :: (between ++ after)) (before ++ (between ++ f :: after))

section

variable {ε Out : Type} {x : Extraction ε} {m : Markup Out} {failures others : List Failure}
  {p : Position} {contexts : List Frame}

theorem mem_phrasesAt {c : Classification} :
    c ∈ phrasesAt x failures p contexts ↔
      ∃ f ∈ failures, f.position = p ∧ x.contexts f = contexts ∧ x.classify f.problem = .ok c := by
  have hok : ∀ f : Failure, (x.classify f.problem).toOption = some c ↔
      x.classify f.problem = .ok c := by
    intro f
    cases x.classify f.problem <;> simp [Except.toOption]
  rw [phrasesAt, List.mem_toFinset, List.mem_filterMap]
  simp only [mem_failuresAt, hok, and_assoc]

theorem mem_textsAt_iff_phrasesAt {kind : Classification → Option Text} {t : Text} :
    t ∈ textsAt x failures kind p contexts ↔
      ∃ c ∈ phrasesAt x failures p contexts, kind c = some t := by
  rw [mem_textsAt]
  constructor
  · rintro ⟨f, hf, hp, hs, c, hc, hk⟩
    exact ⟨c, mem_phrasesAt.mpr ⟨f, hf, hp, hs, hc⟩, hk⟩
  · rintro ⟨c, hc, hk⟩
    obtain ⟨f, hf, hp, hs, hc⟩ := mem_phrasesAt.mp hc
    exact ⟨f, hf, hp, hs, c, hc, hk⟩

theorem Alike.linesAt_eq (h : Alike x failures others) (p : Position) (contexts : List Frame) :
    linesAt x failures p contexts = linesAt x others p contexts := by
  have htexts : ∀ kind, textsAt x failures kind p contexts = textsAt x others kind p contexts := by
    intro kind
    ext t
    rw [mem_textsAt_iff_phrasesAt, mem_textsAt_iff_phrasesAt, h.phrases]
  rw [linesAt, linesAt, htexts, htexts]

theorem Alike.filteredReport_eq (h : Alike x failures others) (extra : Nat) (source : Text) :
    filteredReport x failures m extra source = filteredReport x others m extra source := by
  have hpart : ∀ p, stackPart x failures m p = stackPart x others m p := by
    intro p
    funext contexts
    rw [stackPart, stackPart, h.linesAt_eq]
  unfold filteredReport
  simp only [h.positions, h.contexts, hpart]

/-- What stands in front already can be left out. -/
theorem eraseDups_filter_map_of_known {κ : Type} [BEq κ] [LawfulBEq κ] {key : Failure → κ}
    {keep : Failure → Bool} {before after : List Failure} {f g : Failure} (hg : g ∈ before)
    (hkeep : keep g = keep f) (hkey : key g = key f) :
    (((before ++ f :: after).filter keep).map key).eraseDups =
      (((before ++ after).filter keep).map key).eraseDups := by
  cases hf : keep f with
  | false => simp [hf]
  | true =>
    have hmem : key f ∈ (before.filter keep).map key :=
      List.mem_map.mpr ⟨g, List.mem_filter.mpr ⟨hg, hkeep.trans hf⟩, hkey⟩
    have hcontains : ¬((before.filter keep).map key).contains (key f) = false := by
      simp only [List.contains_iff_mem.mpr hmem, Bool.true_eq_false, not_false_eq_true]
    simp only [List.filter_append, List.filter_cons_of_pos hf, List.map_append, List.map_cons]
    rw [List.eraseDups_append, List.eraseDups_append, List.cons_removeAll, if_neg hcontains]

/-- What the failures have of one kind, each thing once and in the order of its first occurrence, is
kept if things of this kind belong to positions with context stacks. -/
theorem Rearranges.eraseDups_eq {κ : Type} [BEq κ] [LawfulBEq κ] (key : Failure → κ)
    (keep : Failure → Bool) (h : Rearranges x failures others)
    (hkeep : ∀ f g : Failure, f.position = g.position → keep f = keep g)
    (hkey : ∀ f g : Failure, f.position = g.position → x.contexts f = x.contexts g →
      key f = key g) :
    ((failures.filter keep).map key).eraseDups = ((others.filter keep).map key).eraseDups := by
  cases h with
  | repeated before f between after =>
    have hassoc : ∀ rest, before ++ f :: (between ++ rest) = (before ++ f :: between) ++ rest := by
      simp
    rw [hassoc, hassoc]
    exact (eraseDups_filter_map_of_known (by simp) rfl rfl).symm
  | @swapped before f between g after hp hs =>
    cases hg : keep g <;> simp [hkeep f g hp, hkey f g hp hs, hg]
  | @moved before f between after hknown =>
    obtain ⟨g, hg, hp, hs⟩ := hknown
    have hg' : g ∈ before ++ between := List.mem_append_left between hg
    rw [eraseDups_filter_map_of_known hg (hkeep g f hp) (hkey g f hp hs), ← List.append_assoc,
      ← List.append_assoc, eraseDups_filter_map_of_known hg' (hkeep g f hp) (hkey g f hp hs)]

theorem Rearranges.mem_iff (h : Rearranges x failures others) {f : Failure} :
    f ∈ failures ↔ f ∈ others := by
  cases h with
  | «repeated» => simp; tauto
  | swapped => simp; tauto
  | moved => simp; tauto

theorem Rearranges.alike (h : Rearranges x failures others) : Alike x failures others where
  positions := by
    have hall := h.eraseDups_eq Failure.position (fun _ => true) (fun _ _ _ => rfl)
      fun _ _ hp _ => hp
    simpa only [positionsOf, List.filter_true] using hall
  contexts p := h.eraseDups_eq x.contexts _ (fun f g hp => by rw [hp]) fun _ _ _ hs => hs
  phrases p contexts := by
    ext c
    simp only [mem_phrasesAt, h.mem_iff]

/-- Lists of failures that share no position. -/
def Apart (front back : List Failure) : Prop :=
  ∀ f ∈ front, ∀ g ∈ back, f.position ≠ g.position

theorem intercalate_append {α : Type} (separator : List α) {front back : List (List α)}
    (hf : front ≠ []) (hb : back ≠ []) :
    List.intercalate separator (front ++ back) =
      List.intercalate separator front ++ separator ++ List.intercalate separator back := by
  induction front with
  | nil => exact absurd rfl hf
  | cons part front ih =>
    rw [List.cons_append, List.intercalate_cons_of_ne_nil (by simp [hb])]
    cases front with
    | nil => simp
    | cons next front =>
      rw [ih (List.cons_ne_nil _ _), List.intercalate_cons_cons]
      simp only [List.append_assoc]

/-- The report of two lists that share no position is that of the first one, a separator, and that
of the second one; a problem without a phrase is found where it comes first. -/
theorem render_append {front back : List Failure} (hf : front ≠ []) (hb : back ≠ [])
    (h : Apart front back) (extra : Nat) (source : Text) :
    render m x extra source (front ++ back) = (do
      let first ← render m x extra source front
      let second ← render m x extra source back
      return first ++ m.newline :: second) := by
  unfold render
  rw [groupBy_append_of_disjoint h, List.mapM_append]
  cases hfirst : (groupBy Failure.position front).mapM
      (positionPart m x extra source.numberedLines) with
  | error fault => rfl
  | ok first =>
    cases hsecond : (groupBy Failure.position back).mapM
        (positionPart m x extra source.numberedLines) with
    | error fault => rfl
    | ok second =>
      have hne := ne_nil_of_mapM_eq_ok hfirst (groupBy_ne_nil Failure.position hf)
      have hne' := ne_nil_of_mapM_eq_ok hsecond (groupBy_ne_nil Failure.position hb)
      show Except.ok _ = Except.ok _
      rw [intercalate_append _ hne hne', List.append_assoc]
      rfl

/-- The report of lists of which no two share a position is made of their reports. -/
theorem render_flatten {lists : List (List Failure)} (hne : ∀ failures ∈ lists, failures ≠ [])
    (h : lists.Pairwise Apart) (extra : Nat) (source : Text) :
    render m x extra source lists.flatten =
      (lists.mapM (render m x extra source)).map (List.intercalate [m.newline]) := by
  induction lists with
  | nil => rfl
  | cons front lists ih =>
    obtain ⟨hfront, hlists⟩ := List.pairwise_cons.mp h
    rw [List.mapM_cons]
    cases lists with
    | nil =>
      rw [List.flatten_singleton]
      cases render m x extra source front with
      | error fault => rfl
      | ok out => exact congrArg Except.ok (List.intercalate_singleton ..).symm
    | cons next lists =>
      have hback : (next :: lists).flatten ≠ [] := by
        simp [hne next (by simp)]
      have hapart : Apart front (next :: lists).flatten := by
        intro f hf g hg
        obtain ⟨failures, hm, hg⟩ := List.mem_flatten.mp hg
        exact hfront failures hm f hf g hg
      rw [List.flatten_cons, render_append (hne front List.mem_cons_self) hback hapart,
        ih (fun failures hm => hne failures (List.mem_cons_of_mem front hm)) hlists]
      cases render m x extra source front with
      | error fault => rfl
      | ok out =>
        cases hothers : (next :: lists).mapM (render m x extra source) with
        | error fault => rfl
        | ok others =>
          have hcons := ne_nil_of_mapM_eq_ok hothers (List.cons_ne_nil _ _)
          show Except.ok _ = Except.ok _
          rw [List.intercalate_cons_of_ne_nil hcons, List.append_assoc]
          rfl

end

/-- Two lists of failures have the same report if they have the same positions, the same context
stacks at each position, both in the order in which they first occur, and for each position and
stack the same phrases. So a report is kept if a failure is repeated further behind, if two failures
with one position and one context stack change places, and if one that is not the first with its
position and context stack goes further behind. -/
theorem render_eq_of_alike {ε Out : Type} (x : Extraction ε) (m : Markup Out) (extra : Nat)
    (source : Text) :
    (∀ failures others, Alike x failures others → Phrased x failures → Phrased x others →
      ∃ out, render m x extra source failures = .ok out ∧
        render m x extra source others = .ok out) ∧
    ∀ failures others, Rearranges x failures others → Phrased x failures →
      ∃ out, render m x extra source failures = .ok out ∧
        render m x extra source others = .ok out := by
  have halike : ∀ failures others, Alike x failures others → Phrased x failures →
      Phrased x others → ∃ out, render m x extra source failures = .ok out ∧
        render m x extra source others = .ok out := by
    intro failures others h hf ho
    refine ⟨_, render_eq_ok_filteredReport hf extra source, ?_⟩
    rw [h.filteredReport_eq]
    exact render_eq_ok_filteredReport ho extra source
  refine ⟨halike, fun failures others h hf => halike failures others h.alike hf ?_⟩
  intro f hm
  exact hf f (h.mem_iff.mpr hm)

theorem interleavedFailures_phrased : Phrased Extraction.standard interleavedFailures := by
  intro f hf
  simp only [interleavedFailures, List.mem_cons, List.not_mem_nil, or_false] at hf
  rcases hf with rfl | rfl | rfl | rfl <;> exact ⟨_, rfl⟩

/-- The two failures inside the list change places, around one at another position and one without
contexts. -/
theorem render_eq_of_alike_interleaved :
    ∃ others, Rearranges Extraction.standard interleavedFailures others ∧
      Alike Extraction.standard interleavedFailures others ∧
      Phrased Extraction.standard interleavedFailures ∧ Phrased Extraction.standard others ∧
      others.map Failure.problem ≠ interleavedFailures.map Failure.problem ∧
      ∃ out,
        render Plain.markup Extraction.standard 0 "x!\ny".toList interleavedFailures = .ok out ∧
        render Plain.markup Extraction.standard 0 "x!\ny".toList others = .ok out := by
  have hr := Rearranges.swapped (x := Extraction.standard) [] (interleavedFailures.tail.take 2) []
    (f := interleavedFailures[0]) (g := interleavedFailures[3]) rfl rfl
  have hp := interleavedFailures_phrased
  have hp' : Phrased Extraction.standard _ := fun f hf => hp f (hr.mem_iff.mpr hf)
  obtain ⟨halike, _⟩ :=
    render_eq_of_alike Extraction.standard Plain.markup 0 "x!\ny".toList
  exact ⟨_, hr, hr.alike, hp, hp', by simp [interleavedFailures], halike _ _ hr.alike hp hp'⟩

/-- The report of two lists of failures that share no position is that of the first one, one
separator, and that of the second one. The report of any number of lists of which no two share a
position is made of the reports of all of them with a separator between each two. -/
theorem render_of_apart {ε Out : Type} (x : Extraction ε) (m : Markup Out) (extra : Nat)
    (source : Text) :
    (∀ front back, front ≠ [] → back ≠ [] → Apart front back → Phrased x (front ++ back) →
      ∃ first second, render m x extra source front = .ok first ∧
        render m x extra source back = .ok second ∧
        render m x extra source (front ++ back) = .ok (first ++ m.newline :: second)) ∧
    ∀ lists : List (List Failure), (∀ failures ∈ lists, failures ≠ []) → lists.Pairwise Apart →
      Phrased x lists.flatten →
      ∃ reports, lists.mapM (render m x extra source) = .ok reports ∧
        render m x extra source lists.flatten = .ok (List.intercalate [m.newline] reports) := by
  constructor
  · intro front back hf hb h hall
    obtain ⟨hfront, hback⟩ := List.forall_mem_append.mp hall
    have hfirst := render_eq_ok_filteredReport (m := m) hfront extra source
    have hsecond := render_eq_ok_filteredReport (m := m) hback extra source
    refine ⟨_, _, hfirst, hsecond, ?_⟩
    rw [render_append hf hb h, hfirst, hsecond]
    rfl
  · intro lists hne h hall
    have hreports : lists.mapM (render m x extra source) =
        .ok (lists.map fun failures => filteredReport x failures m extra source) := by
      apply mapM_eq_ok
      intro failures hm
      apply render_eq_ok_filteredReport
      intro f hf
      exact hall f (List.mem_flatten.mpr ⟨failures, hm, hf⟩)
    refine ⟨_, hreports, ?_⟩
    rw [render_flatten hne h, hreports]
    rfl

/-- Behind four failures at two positions there is one in the third row. -/
theorem render_of_apart_interleaved :
    ∃ back : List Failure, Apart interleavedFailures back ∧ back ≠ [] ∧
      Phrased Extraction.standard (interleavedFailures ++ back) ∧
      ∃ first second,
        render Plain.markup Extraction.standard 1 "x!\ny\nz".toList interleavedFailures =
          .ok first ∧
        render Plain.markup Extraction.standard 1 "x!\ny\nz".toList back = .ok second ∧
        render Plain.markup Extraction.standard 1 "x!\ny\nz".toList (interleavedFailures ++ back) =
          .ok (first ++ Plain.markup.newline :: second) := by
  have hapart : Apart interleavedFailures [⟨⟨3, 1, by decide, by decide⟩, .expectingInt, []⟩] := by
    intro f hf g hg
    rw [List.mem_singleton.mp hg]
    simp only [interleavedFailures, List.mem_cons, List.not_mem_nil, or_false] at hf
    rcases hf with rfl | rfl | rfl | rfl <;> simp
  have hall : Phrased Extraction.standard (interleavedFailures ++
      [⟨⟨3, 1, by decide, by decide⟩, .expectingInt, []⟩]) := by
    intro f hf
    rcases List.mem_append.mp hf with hf | hf
    · exact interleavedFailures_phrased f hf
    · rw [List.mem_singleton.mp hf]
      exact ⟨_, rfl⟩
  obtain ⟨htwo, _⟩ := render_of_apart Extraction.standard Plain.markup 1 "x!\ny\nz".toList
  exact ⟨_, hapart, List.cons_ne_nil _ _, hall,
    htwo _ _ (by simp [interleavedFailures]) (List.cons_ne_nil _ _) hapart hall⟩

end ParseReport
