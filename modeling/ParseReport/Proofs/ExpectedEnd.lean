import ParseReport.Proofs.Causes
import ParseReport.Proofs.Phrases

/-!
The end among what is expected. An error that the parser finds lists all terminals of the state on
top of the stack. An error that the lexer finds lists what the lexer scans for, and no lexer scans
for the end: where the text could end as well, this is not told, and where it could only end, a name
stands for nothing else being allowed.
-/

namespace ParseReport

/-- Tables whose lexers scan for the terminals that their state knows and for the ignored ones. The
end of the text is scanned for by none and not ignored, and the name that stands for it where
nothing is allowed is the name of no terminal. -/
structure Table.Contextual (t : Table) (v : Vocabulary) : Prop where
  scan_iff : ∀ state < t.states.length, ∀ name, name ∈ (t.lexer state).names ↔
    name ∈ t.expected state ∧ name ≠ endName ∨ name ∈ t.ignored
  ignored_eq : v.ignored = t.ignored
  end_not_ignored : endName ∉ t.ignored
  file_not_expected : ∀ state, endOfFile ∉ t.expected state
  file_not_ignored : endOfFile ∉ t.ignored
  file_no_literal : v.literal? endOfFile = none

/-- An error of a step in which the lexer of the state on top finds the end or a token. -/
def Incident.ByParser (e : Incident) (t : Table) : Prop :=
  ∃ c i, (∀ place allowed,
      (t.lexer c.stack.top).read t.ignored c.cursor ≠ .unmatched place allowed) ∧
    t.step c = .interrupted i ∧ e.TellsOf i

/-- An error of a step in which the lexer of the state on top finds nothing that matches. -/
def Incident.ByLexer (e : Incident) (t : Table) : Prop :=
  ∃ c i place allowed, (t.lexer c.stack.top).read t.ignored c.cursor = .unmatched place allowed ∧
    t.step c = .interrupted i ∧ e.TellsOf i

section

variable {t : Table} {v : Vocabulary} {limit : Int} {source : Text} {e : Incident}

theorem recorded_byParser_or_byLexer (h : e ∈ t.recorded limit source) :
    e.ByParser t ∨ e.ByLexer t := by
  obtain ⟨c, i, hs, he⟩ := recorded_step h
  by_cases hr : ∃ place allowed,
      (t.lexer c.stack.top).read t.ignored c.cursor = .unmatched place allowed
  · obtain ⟨place, allowed, hr⟩ := hr
    exact .inr ⟨c, i, place, allowed, hr, hs, he⟩
  · exact .inl ⟨c, i, fun place allowed ha => hr ⟨place, allowed, ha⟩, hs, he⟩

theorem Incident.ByParser.names (h : e.ByParser t) : e.error.names = t.expected e.raised.top := by
  obtain ⟨c, i, hmatched, hs, he, _, hraised⟩ := h
  rw [he, hraised]
  rcases step_interrupted hs with ⟨cursor, stack, _, _, rfl⟩ |
    ⟨token, after, stack, _, _, rfl⟩ | ⟨cursor, allowed, hr, _⟩
  · rfl
  · rfl
  · exact absurd hr (hmatched cursor allowed)

theorem unmatched_names (stack : Stack) (cursor : Cursor) (allowed : List Name) :
    (t.unmatched stack cursor allowed).error.names = allowed := by
  unfold Table.unmatched
  split <;> rfl

theorem Incident.ByLexer.names (h : e.ByLexer t) :
    e.error.names = (t.lexer e.raised.top).allowed t.ignored := by
  obtain ⟨c, i, place, allowed, hr, hs, he, _, hraised⟩ := h
  rw [he, hraised]
  rcases step_interrupted hs with ⟨cursor, stack, hr', _, _⟩ |
    ⟨token, after, stack, hr', _, _⟩ | ⟨cursor, allowed', hr', rfl⟩
  · rw [hr] at hr'
    cases hr'
  · rw [hr] at hr'
    cases hr'
  · rw [unmatched_names, unmatched_stack]
    exact read_allowed hr'

/-- A lexer allows what it scans for and does not skip; only if there is nothing of that kind does
it allow a name that stands for the end. -/
theorem mem_allowed_iff {l : Lexer} {ignored : List Name} {name : Name} :
    name ∈ l.allowed ignored ↔ (name ∈ l.names ∧ name ∉ ignored) ∨
      (name = endOfFile ∧ ∀ other ∈ l.names, other ∈ ignored) := by
  have hmem : ∀ other, other ∈ l.names.filter (fun name => !ignored.contains name) ↔
      other ∈ l.names ∧ other ∉ ignored := by
    intro other
    simp [List.mem_filter]
  unfold Lexer.allowed
  split
  next hnone =>
    rw [hnone] at hmem
    have hall : ∀ other ∈ l.names, other ∈ ignored := by
      intro other ho
      by_contra hn
      exact absurd ((hmem other).mpr ⟨ho, hn⟩) List.not_mem_nil
    rw [List.mem_singleton]
    constructor
    · exact fun he => .inr ⟨he, hall⟩
    · rintro (⟨hs, hn⟩ | ⟨he, _⟩)
      · exact absurd (hall name hs) hn
      · exact he
  next hsome =>
    rw [hmem name]
    constructor
    · exact .inl
    · rintro (hs | ⟨_, hall⟩)
      · exact hs
      · refine absurd (List.filter_eq_nil_iff.mpr ?_) hsome
        intro other ho
        simp [hall other ho]

/-- An error that the parser finds lists what the state on top knows. -/
theorem Table.Contextual.byParser_terminals (h : t.Contextual v) (he : e.ByParser t) {name : Name} :
    name ∈ e.error.terminals v ↔ name ∈ t.expected e.raised.top ∧ name ∉ t.ignored := by
  rw [mem_terminals_iff, he.names, h.ignored_eq]

/-- An error that the lexer finds lists all of that but the end, or a name for the end if there is
nothing else. -/
theorem Table.Contextual.byLexer_terminals (h : t.Contextual v) (he : e.ByLexer t)
    (htop : e.raised.top < t.states.length) {name : Name} :
    name ∈ e.error.terminals v ↔
      (name ∈ t.expected e.raised.top ∧ name ≠ endName ∧ name ∉ t.ignored) ∨
      (name = endOfFile ∧
        ∀ other ∈ t.expected e.raised.top, other = endName ∨ other ∈ t.ignored) := by
  have hscan := h.scan_iff e.raised.top htop
  have hnone : (∀ other ∈ (t.lexer e.raised.top).names, other ∈ t.ignored) ↔
      ∀ other ∈ t.expected e.raised.top, other = endName ∨ other ∈ t.ignored := by
    constructor
    · intro hall other ho
      by_cases hend : other = endName
      · exact .inl hend
      · exact .inr (hall other ((hscan other).mpr (.inl ⟨ho, hend⟩)))
    · intro hall other ho
      rcases (hscan other).mp ho with ⟨hexpected, hend⟩ | hignored
      · exact (hall other hexpected).resolve_left hend
      · exact hignored
  have hsome : name ∈ (t.lexer e.raised.top).names ∧ name ∉ t.ignored ↔
      name ∈ t.expected e.raised.top ∧ name ≠ endName ∧ name ∉ t.ignored := by
    rw [hscan name]
    constructor
    · rintro ⟨⟨hexpected, hend⟩ | hignored, hn⟩
      · exact ⟨hexpected, hend, hn⟩
      · exact absurd hignored hn
    · rintro ⟨hexpected, hend, hn⟩
      exact ⟨.inl ⟨hexpected, hend⟩, hn⟩
  rw [mem_terminals_iff, he.names, mem_allowed_iff, h.ignored_eq, hnone, hsome]
  -- what is allowed is not ignored, the name for the end neither
  apply and_iff_left_of_imp
  rintro (⟨_, _, hn⟩ | ⟨rfl, _⟩)
  · exact hn
  · exact h.file_not_ignored

end

section

variable {v : Vocabulary} {name text : Name}

theorem mem_problems_iff {error : ParseError} {problem : Problem} (h : problem ≠ .unexpectedChar) :
    problem ∈ error.problems v ↔ ∃ name ∈ error.terminals v, v.problemFor name = problem := by
  unfold ParseError.problems
  dsimp only
  split
  next => rw [List.mem_cons, or_iff_right h, List.mem_map]
  next => exact List.mem_map

/-- Shared terminals stand neither for the end nor for their own name. -/
theorem common_stand {problem : Problem} (h : commonTerminals.lookup name = some problem) :
    problem ≠ .expectingEnd ∧ ∀ text, problem ≠ .expecting text := by
  have hall : ∀ entry ∈ commonTerminals,
      entry.2 ≠ .expectingEnd ∧ ∀ text, entry.2 ≠ .expecting text := by
    simp [commonTerminals]
  obtain ⟨before, after, he, _⟩ := List.lookup_eq_some_iff.mp h
  exact hall (name, problem) (by simp [he])

theorem problemFor_eq_end_iff : v.problemFor name = .expectingEnd ↔ name = endName := by
  refine ⟨fun h => ?_, fun h => if_pos h⟩
  by_contra hn
  unfold Vocabulary.problemFor at h
  rw [if_neg hn] at h
  split at h
  next => split at h <;> cases h
  next =>
    cases hc : commonTerminals.lookup name with
    | none =>
      rw [hc] at h
      cases h
    | some problem =>
      rw [hc] at h
      exact (common_stand hc).1 h

/-- A terminal is told by a name only if it is its own. -/
theorem eq_of_problemFor_eq_expecting (h : v.problemFor name = .expecting text) : name = text := by
  unfold Vocabulary.problemFor at h
  split at h
  next => cases h
  next =>
    split at h
    next => split at h <;> cases h
    next =>
      cases hc : commonTerminals.lookup name with
      | none =>
        rw [hc] at h
        exact Problem.expecting.inj h
      | some problem =>
        rw [hc] at h
        exact absurd h ((common_stand hc).2 text)

theorem problemFor_endOfFile (h : v.literal? endOfFile = none) :
    v.problemFor endOfFile = .expecting endOfFile := by
  unfold Vocabulary.problemFor
  rw [h]
  rfl

theorem expectingEnd_mem_iff {error : ParseError} :
    Problem.expectingEnd ∈ error.problems v ↔ endName ∈ error.terminals v := by
  rw [mem_problems_iff (by simp)]
  simp [problemFor_eq_end_iff]

theorem expecting_endOfFile_mem_iff {error : ParseError} (h : v.literal? endOfFile = none) :
    Problem.expecting endOfFile ∈ error.problems v ↔ endOfFile ∈ error.terminals v := by
  rw [mem_problems_iff (by simp)]
  constructor
  · rintro ⟨name, hn, hp⟩
    exact eq_of_problemFor_eq_expecting hp ▸ hn
  · intro hn
    exact ⟨endOfFile, hn, problemFor_endOfFile h⟩

end

/-- Where the text could end, an error that the parser finds tells so, and one that the lexer finds
does not; it tells a name that stands for the end if the text could only end there. -/
theorem expected_end_told_iff {t : Table} {v : Vocabulary} (h : t.Contextual v) (limit : Int)
    (source : Text) :
    ∀ e ∈ t.recorded limit source,
      (e.ByParser t ∨ e.ByLexer t) ∧
      (e.ByParser t →
        (.expectingEnd ∈ e.error.problems v ↔ endName ∈ t.expected e.raised.top) ∧
        .expecting endOfFile ∉ e.error.problems v) ∧
      (e.ByLexer t → e.raised.top < t.states.length →
        .expectingEnd ∉ e.error.problems v ∧
        (.expecting endOfFile ∈ e.error.problems v ↔
          ∀ name ∈ t.expected e.raised.top, name = endName ∨ name ∈ t.ignored)) := by
  intro e he
  have hfile := h.file_not_expected e.raised.top
  refine ⟨recorded_byParser_or_byLexer he, ?_, ?_⟩
  · intro hp
    rw [expectingEnd_mem_iff, expecting_endOfFile_mem_iff h.file_no_literal,
      h.byParser_terminals hp, h.byParser_terminals hp]
    exact ⟨and_iff_left h.end_not_ignored, fun hn => hfile hn.1⟩
  · intro hl htop
    rw [expectingEnd_mem_iff, expecting_endOfFile_mem_iff h.file_no_literal,
      h.byLexer_terminals hl htop, h.byLexer_terminals hl htop]
    have hne : endName ≠ endOfFile := by decide
    refine ⟨?_, ?_⟩
    · rintro (⟨_, hn, _⟩ | ⟨hn, _⟩)
      · exact hn rfl
      · exact hne hn
    · refine ⟨?_, fun hall => .inr ⟨rfl, hall⟩⟩
      rintro (⟨hn, _⟩ | ⟨_, hall⟩)
      · exact absurd hn hfile
      · exact hall

theorem pairTable_contextual : pairTable.Contextual {} where
  scan_iff := by
    have hscan : ∀ state < pairTable.states.length, (pairTable.lexer state).names =
        (pairTable.expected state).filter (· ≠ endName) := by decide
    intro state hstate name
    rw [hscan state hstate, List.mem_filter, decide_eq_true_iff]
    exact (or_iff_left List.not_mem_nil).symm
  ignored_eq := rfl
  end_not_ignored := List.not_mem_nil
  file_not_expected := by
    intro state
    match state with
    | 0 => decide
    | 1 => decide
    | 2 => decide
    | 3 => decide
    | n + 4 => exact List.not_mem_nil
  file_not_ignored := List.not_mem_nil
  file_no_literal := rfl

/-- In `a` the end comes too early, which the parser finds and not the lexer. -/
theorem expected_end_told_early :
    pairTable.Contextual {} ∧ ∃ e ∈ pairTable.recorded 5 ['a'], e.ByParser pairTable ∧
      .expectingEnd ∉ e.error.problems {} ∧ .expecting endOfFile ∉ e.error.problems {} := by
  obtain ⟨e, he, htells⟩ : ∃ e ∈ pairTable.recorded 5 ['a'],
      e.TellsOf (pairTable.unexpectedEnd ⟨['a'], [], 1, 2⟩ ⟨[⟨1, 0⟩], 1⟩) :=
    ⟨_, List.mem_cons_self, rfl, rfl, rfl⟩
  have hp : e.ByParser pairTable := by
    refine ⟨⟨⟨['a'], [], 1, 2⟩, ⟨[⟨1, 0⟩], 1⟩⟩, _, ?_, rfl, htells⟩
    intro place allowed hr
    cases hr
  obtain ⟨_, hparser, _⟩ := expected_end_told_iff pairTable_contextual 5 ['a'] e he
  obtain ⟨hend, hfile⟩ := hparser hp
  refine ⟨pairTable_contextual, e, he, hp, ?_, hfile⟩
  rw [hend, htells.2.2]
  decide

/-- Behind the pair in `ab!` only the end is expected, and what is told instead is a name for it. -/
theorem end_untold_behind_pair :
    pairTable.Contextual {} ∧ ∃ e ∈ pairTable.recorded 5 "ab!".toList, e.offset = 2 ∧
      endName ∈ pairTable.expected e.raised.top ∧
      e.error.problems {} = [.unexpectedChar, .expecting "<END-OF-FILE>".toList] := by
  refine ⟨pairTable_contextual, ⟨⟨.characters [endOfFile], some 1, some 3⟩, 2,
    ⟨[⟨2, 1⟩, ⟨1, 0⟩], 2⟩, ⟨[⟨2, 1⟩, ⟨1, 0⟩], 2⟩, true⟩, by decide, rfl, by decide, rfl⟩

end ParseReport
