import ParseReport.Proofs.LiveStacks
import ParseReport.Proofs.Phrases

/-!
The first error of a text. A parser that does not recover ends with it, and a recovering one records
it before all others, so there are failures exactly if parsing without recovery fails, and the first
of them are those of that error.
-/

namespace ParseReport

/-- A parser that does not recover takes steps until one of them is not followed by another. -/
inductive Halts (t : Table) : Configuration → Halt → Prop
  | advanced {c next halt} : t.step c = .advanced next → Halts t next halt → Halts t c halt
  | accepted {c} : t.step c = .accepted → Halts t c .accepted
  | interrupted {c i} : t.step c = .interrupted i → Halts t c (.interrupted i)
  | broken {c flaw} : t.step c = .broken flaw → Halts t c (.broken flaw)

/-- How parsing a text without recovery ends: with no error, or with the first one. A parser of
which only the errors are known ends with the first that it has, the last one if it does not
recover. -/
inductive Engine.Ends (source : Text) : Engine → Option ParseError → Prop
  | accepted {t} : Halts t (.start source) .accepted → Ends source (.table t) none
  | interrupted {t i} : Halts t (.start source) (.interrupted i) →
      Ends source (.table t) (some i.error)
  | known {recovers offered last} : Ends source (.known recovers offered last)
      ((if recovers then offered else []) ++ last.toList).head?

/-- Tables by which every linked stack can be reduced as its top state lists and every token is fed
in finitely many actions; parsers that are not known by their tables have no such duties. -/
def Engine.Sound : Engine → Prop
  | .table t => t.Sound ∧ t.FeedsEnd
  | .known _ _ _ => True

section

variable {t : Table} {c : Configuration} {halt : Halt} {limit : Int} {source : Text}

theorem Halts.runWithin (h : Halts t c halt) :
    ∃ steps, ∀ fuel, t.runWithin (fuel + steps) c = halt := by
  induction h with
  | advanced hs _ ih =>
    obtain ⟨steps, ih⟩ := ih
    refine ⟨steps + 1, fun fuel => ?_⟩
    rw [← Nat.add_assoc, Table.runWithin, hs]
    exact ih fuel
  | accepted hs => exact ⟨1, fun fuel => by rw [Table.runWithin, hs]⟩
  | interrupted hs => exact ⟨1, fun fuel => by rw [Table.runWithin, hs]⟩
  | broken hs => exact ⟨1, fun fuel => by rw [Table.runWithin, hs]⟩

theorem Halts.unique {halt' : Halt} (h : Halts t c halt) (h' : Halts t c halt') : halt = halt' := by
  obtain ⟨steps, hrun⟩ := h.runWithin
  obtain ⟨steps', hrun'⟩ := h'.runWithin
  rw [← hrun steps', ← hrun' steps, Nat.add_comm]

theorem runWithin_halts {fuel : Nat} (hf : c.cursor.rest.length < fuel) :
    Halts t c (t.runWithin fuel c) := by
  induction fuel generalizing c with
  | zero => omega
  | succ fuel ih =>
    rw [Table.runWithin]
    cases hs : t.step c with
    | advanced next =>
      have hlt := step_advanced_shortens hs
      exact .advanced hs (ih (by omega))
    | accepted => exact .accepted hs
    | interrupted i => exact .interrupted hs
    | broken flaw => exact .broken hs

/-- A run has enough steps to come to the end of the parse. -/
theorem halts_start_iff : Halts t (.start source) halt ↔ t.run (.start source) = halt := by
  have hr : Halts t (.start source) (t.run (.start source)) :=
    runWithin_halts (Nat.lt_succ_self _)
  constructor
  · exact hr.unique
  · rintro rfl
    exact hr

theorem ends_table_iff {outcome : Option ParseError} :
    Engine.Ends source (.table t) outcome ↔
      (t.run (.start source) = .accepted ∧ outcome = none) ∨
      ∃ i, t.run (.start source) = .interrupted i ∧ outcome = some i.error := by
  constructor
  · intro h
    cases h with
    | accepted hh => exact .inl ⟨halts_start_iff.mp hh, rfl⟩
    | interrupted hh => exact .inr ⟨_, halts_start_iff.mp hh, rfl⟩
  · rintro (⟨hr, rfl⟩ | ⟨i, hr, rfl⟩)
    · exact .accepted (halts_start_iff.mpr hr)
    · exact .interrupted (halts_start_iff.mpr hr)

/-- With nothing remembered, the rounds begin with an error that is recorded if the first run meets
one, and meet none otherwise. -/
theorem Recovers.first {incidents : List Incident} {ending : Ending}
    (h : Recovers t limit {} c incidents ending) (hok : ∀ flaw, ending ≠ .broken flaw) :
    (t.run c = .accepted ∧ incidents = []) ∨
    ∃ i e later, t.run c = .interrupted i ∧ incidents = e :: later ∧ e.error = i.error ∧
      e.recorded = true := by
  cases h with
  | accepted hr => exact .inl ⟨hr, rfl⟩
  | flawed => exact absurd rfl (hok _)
  | lost => exact absurd rfl (hok _)
  | stopped hr => exact .inr ⟨_, _, _, hr, rfl, rfl, rfl⟩
  | resumed hr => exact .inr ⟨_, _, _, hr, rfl, rfl, rfl⟩

theorem known_errors (recovers : Bool) (offered : List ParseError) (last : Option ParseError)
    (limit : Int) (source : Text) :
    ∃ errors, (Engine.known recovers offered last).errors limit source = .ok errors ∧
      errors.head? = ((if recovers then offered else []) ++ last.toList).head? := by
  cases recovers with
  | false => exact ⟨_, rfl, rfl⟩
  | true =>
    cases offered with
    | nil => exact ⟨_, rfl, rfl⟩
    | cons first offered => exact ⟨_, rfl, rfl⟩

/-- The error that ends a parse without recovery is the first one that is reported. -/
theorem ends_iff_eq_head {engine : Engine} {errors : List ParseError}
    (h : engine.errors limit source = .ok errors) {outcome : Option ParseError} :
    engine.Ends source outcome ↔ outcome = errors.head? := by
  cases engine with
  | table t =>
    obtain ⟨hok, rfl⟩ := errors_table_eq_ok_iff.mp h
    rw [ends_table_iff]
    have hfirst := (recover_recovers t limit source).first hok
    rcases hfirst with ⟨hr, hi⟩ | ⟨i, e, later, hr, hi, he, hrec⟩
    · simp [hr, Table.recorded, hi]
    · simp [hr, Table.recorded, hi, hrec, he]
  | known recovers offered last =>
    obtain ⟨errors', h', hhead⟩ := known_errors recovers offered last limit source
    cases Except.ok.inj (h'.symm.trans h)
    rw [hhead]
    constructor
    · intro hends
      cases hends
      rfl
    · rintro rfl
      exact .known

/-- Where parsing without recovery succeeds, whatever the tables are, nothing is reported. -/
theorem Engine.Ends.errors_eq_nil {engine : Engine} (h : engine.Ends source none) (limit : Int) :
    engine.errors limit source = .ok [] := by
  cases engine with
  | table t =>
    rcases ends_table_iff.mp h with ⟨hr, _⟩ | ⟨i, _, hi⟩
    · have hnone : t.recover limit source = ([], .accepted) := recoverWithin_accepted hr
      rw [Engine.errors, hnone]
      rfl
    · cases hi
  | known recovers offered last =>
    obtain ⟨errors, he, _⟩ := known_errors recovers offered last limit source
    rw [he, List.head?_eq_none_iff.mp ((ends_iff_eq_head he).mp h).symm]

/-- Parsing without recovery succeeds where there are no failures, and ends with an error where
there are some. -/
theorem ends_iff_failures {g : Grammar} {failures : List Failure}
    (h : g.failures limit source = .ok failures) :
    (g.engine.Ends source none ↔ failures = []) ∧
    ((∃ e, g.engine.Ends source (some e)) ↔ failures ≠ []) := by
  obtain ⟨errors, he, rfl⟩ := failures_eq_ok_iff_errors.mp h
  simp only [ends_iff_eq_head he]
  cases errors with
  | nil => simp
  | cons first later => simp [failures_ne_nil]

theorem Engine.Sound.errors_ok {engine : Engine} (h : engine.Sound) (limit : Int) (source : Text) :
    ∃ errors, engine.errors limit source = .ok errors := by
  cases engine with
  | table t =>
    have hr := recover_recovers t limit source
    refine ⟨_, errors_table_eq_ok_iff.mpr ⟨fun flaw hb => ?_, rfl⟩⟩
    -- linked stacks leave no flaw but endless feeding, and finitely many actions exclude that one
    cases hr.broken_of_sound h.1 (start_linked t) hb
    exact hr.ne_endless h.2 hb
  | known recovers offered last =>
    obtain ⟨errors, he, _⟩ := known_errors recovers offered last limit source
    exact ⟨errors, he⟩

end

/-- The list of failures of a text is empty exactly if parsing the text without recovery succeeds,
and if that ends with an error, the list begins with the failures of this error. Sound tables, like
any parser that is known by its errors, give a list for each text and each limit, and parsing
without recovery ends in one of the two ways. -/
theorem failures_begin_with_first_error (g : Grammar) (limit : Int) (source : Text) :
    (g.failures limit source = .ok [] ↔ g.engine.Ends source none) ∧
    (∀ e failures, g.engine.Ends source (some e) → g.failures limit source = .ok failures →
      e.failures source g.vocabulary <+: failures) ∧
    (g.engine.Sound → (∃ failures, g.failures limit source = .ok failures) ∧
      ∃ outcome, g.engine.Ends source outcome) := by
  refine ⟨⟨?_, ?_⟩, ?_, ?_⟩
  · intro h
    obtain ⟨errors, he, hnil⟩ := failures_eq_ok_iff_errors.mp h
    rw [ends_iff_eq_head he]
    cases errors with
    | nil => rfl
    | cons first later => simp [failures_ne_nil] at hnil
  · intro hends
    exact failures_eq_ok_iff_errors.mpr ⟨[], hends.errors_eq_nil limit, rfl⟩
  · intro e failures hends h
    obtain ⟨errors, he, rfl⟩ := failures_eq_ok_iff_errors.mp h
    rw [ends_iff_eq_head he] at hends
    obtain ⟨later, rfl⟩ := List.head?_eq_some_iff.mp hends.symm
    rw [List.flatMap_cons]
    exact List.prefix_append _ _
  · intro h
    obtain ⟨errors, he⟩ := h.errors_ok limit source
    exact ⟨⟨_, failures_eq_ok_iff_errors.mpr ⟨errors, he, rfl⟩⟩, _, (ends_iff_eq_head he).mpr rfl⟩

/-- In a `b` and, on the next line, an `a`, the first letter is out of place, and the failures begin
with those that tell so. -/
theorem failures_begin_with_first_error_pairs :
    pairTable.Sound ∧ pairTable.FeedsEnd ∧
    ∃ failures e, (Grammar.mk {} (.table pairTable)).failures 5 ['b', '\n', 'a'] = .ok failures ∧
      (Engine.table pairTable).Ends ['b', '\n', 'a'] (some e) ∧
      e.failures ['b', '\n', 'a'] {} <+: failures ∧ failures ≠ [] := by
  obtain ⟨hempty, hfirst, hsound⟩ :=
    failures_begin_with_first_error (Grammar.mk {} (.table pairTable)) 5 ['b', '\n', 'a']
  obtain ⟨⟨failures, hf⟩, outcome, hends⟩ := hsound ⟨pairTable_sound, pairTable_feedsEnd⟩
  have hne : failures ≠ [] := by
    intro he
    subst he
    have hlen : (Except.map List.length
      ((Grammar.mk {} (.table pairTable)).failures 5 ['b', '\n', 'a'])) = .ok 2 := rfl
    rw [hf] at hlen
    cases hlen
  cases outcome with
  | none => exact absurd (Except.ok.inj (hf.symm.trans (hempty.mpr hends))) hne
  | some e =>
    exact ⟨pairTable_sound, pairTable_feedsEnd, failures, e, hf, hends, hfirst e failures hends hf,
      hne⟩

end ParseReport
