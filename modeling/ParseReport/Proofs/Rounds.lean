import ParseReport.Proofs.Reading

/-!
The rounds of a recovering parser without a bound on their number, and the proof that the bound that
`Table.recover` sets itself never ends them: every round but the last one takes a code point.
-/

namespace ParseReport

/-- Whether recovering stops at an error: it is the end of the text, or enough are recorded. -/
def Stops (limit : Int) (m : Memory) (i : Interruption) (stack : Stack) : Prop :=
  i.error.isEnd = true ∨ limit ≤ (Table.remember m (Table.incident m i stack)).recorded

/-- The rounds of a recovering parser from a configuration on, with what it remembers of the rounds
before: the errors that it meets, and why it stops. -/
inductive Recovers (t : Table) (limit : Int) :
    Memory → Configuration → List Incident → Ending → Prop
  | accepted {m c} : t.run c = .accepted → Recovers t limit m c [] .accepted
  | flawed {m c flaw} : t.run c = .broken flaw → Recovers t limit m c [] (.broken flaw)
  | lost {m c i flaw} : t.run c = .interrupted i → t.recoveredStack i = .error flaw →
      Recovers t limit m c [Table.incident m i i.place.stack] (.broken flaw)
  | stopped {m c i stack} : t.run c = .interrupted i → t.recoveredStack i = .ok stack →
      Stops limit m i stack → Recovers t limit m c [Table.incident m i stack] .stopped
  | resumed {m c i stack later ending} : t.run c = .interrupted i →
      t.recoveredStack i = .ok stack → ¬Stops limit m i stack →
      Recovers t limit (Table.remember m (Table.incident m i stack))
        ⟨Table.recoveredCursor i, stack⟩ later ending →
      Recovers t limit m c (Table.incident m i stack :: later) ending

section

variable {t : Table} {limit : Int} {fuel : Nat} {m : Memory} {c : Configuration} {i : Interruption}

theorem recoverWithin_accepted (hr : t.run c = .accepted) :
    t.recoverWithin limit (fuel + 1) m c = ([], .accepted) := by
  rw [Table.recoverWithin, hr]

theorem recoverWithin_flawed {flaw : TableFlaw} (hr : t.run c = .broken flaw) :
    t.recoverWithin limit (fuel + 1) m c = ([], .broken flaw) := by
  rw [Table.recoverWithin, hr]

theorem recoverWithin_lost {flaw : TableFlaw} (hr : t.run c = .interrupted i)
    (hs : t.recoveredStack i = .error flaw) :
    t.recoverWithin limit (fuel + 1) m c =
      ([Table.incident m i i.place.stack], .broken flaw) := by
  rw [Table.recoverWithin, hr]
  simp only [hs]

theorem recoverWithin_stopped {stack : Stack} (hr : t.run c = .interrupted i)
    (hs : t.recoveredStack i = .ok stack) (hstop : Stops limit m i stack) :
    t.recoverWithin limit (fuel + 1) m c = ([Table.incident m i stack], .stopped) := by
  rw [Table.recoverWithin, hr]
  simp only [hs]
  exact if_pos hstop

theorem recoverWithin_resumed {stack : Stack} (hr : t.run c = .interrupted i)
    (hs : t.recoveredStack i = .ok stack) (hgo : ¬Stops limit m i stack) :
    t.recoverWithin limit (fuel + 1) m c =
      (Table.incident m i stack :: (t.recoverWithin limit fuel
          (Table.remember m (Table.incident m i stack)) ⟨Table.recoveredCursor i, stack⟩).1,
        (t.recoverWithin limit fuel
          (Table.remember m (Table.incident m i stack)) ⟨Table.recoveredCursor i, stack⟩).2) := by
  rw [Table.recoverWithin, hr]
  simp only [hs]
  exact if_neg hgo

end

/-- Where recovering goes on, it goes on behind the error. -/
theorem recoveredCursor_leads {i : Interruption} {kinds : List TokenKind} {place : Cursor}
    (h : i.At kinds place) (hn : ¬i.error.isEnd = true) :
    place.LeadsTo kinds (Table.recoveredCursor i) ∧
      place.offset < (Table.recoveredCursor i).offset := by
  rcases h.2 with ⟨_, he⟩ | ⟨_, _, hr⟩
  · exact absurd he hn
  · exact hr

/-- A round that is not the last one leaves a shorter text. -/
theorem resumed_leads {t : Table} {c : Configuration} {i : Interruption}
    (hr : t.run c = .interrupted i) (hn : ¬i.error.isEnd = true) :
    c.cursor.LeadsTo t.kinds (Table.recoveredCursor i) ∧
      (Table.recoveredCursor i).rest.length < c.cursor.rest.length := by
  obtain ⟨place, hp, hat⟩ := run_interrupted_at hr
  obtain ⟨hto, hlt⟩ := recoveredCursor_leads hat hn
  have hlen := (hp.trans hto).rest_length
  have hle := hp.offset_le
  exact ⟨hp.trans hto, by omega⟩

theorem recoverWithin_recovers {t : Table} {limit : Int} {fuel : Nat} {m : Memory}
    {c : Configuration} (hf : c.cursor.rest.length < fuel) :
    Recovers t limit m c (t.recoverWithin limit fuel m c).1 (t.recoverWithin limit fuel m c).2 := by
  induction fuel generalizing m c with
  | zero => omega
  | succ fuel ih =>
    cases hr : t.run c with
    | accepted =>
      rw [recoverWithin_accepted hr]
      exact .accepted hr
    | broken flaw =>
      rw [recoverWithin_flawed hr]
      exact .flawed hr
    | interrupted i =>
      cases hs : t.recoveredStack i with
      | error flaw =>
        rw [recoverWithin_lost hr hs]
        exact .lost hr hs
      | ok stack =>
        by_cases hstop : Stops limit m i stack
        · rw [recoverWithin_stopped hr hs hstop]
          exact .stopped hr hs hstop
        · rw [recoverWithin_resumed hr hs hstop]
          have hlt := (resumed_leads hr fun he => hstop (.inl he)).2
          exact .resumed hr hs hstop (ih (by dsimp only; omega))

/-- The errors of a text are those of the rounds from its beginning, however many there are. -/
theorem recover_recovers (t : Table) (limit : Int) (source : Text) :
    Recovers t limit {} (.start source) (t.recover limit source).1 (t.recover limit source).2 :=
  recoverWithin_recovers (Nat.lt_succ_self _)

/-- An error is met at a place: at the end of the text, or before it with the line and the column of
the place. -/
def Incident.At (e : Incident) (place : Cursor) : Prop :=
  e.offset = place.offset ∧
  ((place.rest = [] ∧ e.error.isEnd = true) ∨
    (place.rest ≠ [] ∧ e.error.line = some ↑place.line ∧ e.error.column = some ↑place.column))

theorem incident_at {i : Interruption} {kinds : List TokenKind} {place : Cursor} (m : Memory)
    (stack : Stack) (h : i.At kinds place) : (Table.incident m i stack).At place := by
  refine ⟨h.1, ?_⟩
  rcases h.2 with he | ⟨hl, hc, hto, hlt⟩
  · exact .inl he
  · refine .inr ⟨?_, hl, hc⟩
    intro hr
    have hlen := hto.rest_length
    rw [hr, List.length_nil] at hlen
    omega

/-- Of two errors, the first one is not the end of the text, and reading leads from it to the other
one. -/
def Incident.Before (kinds : List TokenKind) (c : Cursor) (e later : Incident) : Prop :=
  e.error.isEnd = false ∧ ∃ place place' : Cursor, c.LeadsTo kinds place ∧ e.At place ∧
    place.LeadsTo kinds place' ∧ later.At place' ∧ place.offset < place'.offset

theorem Incident.Before.trans {kinds : List TokenKind} {c d : Cursor} {e later : Incident}
    (h : c.LeadsTo kinds d) (he : Incident.Before kinds d e later) :
    Incident.Before kinds c e later := by
  obtain ⟨hend, place, place', hp, hrest⟩ := he
  exact ⟨hend, place, place', h.trans hp, hrest⟩

theorem Incident.Before.offset_lt {kinds : List TokenKind} {c : Cursor} {e later : Incident}
    (h : Incident.Before kinds c e later) : e.offset < later.offset := by
  obtain ⟨_, place, place', _, hat, _, hat', hlt⟩ := h
  rwa [hat.1, hat'.1]

/-- The rounds from a place on meet errors at places that reading leads to, one behind the
other. -/
theorem Recovers.advance {t : Table} {limit : Int} {m : Memory} {c : Configuration}
    {incidents : List Incident} {ending : Ending} (h : Recovers t limit m c incidents ending) :
    (∀ e ∈ incidents, ∃ place : Cursor, c.cursor.LeadsTo t.kinds place ∧ e.At place) ∧
    incidents.Pairwise (Incident.Before t.kinds c.cursor) := by
  induction h with
  | accepted => simp
  | flawed => simp
  | lost hr =>
    obtain ⟨place, hp, hat⟩ := run_interrupted_at hr
    simpa using ⟨place, hp, incident_at _ _ hat⟩
  | stopped hr =>
    obtain ⟨place, hp, hat⟩ := run_interrupted_at hr
    simpa using ⟨place, hp, incident_at _ _ hat⟩
  | @resumed m c i stack later ending hr _ hgo _ ih =>
    obtain ⟨place, hp, hat⟩ := run_interrupted_at hr
    have hend : ¬i.error.isEnd = true := fun he => hgo (.inl he)
    obtain ⟨hto, hlt⟩ := recoveredCursor_leads hat hend
    have hon := hp.trans hto
    obtain ⟨hall, hpw⟩ := ih
    refine ⟨?_, List.pairwise_cons.mpr ⟨?_, hpw.imp (.trans hon)⟩⟩
    · intro e he
      rcases List.mem_cons.mp he with rfl | he
      · exact ⟨place, hp, incident_at m stack hat⟩
      · obtain ⟨place', hp', hat'⟩ := hall e he
        exact ⟨place', hon.trans hp', hat'⟩
    · intro e he
      obtain ⟨place', hp', hat'⟩ := hall e he
      have hle := hp'.offset_le
      exact ⟨Bool.eq_false_iff.mpr hend, place, place', hp, incident_at m stack hat,
        hto.trans hp', hat', Nat.lt_of_lt_of_le hlt hle⟩

end ParseReport
