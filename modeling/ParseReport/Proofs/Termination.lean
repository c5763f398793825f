import ParseReport.Proofs.Feeding
import ParseReport.Proofs.Recorded
import ParseReport.Proofs.Rounds

/-!
Recovering from errors comes to an end. Whether a character is skipped, a token is dropped or a token
is taken on a smaller stack, the error is behind the parser then.
-/

namespace ParseReport

/-- Feeding one token ends, whatever the token and the stack. -/
def Table.FeedsEnd (t : Table) : Prop :=
  ∀ name s, ∃ fuel, t.feedWithin name fuel s ≠ .broken .endless

theorem Table.FeedsEnd.feed {t : Table} (h : t.FeedsEnd) (name : Name) (s : Stack) :
    t.feed name s ≠ .broken .endless := by
  obtain ⟨fuel, hf⟩ := h name s
  exact feed_ne_endless hf

/-- In the example tables a reduction completes the parse, so one action is enough for a token. -/
theorem pairTable_feedsEnd : pairTable.FeedsEnd := by
  intro name s
  refine ⟨1, ?_⟩
  rw [Table.feedWithin]
  cases ha : pairTable.act name s with
  | rejected => simp
  | shifted => simp
  | broken flaw =>
    intro he
    cases Fed.broken.inj he
    exact act_ne_endless ha
  | reduced after =>
    obtain ⟨origin, count, below, target, hl, _, hg, rfl⟩ := act_reduced_iff.mp ha
    obtain ⟨rfl, hr⟩ | ⟨_, hr, _⟩ := pairTable_lookup hl
    · obtain ⟨rfl, rfl⟩ := Action.reduce.inj hr
      obtain ⟨_, hs⟩ | ⟨_, hs, htarget⟩ := pairTable_lookup hg
      · cases hs
      · cases Action.shift.inj hs
        have hacc : (below.push target).top = pairTable.accepting := htarget rfl
        simp [hacc]
    · cases hr

theorem resumeFrom_ne_endless {t : Table} (h : t.FeedsEnd) (name : Name) (made : Nat)
    (entries : List Entry) : t.resumeFrom name made entries ≠ .error .endless := by
  induction entries with
  | nil => simp [Table.resumeFrom]
  | cons e below ih =>
    rw [Table.resumeFrom]
    split
    next => simp
    next => simp
    next => exact ih
    next flaw hf =>
      intro he
      cases Except.error.inj he
      exact h.feed name _ hf

theorem recoveredStack_ne_endless {t : Table} (h : t.FeedsEnd) (i : Interruption) :
    t.recoveredStack i ≠ .error .endless := by
  unfold Table.recoveredStack
  split
  next => simp
  next name _ =>
    split
    next => simp
    next =>
      have hr := resumeFrom_ne_endless h name i.place.stack.made i.place.stack.entries
      unfold Table.resume?
      cases hs : t.resumeFrom name i.place.stack.made i.place.stack.entries with
      | ok found => simp [Except.map]
      | error flaw =>
        rw [hs] at hr
        simpa [Except.map] using hr

/-- A run reads on until it ends, so a bound of one more than what is left does not cut it short. -/
theorem runWithin_ne_endless {t : Table} (h : t.FeedsEnd) {fuel : Nat} {c : Configuration}
    (hf : c.cursor.rest.length < fuel) :
    t.runWithin fuel c ≠ .broken .endless := by
  induction fuel generalizing c with
  | zero => omega
  | succ fuel ih =>
    rw [Table.runWithin]
    cases hs : t.step c with
    | advanced next =>
      have hlt := step_advanced_shortens hs
      exact ih (by omega)
    | accepted => simp
    | interrupted i => simp
    | broken flaw =>
      intro he
      cases Halt.broken.inj he
      obtain ⟨name, hb⟩ := step_broken hs
      exact h.feed name c.stack hb

theorem Recovers.ne_endless {t : Table} (h : t.FeedsEnd) {limit : Int} {m : Memory}
    {c : Configuration} {incidents : List Incident} {ending : Ending}
    (hr : Recovers t limit m c incidents ending) : ending ≠ .broken .endless := by
  induction hr with
  | accepted => simp
  | stopped => simp
  | flawed hr =>
    intro he
    cases Ending.broken.inj he
    exact runWithin_ne_endless h (Nat.lt_succ_self _) hr
  | lost _ hs =>
    intro he
    cases Ending.broken.inj he
    exact recoveredStack_ne_endless h _ hs
  | resumed _ _ _ _ ih => exact ih

theorem length_le_of_increasing {xs : List Nat} {n : Nat} (hs : xs.Pairwise (· < ·))
    (hn : ∀ x ∈ xs, x ≤ n) : xs.length ≤ n + 1 :=
  length_le_of_nodup (hs.imp Nat.ne_of_lt) fun x hx => Nat.lt_succ_of_le (hn x hx)

/-- If feeding one token always ends, so does recovering. The rounds need no bound; each error is
met behind the one before it; all but the last one begin before the end of the text and are not
errors of the end, which is thus the last one if it is met at all; and there are at most as many
errors as the text has code points, and one. -/
theorem recovery_ends (t : Table) (h : t.FeedsEnd) (limit : Int) (source : Text) :
    Recovers t limit {} (.start source) (t.recover limit source).1 (t.recover limit source).2 ∧
    (t.recover limit source).2 ≠ .broken .endless ∧
    ((t.recover limit source).1.map Incident.offset).Pairwise (· < ·) ∧
    (∀ e ∈ (t.recover limit source).1.dropLast,
      e.offset < source.length ∧ e.error.isEnd = false) ∧
    (∀ e ∈ (t.recover limit source).1, e.offset ≤ source.length) ∧
    (t.recover limit source).1.length ≤ source.length + 1 := by
  have hr := recover_recovers t limit source
  obtain ⟨hat, hpw⟩ := hr.advance
  have hle : ∀ e ∈ (t.recover limit source).1, e.offset ≤ source.length := by
    intro e he
    obtain ⟨place, hp, ho, _⟩ := hat e he
    have hlen := hp.start_length
    omega
  have hoff : ((t.recover limit source).1.map Incident.offset).Pairwise (· < ·) :=
    List.pairwise_map.mpr (hpw.imp Incident.Before.offset_lt)
  refine ⟨hr, hr.ne_endless h, hoff, ?_, hle, ?_⟩
  · intro e he
    obtain ⟨last, hl⟩ : ∃ last, (t.recover limit source).1.getLast? = some last := by
      cases hlast : (t.recover limit source).1.getLast? with
      | none => simp [List.getLast?_eq_none_iff.mp hlast] at he
      | some last => exact ⟨last, rfl⟩
    obtain ⟨first, hf⟩ := List.getLast?_eq_some_iff.mp hl
    rw [hf, List.dropLast_concat] at he
    rw [hf] at hpw
    have hbefore := (List.pairwise_append.mp hpw).2.2 e he last (by simp)
    exact ⟨Nat.lt_of_lt_of_le hbefore.offset_lt (hle last (List.mem_of_getLast? hl)), hbefore.1⟩
  · have := length_le_of_increasing hoff (by simpa using hle)
    rwa [List.length_map] at this

/-- In `b\ra` the end is the third error; the second one, at the carriage return, is a cascade. -/
theorem recovery_ends_pairs :
    pairTable.FeedsEnd ∧
    (pairTable.recover 5 ['b', '\r', 'a']).1.map Incident.offset = [0, 1, 3] ∧
    (pairTable.recover 5 ['b', '\r', 'a']).2 ≠ .broken .endless ∧
    (pairTable.recover 5 ['b', '\r', 'a']).1.length ≤ ['b', '\r', 'a'].length + 1 := by
  obtain ⟨_, hend, _, _, _, hlen⟩ := recovery_ends pairTable pairTable_feedsEnd 5 ['b', '\r', 'a']
  exact ⟨pairTable_feedsEnd, rfl, hend, hlen⟩

end ParseReport
