import Mathlib.Data.List.Infix
import ParseReport.Proofs.Recorded
import ParseReport.Proofs.Rounds

/-!
What a limit on the number of errors does: the rounds for two limits go the same way until the
smaller one is reached, so a smaller limit records a beginning of what a larger one records.
-/

namespace ParseReport

section

variable {t : Table} {fewer more : Int} {fuel : Nat} {m : Memory} {c : Configuration}

theorem Stops.mono {i : Interruption} {stack : Stack} (h : Stops more m i stack)
    (hle : fewer ≤ more) : Stops fewer m i stack := by
  rcases h with he | hl
  · exact .inl he
  · exact .inr (Int.le_trans hle hl)

/-- While a limit is not reached, it is reached by recording one error or not at all. -/
theorem recorded_of_reached {e : Incident} (hm : m.recorded < fewer)
    (h : fewer ≤ (Table.remember m e).recorded) :
    e.recorded = true ∧ fewer = m.recorded + 1 := by
  unfold Table.remember at h
  dsimp only at h
  split at h
  next hr => exact ⟨hr, by omega⟩
  next => omega

theorem take_filter_singleton (e : Incident) (n : Nat) :
    ([e].filter Incident.recorded).take (n + 1) = [e].filter Incident.recorded := by
  apply List.take_of_length_le
  have := List.length_filter_le Incident.recorded [e]
  rw [List.length_singleton] at this
  omega

/-- With a smaller limit the rounds record the beginning of what they record with a larger one, as
many errors as are still free. -/
theorem recoverWithin_take (hle : fewer ≤ more) (hm : m.recorded < fewer) :
    (t.recoverWithin fewer fuel m c).1.filter Incident.recorded =
      ((t.recoverWithin more fuel m c).1.filter Incident.recorded).take
        (fewer - m.recorded).toNat := by
  induction fuel generalizing m c with
  | zero => simp [Table.recoverWithin]
  | succ fuel ih =>
    obtain ⟨free, hfree⟩ : ∃ free, (fewer - m.recorded).toNat = free + 1 :=
      ⟨(fewer - m.recorded).toNat - 1, by omega⟩
    rw [hfree]
    cases hr : t.run c with
    | accepted => rw [recoverWithin_accepted hr, recoverWithin_accepted hr]; rfl
    | broken flaw => rw [recoverWithin_flawed hr, recoverWithin_flawed hr]; rfl
    | interrupted i =>
      cases hs : t.recoveredStack i with
      | error flaw =>
        rw [recoverWithin_lost hr hs, recoverWithin_lost hr hs]
        exact (take_filter_singleton _ free).symm
      | ok stack =>
        by_cases hstop : Stops fewer m i stack
        · rw [recoverWithin_stopped hr hs hstop]
          by_cases hstop' : Stops more m i stack
          · rw [recoverWithin_stopped hr hs hstop']
            exact (take_filter_singleton _ free).symm
          · -- the smaller limit is reached just now, by an error that is recorded
            have hl := hstop.resolve_left fun he => hstop' (.inl he)
            obtain ⟨hrec, hone⟩ := recorded_of_reached hm hl
            have hz : free = 0 := by omega
            rw [recoverWithin_resumed hr hs hstop', hz]
            simp [hrec]
        · -- both go on, from the same configuration and with the same memory
          have hstop' : ¬Stops more m i stack := fun h => hstop (h.mono hle)
          have hm' : (Table.remember m (Table.incident m i stack)).recorded < fewer := by
            have : ¬fewer ≤ (Table.remember m (Table.incident m i stack)).recorded :=
              fun h => hstop (.inr h)
            omega
          rw [recoverWithin_resumed hr hs hstop, recoverWithin_resumed hr hs hstop']
          simp only [List.filter_cons, ih hm']
          split
          next hrec =>
            have hc : (Table.remember m (Table.incident m i stack)).recorded = m.recorded + 1 :=
              if_pos hrec
            rw [List.take_succ_cons, hc]
            congr 2
            omega
          next hrec =>
            have hc : (Table.remember m (Table.incident m i stack)).recorded = m.recorded :=
              if_neg hrec
            rw [hc, hfree]

theorem recoverWithin_eq_of_broken {flaw : TableFlaw} (hle : fewer ≤ more)
    (h : (t.recoverWithin fewer fuel m c).2 = .broken flaw) :
    (t.recoverWithin more fuel m c).2 = .broken flaw := by
  induction fuel generalizing m c with
  | zero => exact h
  | succ fuel ih =>
    cases hr : t.run c with
    | accepted => rw [recoverWithin_accepted hr] at h; cases h
    | broken flaw' =>
      rw [recoverWithin_flawed hr] at h ⊢
      exact h
    | interrupted i =>
      cases hs : t.recoveredStack i with
      | error flaw' =>
        rw [recoverWithin_lost hr hs] at h ⊢
        exact h
      | ok stack =>
        by_cases hstop : Stops fewer m i stack
        · rw [recoverWithin_stopped hr hs hstop] at h
          cases h
        · have hstop' : ¬Stops more m i stack := fun h => hstop (h.mono hle)
          rw [recoverWithin_resumed hr hs hstop] at h
          rw [recoverWithin_resumed hr hs hstop']
          exact ih h

end

/-- A limit below one is reached by the first error, which is always recorded. -/
theorem recover_of_le_one (t : Table) (source : Text) {limit : Int} (h : limit ≤ 1) :
    t.recover limit source = t.recover 1 source := by
  have hstop : ∀ {limit : Int} {i stack}, limit ≤ 1 → Stops limit {} i stack := fun hl => .inr hl
  unfold Table.recover
  cases hr : t.run (.start source) with
  | accepted => rw [recoverWithin_accepted hr, recoverWithin_accepted hr]
  | broken flaw => rw [recoverWithin_flawed hr, recoverWithin_flawed hr]
  | interrupted i =>
    cases hs : t.recoveredStack i with
    | error flaw => rw [recoverWithin_lost hr hs, recoverWithin_lost hr hs]
    | ok stack =>
      rw [recoverWithin_stopped hr hs (hstop h), recoverWithin_stopped hr hs (hstop (Int.le_refl 1))]

theorem recorded_take (t : Table) (source : Text) {fewer more : Int} (hpos : 1 ≤ fewer)
    (hle : fewer ≤ more) :
    t.recorded fewer source = (t.recorded more source).take fewer.toNat := by
  have h := @recoverWithin_take t fewer more (source.length + 1) {} (.start source) hle hpos
  simpa [Table.recorded, Table.recover] using h

theorem recorded_length_le (t : Table) (source : Text) {limit : Int} (hpos : 1 ≤ limit) :
    (t.recorded limit source).length ≤ limit := by
  have h := congrArg List.length (recorded_take t source hpos (Int.le_refl limit))
  rw [List.length_take] at h
  omega

theorem failures_prefix {t : Table} {v : Vocabulary} {source : Text} {fewer more : Int}
    {failures : List Failure} (hpos : 1 ≤ fewer) (hle : fewer ≤ more)
    (h : (Grammar.mk v (.table t)).failures more source = .ok failures) :
    ∃ first, (Grammar.mk v (.table t)).failures fewer source = .ok first ∧ first <+: failures := by
  obtain ⟨hsound, hall⟩ := failures_eq_ok_iff.mp h
  refine ⟨_, failures_eq_ok_iff.mpr ⟨fun flaw hb => ?_, rfl⟩, ?_⟩
  · exact hsound flaw (recoverWithin_eq_of_broken hle hb)
  · rw [← hall, recorded_take t source hpos hle]
    exact (List.take_prefix _ _).flatMap _

/-- A limit cuts the errors of a text short and changes nothing else: with a limit of at least one
the recorded errors are the first ones of those for any larger limit, and so are the failures; a
limit below one is a limit of one; and no limit is exceeded. -/
theorem limit_cuts_recorded (t : Table) (v : Vocabulary) (source : Text) :
    (∀ fewer more : Int, 1 ≤ fewer → fewer ≤ more →
      t.recorded fewer source = (t.recorded more source).take
        (min fewer.toNat (t.recorded more source).length) ∧
      ∀ failures, (Grammar.mk v (.table t)).failures more source = .ok failures →
        ∃ first, (Grammar.mk v (.table t)).failures fewer source = .ok first ∧
          first <+: failures) ∧
    (∀ limit : Int, limit < 1 → t.recover limit source = t.recover 1 source) ∧
    ∀ limit : Int, (t.recorded limit source).length ≤ max 1 limit := by
  refine ⟨?_, fun limit h => recover_of_le_one t source (Int.le_of_lt h), ?_⟩
  · intro fewer more hpos hle
    refine ⟨?_, fun failures h => failures_prefix hpos hle h⟩
    rw [recorded_take t source hpos hle]
    exact List.take_eq_take_min
  · intro limit
    rcases Int.le_total 1 limit with hpos | hneg
    · have := recorded_length_le t source hpos
      omega
    · have := recorded_length_le t source (Int.le_refl 1)
      unfold Table.recorded at this ⊢
      rw [recover_of_le_one t source hneg]
      omega

/-- In `b\ra` the letters stand the wrong way round, and a limit of one keeps the first error. -/
theorem limit_cuts_pairs :
    (1 : Int) ≤ 1 ∧ (1 : Int) ≤ 5 ∧
    pairTable.recorded 1 ['b', '\r', 'a'] =
      (pairTable.recorded 5 ['b', '\r', 'a']).take (min 1 2) ∧
    ∃ failures, (Grammar.mk {} (.table pairTable)).failures 5 ['b', '\r', 'a'] = .ok failures ∧
      ∃ first, (Grammar.mk {} (.table pairTable)).failures 1 ['b', '\r', 'a'] = .ok first ∧
        first <+: failures := by
  obtain ⟨htake, hall⟩ := (limit_cuts_recorded pairTable {} ['b', '\r', 'a']).1 1 5
    (by decide) (by decide)
  exact ⟨by decide, by decide, htake, _, rfl, hall _ rfl⟩

end ParseReport
