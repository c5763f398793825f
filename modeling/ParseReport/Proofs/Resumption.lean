import ParseReport.Proofs.Histories
import ParseReport.Proofs.Recorded
import ParseReport.Proofs.TwoStacks

/-!
Resuming at a rejected token. The lower parts of the stack are tried from the highest down, and the
stack becomes what the token makes of the first part that takes it; without such a part it stays as
it is.
-/

namespace ParseReport

namespace Table

variable (t : Table)

/-- Feeding a token to a stack succeeds and leaves another stack. -/
def Takes (name : Name) (s after : Stack) : Prop :=
  t.feed name s = .shifted after ∨ t.feed name s = .accepted after

/-- Feeding a token to a stack ends in a state that does not know the token. -/
def Rejects (name : Name) (s : Stack) : Prop :=
  ∃ after, t.feed name s = .rejected after

/-- The lower part of a stack up to a depth takes a token, and every higher one but the whole stack
rejects it. -/
structure ResumesAt (name : Name) (s : Stack) (depth : Nat) (after : Stack) : Prop where
  pos : 0 < depth
  proper : depth < s.height
  takes : t.Takes name (s.cut depth) after
  longest : ∀ longer, depth < longer → longer < s.height → t.Rejects name (s.cut longer)

/-- Whether a rejected token is fed to a lower part of a stack, and the stack then. -/
def resynchronize (name : Name) (s : Stack) : Except TableFlaw (Bool × Stack) :=
  (t.resume? name s).map fun found => (found.isSome, found.getD s)

/-- What the search for a part that takes a token can come to. -/
inductive Searches (name : Name) (s : Stack) : Except TableFlaw (Option Stack) → Prop
  | found {depth after} : t.ResumesAt name s depth after → Searches name s (.ok (some after))
  | exhausted : (∀ depth, 0 < depth → depth < s.height → t.Rejects name (s.cut depth)) →
      Searches name s (.ok none)
  | broken {depth flaw} : 0 < depth → depth < s.height →
      t.feed name (s.cut depth) = .broken flaw →
      (∀ longer, depth < longer → longer < s.height → t.Rejects name (s.cut longer)) →
      Searches name s (.error flaw)

end Table

section

variable {t : Table} {name : Name} {s after : Stack} {e : Entry} {below : List Entry}
  {made depth : Nat}

theorem cut_below : (Stack.mk (e :: below) made).cut (Stack.mk below made).height =
    ⟨below, made⟩ := by
  simp [Stack.cut, Stack.height]

theorem cut_cons (h : depth < (Stack.mk below made).height) :
    (Stack.mk (e :: below) made).cut depth = (Stack.mk below made).cut depth := by
  have hs : (Stack.mk (e :: below) made).height - depth =
      (Stack.mk below made).height - depth + 1 := by
    simp only [Stack.height, List.length_cons] at h ⊢
    omega
  rw [Stack.cut, hs]
  rfl

/-- If the stack below the topmost entry rejects a token, the search goes on as on that stack. -/
theorem rejects_above (hr : t.Rejects name ⟨below, made⟩)
    (hl : ∀ longer, depth < longer → longer < (Stack.mk below made).height →
      t.Rejects name ((Stack.mk below made).cut longer)) :
    ∀ longer, depth < longer → longer < (Stack.mk (e :: below) made).height →
      t.Rejects name ((Stack.mk (e :: below) made).cut longer) := by
  intro longer hd hlt
  have hle : longer ≤ (Stack.mk below made).height := Nat.le_of_lt_succ hlt
  rcases Nat.lt_or_eq_of_le hle with h | rfl
  · rw [cut_cons h]
    exact hl longer hd h
  · rw [cut_below]
    exact hr

theorem Table.Searches.cons {result : Except TableFlaw (Option Stack)}
    (hr : t.Rejects name ⟨below, made⟩) (h : t.Searches name ⟨below, made⟩ result) :
    t.Searches name ⟨e :: below, made⟩ result := by
  cases h with
  | found h =>
    refine .found ⟨h.pos, Nat.lt_succ_of_lt h.proper, ?_, rejects_above hr h.longest⟩
    rw [cut_cons h.proper]
    exact h.takes
  | exhausted h => exact .exhausted (rejects_above hr h)
  | broken hpos hlt hf hl =>
    refine .broken hpos (Nat.lt_succ_of_lt hlt) ?_ (rejects_above hr hl)
    rw [cut_cons hlt]
    exact hf

theorem resumeFrom_searches (t : Table) (name : Name) (made : Nat) (entries : List Entry) :
    t.Searches name ⟨entries, made⟩ (t.resumeFrom name made entries) := by
  induction entries with
  | nil =>
    apply Table.Searches.exhausted
    intro depth hpos hlt
    have hone : depth < 1 := hlt
    omega
  | cons e below ih =>
    have hpos : 0 < (Stack.mk below made).height := Nat.succ_pos _
    have hlt : (Stack.mk below made).height < (Stack.mk (e :: below) made).height :=
      Nat.lt_succ_self _
    have hnone : ∀ longer, (Stack.mk below made).height < longer →
        longer < (Stack.mk (e :: below) made).height →
        t.Rejects name ((Stack.mk (e :: below) made).cut longer) := by
      intro longer hd hl
      exact absurd (Nat.le_of_lt_succ hl) (Nat.not_le_of_lt hd)
    rw [Table.resumeFrom]
    split
    next after hf => exact .found ⟨hpos, hlt, by rw [cut_below]; exact .inl hf, hnone⟩
    next after hf => exact .found ⟨hpos, hlt, by rw [cut_below]; exact .inr hf, hnone⟩
    next after hf => exact ih.cons ⟨after, hf⟩
    next flaw hf => exact .broken hpos hlt (by rw [cut_below]; exact hf) hnone

theorem resume?_searches (t : Table) (name : Name) (s : Stack) :
    t.Searches name s (t.resume? name s) :=
  resumeFrom_searches t name s.made s.entries

theorem Table.Takes.not_rejects (h : t.Takes name s after) : ¬t.Rejects name s := by
  rintro ⟨other, hr⟩
  rcases h with h | h
  · cases h.symm.trans hr
  · cases h.symm.trans hr

theorem Table.ResumesAt.unique {depth' : Nat} {after' : Stack}
    (h : t.ResumesAt name s depth after) (h' : t.ResumesAt name s depth' after') :
    depth = depth' ∧ after = after' := by
  have hd : depth = depth' := by
    rcases Nat.lt_trichotomy depth depth' with hlt | he | hlt
    · exact absurd (h.longest depth' hlt h'.proper) h'.takes.not_rejects
    · exact he
    · exact absurd (h'.longest depth hlt h.proper) h.takes.not_rejects
  subst hd
  refine ⟨rfl, ?_⟩
  rcases h.takes with hf | hf <;> rcases h'.takes with hf' | hf'
  · exact Fed.shifted.inj (hf.symm.trans hf')
  · cases hf.symm.trans hf'
  · cases hf.symm.trans hf'
  · exact Fed.accepted.inj (hf.symm.trans hf')

theorem feedWithin_shifted {fuel : Nat} (h : t.feedWithin name fuel s = .shifted after) :
    ∃ before history target, Performs t s history before ∧
      (t.actions before.top).lookup name = some (.shift target) ∧ after = before.push target := by
  induction fuel generalizing s with
  | zero => cases h
  | succ fuel ih =>
    rw [Table.feedWithin] at h
    cases ha : t.act name s with
    | rejected => rw [ha] at h; cases h
    | broken flaw => rw [ha] at h; cases h
    | shifted next =>
      rw [ha] at h
      cases Fed.shifted.inj h
      obtain ⟨target, hl, he⟩ := act_shifted_iff.mp ha
      exact ⟨s, [], target, .none, hl, he⟩
    | reduced next =>
      simp only [ha] at h
      split at h
      next => cases h
      next =>
        obtain ⟨before, history, target, hp, hl, he⟩ := ih h
        exact ⟨before, next :: history, target, .more (.reduce ha) hp, hl, he⟩

/-- The end of the text is accepted by the reduction that comes to the accepting state. -/
theorem feedWithin_accepted {fuel : Nat} (h : t.feedWithin name fuel s = .accepted after) :
    name = endName ∧ after.top = t.accepting ∧
      ∃ before history, Performs t s history before ∧ t.act name before = .reduced after := by
  induction fuel generalizing s with
  | zero => cases h
  | succ fuel ih =>
    rw [Table.feedWithin] at h
    cases ha : t.act name s with
    | rejected => rw [ha] at h; cases h
    | broken flaw => rw [ha] at h; cases h
    | shifted next => rw [ha] at h; cases h
    | reduced next =>
      simp only [ha] at h
      split at h
      next hc =>
        cases Fed.accepted.inj h
        exact ⟨hc.1, hc.2, s, [], .none, ha⟩
      next =>
        obtain ⟨hname, htop, before, history, hp, hr⟩ := ih h
        exact ⟨hname, htop, before, next :: history, .more (.reduce ha) hp, hr⟩

/-- Actions leave a lower part of the stack as it was, and all that is above it is new. -/
theorem Performs.keeps {history : List Stack} (h : Performs t s history after) :
    ∃ new dropped, after.entries = new ++ s.entries.drop dropped ∧ ∀ e ∈ new, s.made ≤ e.value := by
  induction h with
  | none => exact ⟨[], 0, rfl, by simp⟩
  | @more s next history last hn _ ih =>
    obtain ⟨count, target, rfl⟩ := hn.shape
    obtain ⟨new, dropped, he, hv⟩ := ih
    have hnew : ∀ e ∈ new, s.made ≤ e.value := fun e hm => Nat.le_of_succ_le (hv e hm)
    cases dropped with
    | zero =>
      refine ⟨new ++ [⟨target, s.made⟩], count, by simpa using he, ?_⟩
      intro e hm
      rcases List.mem_append.mp hm with hm | hm
      · exact hnew e hm
      · rw [List.mem_singleton.mp hm]
    | succ dropped =>
      refine ⟨new, count + dropped, ?_, hnew⟩
      rw [he, List.drop_succ_cons, List.drop_drop]

/-- Up to a height the states and the values are those of other stacks, and above it all values are
newer than those. -/
structure Stacks.KeepsBelow (earlier later : Stacks) (height : Nat) : Prop where
  pos : 0 < height
  states : later.states.take height = earlier.states.take height
  values : later.values.take (height - 1) = earlier.values.take (height - 1)
  newer : ∀ value ∈ later.values.drop (height - 1), earlier.made ≤ value

theorem keepsBelow_of_entries {new : List Entry} {dropped : Nat}
    (he : after.entries = new ++ s.entries.drop dropped) (hv : ∀ e ∈ new, s.made ≤ e.value) :
    s.stacks.KeepsBelow after.stacks (s.entries.length - dropped + 1) := by
  have hstates : after.stacks.states =
      (s.stacks.states.take (s.entries.length - dropped + 1)) ++ (new.map Entry.state).reverse := by
    simp [Stack.stacks, he, List.reverse_drop]
  have hvalues : after.stacks.values =
      (s.stacks.values.take (s.entries.length - dropped)) ++ (new.map Entry.value).reverse := by
    simp [Stack.stacks, he, List.reverse_drop]
  have hlen : (s.stacks.values.take (s.entries.length - dropped)).length =
      s.entries.length - dropped := by
    simp [Stack.stacks]
  have hlen' : (s.stacks.states.take (s.entries.length - dropped + 1)).length =
      s.entries.length - dropped + 1 := by
    simp [Stack.stacks]
  refine ⟨Nat.succ_pos _, ?_, ?_, ?_⟩
  · rw [hstates, List.take_left' hlen']
  · rw [Nat.add_sub_cancel, hvalues, List.take_left' hlen]
  · rw [Nat.add_sub_cancel, hvalues, List.drop_left' hlen]
    intro value hm
    obtain ⟨e, hnew, rfl⟩ := List.mem_map.mp (List.mem_reverse.mp hm)
    exact hv e hnew

theorem Table.Takes.performs (h : t.Takes name s after) :
    Performs t s (t.feedHistory name s) after := by
  apply feed_performs
  rcases h with h | h
  · rw [h]; rfl
  · rw [h]; rfl

theorem Table.ResumesAt.keepsBelow (h : t.ResumesAt name s depth after) :
    ∃ kept, kept ≤ depth ∧ s.stacks.KeepsBelow after.stacks kept := by
  obtain ⟨new, dropped, he, hv⟩ := h.takes.performs.keeps
  have he' : after.entries = new ++ s.entries.drop (s.height - depth + dropped) := by
    rw [he, Stack.cut, List.drop_drop]
  refine ⟨_, ?_, keepsBelow_of_entries he' hv⟩
  have hpos := h.pos
  have hlt := h.proper
  unfold Stack.height at hlt ⊢
  omega

theorem resynchronize_eq_iff {resumed : Bool} :
    t.resynchronize name s = .ok (resumed, after) ↔
      ∃ found, t.resume? name s = .ok found ∧ found.isSome = resumed ∧ found.getD s = after := by
  unfold Table.resynchronize
  cases t.resume? name s with
  | error flaw => simp [Except.map]
  | ok found => simp [Except.map]

theorem resynchronize_true_iff :
    t.resynchronize name s = .ok (true, after) ↔ ∃ depth, t.ResumesAt name s depth after := by
  have hs := resume?_searches t name s
  rw [resynchronize_eq_iff]
  constructor
  · rintro ⟨found, hf, hsome, rfl⟩
    rw [hf] at hs
    cases hs with
    | found h => exact ⟨_, h⟩
    | exhausted h => cases hsome
  · rintro ⟨depth, h⟩
    generalize t.resume? name s = result at hs
    cases hs with
    | found h' => exact ⟨_, rfl, rfl, (h'.unique h).2⟩
    | exhausted hr => exact absurd (hr depth h.pos h.proper) h.takes.not_rejects
    | @broken depth' flaw hpos hlt hf hl =>
      -- the part whose feeding breaks would be another one than those that take or reject
      rcases Nat.lt_trichotomy depth depth' with hd | rfl | hd
      · obtain ⟨other, hr⟩ := h.longest depth' hd hlt
        cases hf.symm.trans hr
      · rcases h.takes with ht | ht
        · cases hf.symm.trans ht
        · cases hf.symm.trans ht
      · exact absurd (hl depth hd h.proper) h.takes.not_rejects

theorem resynchronize_false_iff :
    t.resynchronize name s = .ok (false, after) ↔
      after = s ∧ ∀ depth, 0 < depth → depth < s.height → t.Rejects name (s.cut depth) := by
  have hs := resume?_searches t name s
  rw [resynchronize_eq_iff]
  constructor
  · rintro ⟨found, hf, hsome, rfl⟩
    rw [hf] at hs
    cases hs with
    | found h => cases hsome
    | exhausted h => exact ⟨rfl, h⟩
  · rintro ⟨rfl, hr⟩
    generalize t.resume? name after = result at hs
    cases hs with
    | found h => exact absurd (hr _ h.pos h.proper) h.takes.not_rejects
    | exhausted => exact ⟨none, rfl, rfl, rfl⟩
    | @broken depth flaw hpos hlt hf hl =>
      obtain ⟨other, hr⟩ := hr depth hpos hlt
      cases hf.symm.trans hr

/-- Unless feeding some part breaks, the search ends with a part that takes the token or without. -/
theorem resynchronize_ends
    (h : ∀ depth flaw, 0 < depth → depth < s.height → t.feed name (s.cut depth) ≠ .broken flaw) :
    ∃ resumed after, t.resynchronize name s = .ok (resumed, after) ∧
      (resumed = true ↔
        ∃ depth taken, 0 < depth ∧ depth < s.height ∧ t.Takes name (s.cut depth) taken) := by
  have hs := resume?_searches t name s
  cases hr : t.resume? name s with
  | error flaw =>
    rw [hr] at hs
    cases hs with
    | broken hpos hlt hf => exact absurd hf (h _ flaw hpos hlt)
  | ok found =>
    refine ⟨found.isSome, found.getD s, resynchronize_eq_iff.mpr ⟨found, hr, rfl, rfl⟩, ?_⟩
    rw [hr] at hs
    cases hs with
    | @found depth after ht => simpa using ⟨depth, ht.pos, ht.proper, after, ht.takes⟩
    | exhausted hall =>
      simp only [Option.isSome_none, Bool.false_eq_true, false_iff]
      rintro ⟨depth, taken, hpos, hlt, ht⟩
      exact ht.not_rejects (hall depth hpos hlt)

end

/-- A rejected token is fed to the highest proper part of the stack that takes it, one with as many
states as the depth and one value less, while every higher one rejects it. Then the token is on top
of what its reductions make of that part, or it is the end of the text, which is accepted with the
last reduction; and all that the reductions do not pop is still there below. The stack is left as it
is exactly if every part rejects the token. If feeding breaks on no part, as with sound tables, the
token is fed exactly if some part takes it. -/
theorem resynchronize_longest (t : Table) (name : Name) (s : Stack) :
    (∀ after, t.resynchronize name s = .ok (true, after) ↔
      ∃ depth, t.ResumesAt name s depth after) ∧
    (∀ after, t.resynchronize name s = .ok (false, after) ↔
      after = s ∧ ∀ depth, 0 < depth → depth < s.height → t.Rejects name (s.cut depth)) ∧
    ((∀ depth flaw, 0 < depth → depth < s.height → t.feed name (s.cut depth) ≠ .broken flaw) →
      ∃ resumed after, t.resynchronize name s = .ok (resumed, after) ∧
        (resumed = true ↔
          ∃ depth taken, 0 < depth ∧ depth < s.height ∧ t.Takes name (s.cut depth) taken)) ∧
    ∀ depth after, t.ResumesAt name s depth after →
      (s.cut depth).stacks = s.stacks.cut depth ∧
      ((∃ before history target, Performs t (s.cut depth) history before ∧
          (t.actions before.top).lookup name = some (.shift target) ∧
          after.stacks = before.stacks.push target) ∨
        name = endName ∧ after.top = t.accepting ∧
          ∃ before history, Performs t (s.cut depth) history before ∧
            t.act name before = .reduced after) ∧
      ∃ kept, kept ≤ depth ∧ s.stacks.KeepsBelow after.stacks kept := by
  refine ⟨fun after => resynchronize_true_iff, fun after => resynchronize_false_iff,
    resynchronize_ends, ?_⟩
  intro depth after h
  refine ⟨stacks_cut h.pos (Nat.le_of_lt h.proper), ?_, h.keepsBelow⟩
  rcases h.takes with hf | hf
  · obtain ⟨before, history, target, hp, hl, rfl⟩ := feedWithin_shifted hf
    exact .inl ⟨before, history, target, hp, hl, stacks_push before target⟩
  · exact .inr (feedWithin_accepted hf)

/-- Behind `ab` another `a` is rejected with both letters on the stack and with the first one, and
taken by the start state alone. -/
theorem resynchronize_pairs :
    (∀ depth flaw, 0 < depth → depth < (Stack.mk [⟨2, 1⟩, ⟨1, 0⟩] 2).height →
      pairTable.feed "A".toList ((Stack.mk [⟨2, 1⟩, ⟨1, 0⟩] 2).cut depth) ≠ .broken flaw) ∧
    (∃ resumed after, pairTable.resynchronize "A".toList ⟨[⟨2, 1⟩, ⟨1, 0⟩], 2⟩ =
      .ok (resumed, after) ∧ (resumed = true ↔ ∃ depth taken, 0 < depth ∧ depth < 3 ∧
        pairTable.Takes "A".toList ((Stack.mk [⟨2, 1⟩, ⟨1, 0⟩] 2).cut depth) taken)) ∧
    ∃ depth, pairTable.ResumesAt "A".toList ⟨[⟨2, 1⟩, ⟨1, 0⟩], 2⟩ depth ⟨[⟨1, 2⟩], 3⟩ ∧
      ∃ kept, kept ≤ depth ∧
        (Stack.mk [⟨2, 1⟩, ⟨1, 0⟩] 2).stacks.KeepsBelow (Stack.mk [⟨1, 2⟩] 3).stacks kept := by
  obtain ⟨htrue, _, hends, hshape⟩ :=
    resynchronize_longest pairTable "A".toList ⟨[⟨2, 1⟩, ⟨1, 0⟩], 2⟩
  have hfeeds : ∀ depth flaw, 0 < depth → depth < (Stack.mk [⟨2, 1⟩, ⟨1, 0⟩] 2).height →
      pairTable.feed "A".toList ((Stack.mk [⟨2, 1⟩, ⟨1, 0⟩] 2).cut depth) ≠ .broken flaw := by
    intro depth flaw hpos hlt
    have hthree : depth < 3 := hlt
    have hcases : depth = 1 ∨ depth = 2 := by omega
    rcases hcases with rfl | rfl
    · rw [show pairTable.feed "A".toList ((Stack.mk [⟨2, 1⟩, ⟨1, 0⟩] 2).cut 1) =
        .shifted ⟨[⟨1, 2⟩], 3⟩ from rfl]
      exact Fed.noConfusion
    · rw [show pairTable.feed "A".toList ((Stack.mk [⟨2, 1⟩, ⟨1, 0⟩] 2).cut 2) =
        .rejected ⟨[⟨1, 0⟩], 2⟩ from rfl]
      exact Fed.noConfusion
  obtain ⟨depth, hd⟩ := (htrue ⟨[⟨1, 2⟩], 3⟩).mp rfl
  exact ⟨hfeeds, hends hfeeds, depth, hd, (hshape depth _ hd).2.2⟩

/-- Tables for any number of times `;:`. -/
def repeatedTable : Table where
  states := [
    ⟨[(endName, .reduce "start".toList 0), ("SEMICOLON".toList, .shift 1),
      ("items".toList, .shift 2), ("start".toList, .shift 3)],
      ⟨[.ofText "SEMICOLON".toList [';']], []⟩⟩,
    ⟨[("COLON".toList, .shift 4)], ⟨[.ofText "COLON".toList [':']], []⟩⟩,
    ⟨[(endName, .reduce "start".toList 1), ("SEMICOLON".toList, .shift 5)],
      ⟨[.ofText "SEMICOLON".toList [';']], []⟩⟩,
    ⟨[], ⟨[], []⟩⟩,
    ⟨[(endName, .reduce "items".toList 2), ("SEMICOLON".toList, .reduce "items".toList 2)],
      ⟨[.ofText "SEMICOLON".toList [';']], []⟩⟩,
    ⟨[("COLON".toList, .shift 6)], ⟨[.ofText "COLON".toList [':']], []⟩⟩,
    ⟨[(endName, .reduce "items".toList 3), ("SEMICOLON".toList, .reduce "items".toList 3)],
      ⟨[.ofText "SEMICOLON".toList [';']], []⟩⟩]
  accepting := 3
  root := ⟨[.ofText "COLON".toList [':'], .ofText "SEMICOLON".toList [';']], []⟩
  ignored := []

/-- Behind `;` the end of the text is taken by the start state, and no state shifts it, so its own
value is never on top. On states that do not belong on one another, feeding a token can break on a
part above one that takes it. -/
theorem resynchronize_end_reduced :
    (repeatedTable.resynchronize endName ⟨[⟨1, 0⟩], 1⟩ = .ok (true, ⟨[⟨3, 1⟩], 2⟩) ∧
      ∀ state target, (repeatedTable.actions state).lookup endName ≠ some (.shift target)) ∧
    repeatedTable.Takes "SEMICOLON".toList ((Stack.mk [⟨1, 1⟩, ⟨4, 0⟩] 2).cut 1) ⟨[⟨1, 2⟩], 3⟩ ∧
    repeatedTable.resynchronize "SEMICOLON".toList ⟨[⟨1, 1⟩, ⟨4, 0⟩], 2⟩ = .error .underflow := by
  refine ⟨⟨rfl, ?_⟩, .inl rfl, rfl⟩
  intro state target h
  match state with
  | 0 => cases h
  | 1 => cases h
  | 2 => cases h
  | 3 => cases h
  | 4 => cases h
  | 5 => cases h
  | 6 => cases h
  | n + 7 => cases h

end ParseReport
