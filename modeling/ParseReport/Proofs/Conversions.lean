import Mathlib.Data.List.Forall2
import ParseReport.DeadEnd
import ParseReport.Proofs.FirstFault

/-!
Dead ends that become failures. Each becomes the failure with its own row, column, problem and
frames, unless it or one of its frames is invalid; a list of dead ends fails with the fault of the
first invalid one, and a dead end with that of its first invalid frame before its own.
-/

namespace ParseReport

section

variable {ε α β : Type}

theorem bind_eq_ok_iff {x : Except ε α} {f : α → Except ε β} {b : β} :
    x >>= f = .ok b ↔ ∃ a, x = .ok a ∧ f a = .ok b := by
  cases x with
  | error fault => exact iff_of_false nofun (by simp)
  | ok a => simp [bind, Except.bind]

theorem bind_eq_error_iff {x : Except ε α} {f : α → Except ε β} {fault : ε} :
    x >>= f = .error fault ↔ x = .error fault ∨ ∃ a, x = .ok a ∧ f a = .error fault := by
  cases x with
  | error other => simp [bind, Except.bind]
  | ok a => simp [bind, Except.bind]

theorem mapM_eq_ok_iff {f : α → Except ε β} {xs : List α} {ys : List β} :
    xs.mapM f = .ok ys ↔ List.Forall₂ (fun x y => f x = .ok y) xs ys := by
  constructor
  · intro h
    induction xs generalizing ys with
    | nil =>
      cases Except.ok.inj h
      exact .nil
    | cons x xs ih =>
      obtain ⟨y, rest, hx, hxs, rfl⟩ := mapM_cons_eq_ok h
      exact .cons hx (ih hxs)
  · intro h
    induction h with
    | nil => rfl
    | cons hx _ ih =>
      rw [List.mapM_cons, hx, ih]
      rfl

end

/-- A value names a foreign frame: it is the label or, if there is none or a null one, the
context. -/
inductive ForeignFrame.Named (f : ForeignFrame) : Value → Prop
  | label {name} : f.label = some name → name ≠ .null → f.Named name
  | context {name} : f.label = none ∨ f.label = some .null → f.context = some name → f.Named name

/-- A frame is the one that an entry of a stack stands for: the entry itself, or the frame with the
name, the row and the column of a foreign one. -/
inductive StackEntry.Gives : StackEntry → Frame → Prop
  | ready (frame : Frame) : Gives (.ready frame) frame
  | foreign {f : ForeignFrame} {p : Position} {name : Value} : f.Named name →
      f.row = some (p.row : Int) → f.col = some (p.col : Int) →
      Gives (.foreign f) ⟨p, name.shown⟩

/-- A failure is the one that a dead end stands for: it has the row, the column and the problem of
the dead end and its frames one by one, or none if the dead end has no contexts. -/
inductive DeadEnd.Gives : DeadEnd → Failure → Prop
  | ready (failure : Failure) : Gives (.ready failure) failure
  | plain (p : Position) (problem : Problem) : Gives (.plain p.row p.col problem) ⟨p, problem, []⟩
  | withContexts (p : Position) (problem : Problem) {stack : List StackEntry}
      {contexts : List Frame} : List.Forall₂ StackEntry.Gives stack contexts →
      Gives (.withContexts p.row p.col problem stack) ⟨p, problem, contexts⟩

/-- A foreign frame that stands for none: it has neither a label that is not null nor a context, it
lacks its row or its column, or one of them lies below one. -/
inductive ForeignFrame.Invalid (f : ForeignFrame) : Prop
  | unnamed : f.label = none ∨ f.label = some .null → f.context = none → Invalid f
  | rowless : f.row = none → Invalid f
  | colless : f.col = none → Invalid f
  | misplaced {row col : Int} : f.row = some row → f.col = some col → row < 1 ∨ col < 1 → Invalid f

/-- An entry of a stack that stands for no frame. -/
inductive StackEntry.Invalid : StackEntry → Prop
  | foreign {f : ForeignFrame} : f.Invalid → Invalid (.foreign f)

/-- A dead end that stands for no failure: it is none at all, its position lies outside of the
coordinates, or one of its frames is invalid. -/
inductive DeadEnd.Invalid : DeadEnd → Prop
  | unsupported (value : Value) : Invalid (.unsupported value)
  | plain {row col : Int} {problem : Problem} : row < 1 ∨ col < 1 → Invalid (.plain row col problem)
  | misplaced {row col : Int} {problem : Problem} {stack : List StackEntry} : row < 1 ∨ col < 1 →
      Invalid (.withContexts row col problem stack)
  | frame {row col : Int} {problem : Problem} {stack : List StackEntry} {entry : StackEntry} :
      entry ∈ stack → entry.Invalid → Invalid (.withContexts row col problem stack)

/-- The fault of a foreign frame. Its name, its row and its column are looked for in this order, and
the row and the column are compared with one when both are there. -/
inductive ForeignFrame.Faulty (f : ForeignFrame) : Fault → Prop
  | unnamed : f.label = none ∨ f.label = some .null → f.context = none →
      Faulty f (.missingAttribute f.kind .context)
  | rowless {name : Value} : f.Named name → f.row = none → Faulty f (.missingAttribute f.kind .row)
  | colless {name : Value} {row : Int} : f.Named name → f.row = some row → f.col = none →
      Faulty f (.missingAttribute f.kind .col)
  | misplaced {name : Value} {row col : Int} : f.Named name → f.row = some row → f.col = some col →
      row < 1 ∨ col < 1 → Faulty f (.position .context row col)

/-- The fault of an entry of a stack. -/
inductive StackEntry.Faulty : StackEntry → Fault → Prop
  | foreign {f : ForeignFrame} {fault : Fault} : f.Faulty fault → Faulty (.foreign f) fault

/-- The fault of a dead end: that of its first invalid frame or, if it has none, that of its own
position. -/
inductive DeadEnd.Faulty : DeadEnd → Fault → Prop
  | unsupported (value : Value) : Faulty (.unsupported value) (.unsupportedItem value)
  | plain {row col : Int} {problem : Problem} : row < 1 ∨ col < 1 →
      Faulty (.plain row col problem) (.position .failure row col)
  | frame {row col : Int} {problem : Problem} {before : List StackEntry} {entry : StackEntry}
      {after : List StackEntry} {fault : Fault} : (∀ other ∈ before, ¬other.Invalid) →
      entry.Faulty fault → Faulty (.withContexts row col problem (before ++ entry :: after)) fault
  | misplaced {row col : Int} {problem : Problem} {stack : List StackEntry} :
      (∀ entry ∈ stack, ¬entry.Invalid) → row < 1 ∨ col < 1 →
      Faulty (.withContexts row col problem stack) (.position .failure row col)

section

variable {f : ForeignFrame} {name : Value} {frame : Frame} {fault : Fault} {entry : StackEntry}
  {item : DeadEnd} {failure : Failure}

theorem ForeignFrame.require_eq_ok_iff {α : Type} {needed : Attribute} {found : Option α} {a : α} :
    f.require needed found = .ok a ↔ found = some a := by
  cases found <;> simp [ForeignFrame.require]

theorem ForeignFrame.require_eq_error_iff {α : Type} {needed : Attribute} {found : Option α} :
    f.require needed found = .error fault ↔
      found = none ∧ fault = .missingAttribute f.kind needed := by
  cases found <;> simp [ForeignFrame.require, eq_comm]

theorem ForeignFrame.name_eq (h : f.label = none ∨ f.label = some .null) :
    f.name = f.require .context f.context := by
  unfold ForeignFrame.name
  rcases h with h | h
  · rw [h]
  · rw [h]

theorem ForeignFrame.name_eq_ok_of_label (h : f.label = some name) (hnull : name ≠ .null) :
    f.name = .ok name := by
  unfold ForeignFrame.name
  split
  next hl => exact absurd (Option.some.inj (h.symm.trans hl)) hnull
  next hl => cases h.symm.trans hl
  next hl => rw [Option.some.inj (h.symm.trans hl)]

/-- A foreign frame has no label to be named by, or it has one. -/
theorem ForeignFrame.label_cases (f : ForeignFrame) :
    (f.label = none ∨ f.label = some .null) ∨ ∃ name, f.label = some name ∧ name ≠ .null := by
  cases h : f.label with
  | none => exact .inl (.inl rfl)
  | some name =>
    by_cases hnull : name = .null
    · exact .inl (.inr (by rw [hnull]))
    · exact .inr ⟨name, rfl, hnull⟩

theorem ForeignFrame.name_eq_ok_iff : f.name = .ok name ↔ f.Named name := by
  constructor
  · intro h
    rcases f.label_cases with hl | ⟨label, hl, hnull⟩
    · rw [name_eq hl, require_eq_ok_iff] at h
      exact .context hl h
    · rw [name_eq_ok_of_label hl hnull] at h
      cases Except.ok.inj h
      exact .label hl hnull
  · intro h
    cases h with
    | label hl hnull => exact name_eq_ok_of_label hl hnull
    | context hl hc => rw [name_eq hl, require_eq_ok_iff, hc]

theorem ForeignFrame.name_eq_error_iff :
    f.name = .error fault ↔ (f.label = none ∨ f.label = some .null) ∧ f.context = none ∧
      fault = .missingAttribute f.kind .context := by
  rcases f.label_cases with hl | ⟨label, hl, hnull⟩
  · rw [name_eq hl, require_eq_error_iff, and_iff_right hl]
  · rw [name_eq_ok_of_label hl hnull, hl]
    simp [hnull]

theorem ForeignFrame.toFrame_eq_ok_iff :
    f.toFrame = .ok frame ↔ (StackEntry.foreign f).Gives frame := by
  simp only [ForeignFrame.toFrame, bind_eq_ok_iff, name_eq_ok_iff, require_eq_ok_iff,
    Frame.ofInts_eq_ok_iff]
  constructor
  · rintro ⟨name, hname, row, hrow, col, hcol, rfl, rfl, hlabel⟩
    obtain ⟨p, label⟩ := frame
    cases hlabel
    exact .foreign hname hrow hcol
  · intro h
    cases h with
    | foreign hname hrow hcol => exact ⟨_, hname, _, hrow, _, hcol, rfl, rfl, rfl⟩

theorem ForeignFrame.toFrame_eq_error_iff : f.toFrame = .error fault ↔ f.Faulty fault := by
  simp only [ForeignFrame.toFrame, bind_eq_error_iff, name_eq_ok_iff, name_eq_error_iff,
    require_eq_ok_iff, require_eq_error_iff, Frame.ofInts_eq_error_iff]
  constructor
  · rintro (⟨hl, hc, rfl⟩ | ⟨name, hname, ⟨hrow, rfl⟩ | ⟨row, hrow, ⟨hcol, rfl⟩ |
      ⟨col, hcol, hlow, rfl⟩⟩⟩)
    · exact .unnamed hl hc
    · exact .rowless hname hrow
    · exact .colless hname hrow hcol
    · exact .misplaced hname hrow hcol hlow
  · intro h
    cases h with
    | unnamed hl hc => exact .inl ⟨hl, hc, rfl⟩
    | rowless hname hrow => exact .inr ⟨_, hname, .inl ⟨hrow, rfl⟩⟩
    | colless hname hrow hcol => exact .inr ⟨_, hname, .inr ⟨_, hrow, .inl ⟨hcol, rfl⟩⟩⟩
    | misplaced hname hrow hcol hlow =>
      exact .inr ⟨_, hname, .inr ⟨_, hrow, .inr ⟨_, hcol, hlow, rfl⟩⟩⟩

/-- An invalid frame gives no frame, so it has a fault. -/
theorem ForeignFrame.Invalid.not_gives (h : f.Invalid) :
    ¬(StackEntry.foreign f).Gives frame := by
  intro hgives
  cases hgives with
  | @foreign _ p name hname hrow hcol =>
    cases h with
    | unnamed hl hc =>
      cases hname with
      | label hlabel hnull => simp [hlabel, hnull] at hl
      | context _ hcontext => cases hc.symm.trans hcontext
    | rowless hnone => cases hnone.symm.trans hrow
    | colless hnone => cases hnone.symm.trans hcol
    | misplaced hrow' hcol' hlow =>
      cases Option.some.inj (hrow'.symm.trans hrow)
      cases Option.some.inj (hcol'.symm.trans hcol)
      exact p.not_below_one hlow

theorem ForeignFrame.Faulty.invalid (h : f.Faulty fault) : f.Invalid := by
  cases h with
  | unnamed hl hc => exact .unnamed hl hc
  | rowless _ hrow => exact .rowless hrow
  | colless _ _ hcol => exact .colless hcol
  | misplaced _ hrow hcol hlow => exact .misplaced hrow hcol hlow

theorem StackEntry.toFrame_eq_ok_iff : entry.toFrame = .ok frame ↔ entry.Gives frame := by
  cases entry with
  | ready own =>
    constructor
    · intro h
      cases Except.ok.inj h
      exact .ready _
    · intro h
      cases h
      rfl
  | foreign f => exact ForeignFrame.toFrame_eq_ok_iff

theorem StackEntry.toFrame_eq_error_iff : entry.toFrame = .error fault ↔ entry.Faulty fault := by
  cases entry with
  | ready own => exact iff_of_false nofun nofun
  | foreign f =>
    rw [StackEntry.toFrame, ForeignFrame.toFrame_eq_error_iff]
    constructor
    · exact .foreign
    · intro h
      cases h with
      | foreign h => exact h

theorem StackEntry.not_invalid_iff : ¬entry.Invalid ↔ ∃ frame, entry.toFrame = .ok frame := by
  constructor
  · intro h
    cases hf : entry.toFrame with
    | ok frame => exact ⟨frame, rfl⟩
    | error fault =>
      cases toFrame_eq_error_iff.mp hf with
      | foreign hfaulty => exact absurd (.foreign hfaulty.invalid) h
  · rintro ⟨frame, hf⟩ h
    cases h with
    | foreign hinvalid => exact hinvalid.not_gives (toFrame_eq_ok_iff.mp hf)

theorem StackEntry.mapM_toFrame_eq_ok_iff {stack : List StackEntry} {contexts : List Frame} :
    stack.mapM StackEntry.toFrame = .ok contexts ↔
      List.Forall₂ StackEntry.Gives stack contexts := by
  simp only [mapM_eq_ok_iff, toFrame_eq_ok_iff]

theorem StackEntry.forall_not_invalid_iff {stack : List StackEntry} :
    (∀ entry ∈ stack, ¬entry.Invalid) ↔
      ∃ contexts, stack.mapM StackEntry.toFrame = .ok contexts := by
  simp only [not_invalid_iff]
  constructor
  · intro h
    cases hm : stack.mapM StackEntry.toFrame with
    | ok contexts => exact ⟨contexts, rfl⟩
    | error fault =>
      obtain ⟨before, entry, after, rfl, _, hfault⟩ := mapM_eq_error_iff.mp hm
      obtain ⟨frame, hframe⟩ := h entry (by simp)
      cases hframe.symm.trans hfault
  · rintro ⟨contexts, h⟩
    exact exists_of_mapM_eq_ok h

theorem DeadEnd.toFailure_eq_ok_iff : item.toFailure = .ok failure ↔ item.Gives failure := by
  constructor
  · intro h
    cases item with
    | ready own =>
      cases Except.ok.inj h
      exact .ready _
    | plain row col problem =>
      obtain ⟨rfl, rfl, rfl, hnone⟩ := Failure.ofInts_eq_ok_iff.mp h
      obtain ⟨p, own, contexts⟩ := failure
      cases hnone
      exact .plain p own
    | withContexts row col problem stack =>
      obtain ⟨contexts, hstack, h⟩ := bind_eq_ok_iff.mp h
      obtain ⟨rfl, rfl, rfl, rfl⟩ := Failure.ofInts_eq_ok_iff.mp h
      exact .withContexts failure.position failure.problem
        (StackEntry.mapM_toFrame_eq_ok_iff.mp hstack)
    | unsupported value => cases h
  · intro h
    cases h with
    | ready => rfl
    | plain p problem => exact Failure.ofInts_eq_ok_iff.mpr ⟨rfl, rfl, rfl, rfl⟩
    | withContexts p problem hstack =>
      exact bind_eq_ok_iff.mpr ⟨_, StackEntry.mapM_toFrame_eq_ok_iff.mpr hstack,
        Failure.ofInts_eq_ok_iff.mpr ⟨rfl, rfl, rfl, rfl⟩⟩

theorem DeadEnd.toFailure_eq_error_iff : item.toFailure = .error fault ↔ item.Faulty fault := by
  constructor
  · intro h
    cases item with
    | ready own => cases h
    | plain row col problem =>
      obtain ⟨hlow, rfl⟩ := Failure.ofInts_eq_error_iff.mp h
      exact .plain hlow
    | withContexts row col problem stack =>
      rcases bind_eq_error_iff.mp h with hstack | ⟨contexts, hstack, h⟩
      · obtain ⟨before, entry, after, rfl, hbefore, hentry⟩ := mapM_eq_error_iff.mp hstack
        refine .frame (fun other ho => ?_) (StackEntry.toFrame_eq_error_iff.mp hentry)
        exact StackEntry.not_invalid_iff.mpr (hbefore other ho)
      · obtain ⟨hlow, rfl⟩ := Failure.ofInts_eq_error_iff.mp h
        exact .misplaced (StackEntry.forall_not_invalid_iff.mpr ⟨contexts, hstack⟩) hlow
    | unsupported value =>
      cases Except.error.inj h
      exact .unsupported value
  · intro h
    cases h with
    | unsupported => rfl
    | plain hlow => exact Failure.ofInts_eq_error_iff.mpr ⟨hlow, rfl⟩
    | frame hbefore hentry =>
      refine bind_eq_error_iff.mpr (.inl (mapM_eq_error_iff.mpr ⟨_, _, _, rfl, ?_, ?_⟩))
      · exact fun other ho => StackEntry.not_invalid_iff.mp (hbefore other ho)
      · exact StackEntry.toFrame_eq_error_iff.mpr hentry
    | misplaced hstack hlow =>
      obtain ⟨contexts, hcontexts⟩ := StackEntry.forall_not_invalid_iff.mp hstack
      exact bind_eq_error_iff.mpr
        (.inr ⟨contexts, hcontexts, Failure.ofInts_eq_error_iff.mpr ⟨hlow, rfl⟩⟩)

theorem DeadEnd.Faulty.invalid (h : item.Faulty fault) : item.Invalid := by
  cases h with
  | unsupported value => exact .unsupported value
  | plain hlow => exact .plain hlow
  | frame _ hentry =>
    cases hentry with
    | foreign hfaulty => exact .frame (by simp) (.foreign hfaulty.invalid)
  | misplaced _ hlow => exact .misplaced hlow

theorem DeadEnd.not_invalid_iff : ¬item.Invalid ↔ ∃ failure, item.toFailure = .ok failure := by
  constructor
  · intro h
    cases hf : item.toFailure with
    | ok failure => exact ⟨failure, rfl⟩
    | error fault => exact absurd (toFailure_eq_error_iff.mp hf).invalid h
  · rintro ⟨failure, hf⟩ h
    have hgives := toFailure_eq_ok_iff.mp hf
    cases hgives with
    | ready => cases h
    | plain p problem =>
      cases h with
      | plain hlow => exact p.not_below_one hlow
    | withContexts p problem hstack =>
      cases h with
      | misplaced hlow => exact p.not_below_one hlow
      | frame hmem hentry =>
        have hall := StackEntry.forall_not_invalid_iff.mpr
          ⟨_, StackEntry.mapM_toFrame_eq_ok_iff.mpr hstack⟩
        exact hall _ hmem hentry

theorem failuresOf_eq_ok_iff {items : List DeadEnd} {failures : List Failure} :
    failuresOf items = .ok failures ↔ List.Forall₂ DeadEnd.Gives items failures := by
  simp only [failuresOf, mapM_eq_ok_iff, DeadEnd.toFailure_eq_ok_iff]

/-- A list of dead ends fails with the fault of the first invalid one. -/
theorem failuresOf_eq_error_iff {items : List DeadEnd} :
    failuresOf items = .error fault ↔ ∃ before item after, items = before ++ item :: after ∧
      (∀ other ∈ before, ¬other.Invalid) ∧ item.Faulty fault := by
  simp only [failuresOf, mapM_eq_error_iff, DeadEnd.toFailure_eq_error_iff,
    DeadEnd.not_invalid_iff]

theorem failuresOf_fails_iff {items : List DeadEnd} :
    (∃ fault, failuresOf items = .error fault) ↔ ∃ item ∈ items, item.Invalid := by
  constructor
  · rintro ⟨fault, h⟩
    obtain ⟨before, item, after, rfl, _, hfault⟩ := failuresOf_eq_error_iff.mp h
    exact ⟨item, by simp, hfault.invalid⟩
  · rintro ⟨item, hitem, hinvalid⟩
    cases h : failuresOf items with
    | error fault => exact ⟨fault, rfl⟩
    | ok failures =>
      have hok := exists_of_mapM_eq_ok h item hitem
      exact absurd hinvalid (DeadEnd.not_invalid_iff.mpr hok)

theorem failuresOf_ready (failures : List Failure) :
    failuresOf (failures.map .ready) = .ok failures := by
  have hready : ∀ failure ∈ failures, (DeadEnd.toFailure ∘ .ready) failure = .ok (id failure) :=
    fun _ _ => rfl
  rw [failuresOf, List.mapM_map, mapM_eq_ok hready, List.map_id]

end

/-- Dead ends are converted one by one and in order, each into the failure that it stands for. This
fails exactly if one of them is invalid, and then with the fault of the first one that is. Converted
again, the failures stay as they are. -/
theorem conversion_keeps_or_fails_at_first (items : List DeadEnd) :
    (∀ failures, failuresOf items = .ok failures ↔ List.Forall₂ DeadEnd.Gives items failures) ∧
    (∀ failures, failuresOf items = .ok failures →
      failures.length = items.length ∧
      (∀ f ∈ failures, 1 ≤ f.position.row ∧ 1 ≤ f.position.col ∧
        ∀ frame ∈ f.contexts, 1 ≤ frame.position.row ∧ 1 ≤ frame.position.col) ∧
      failuresOf (failures.map .ready) = .ok failures) ∧
    ((∃ fault, failuresOf items = .error fault) ↔ ∃ item ∈ items, item.Invalid) ∧
    ∀ fault, failuresOf items = .error fault ↔ ∃ before item after,
      items = before ++ item :: after ∧ (∀ other ∈ before, ¬other.Invalid) ∧
        item.Faulty fault := by
  refine ⟨fun failures => failuresOf_eq_ok_iff, ?_, failuresOf_fails_iff,
    fun fault => failuresOf_eq_error_iff⟩
  intro failures h
  refine ⟨length_of_mapM_eq_ok h, ?_, failuresOf_ready failures⟩
  exact fun f _ => ⟨f.position.row_pos, f.position.col_pos,
    fun frame _ => ⟨frame.position.row_pos, frame.position.col_pos⟩⟩

/-- A dead end of each kind, one of them with a ready frame and with a foreign one whose label is
null. -/
def mixedItems : List DeadEnd :=
  [.plain 1 5 .badRepeat,
    .withContexts 2 2 .expectingInt
      [.foreign ⟨"Scope".toList, some .null, some (.int 42), some 2, some 1⟩,
        .ready ⟨.endOf [], "list".toList⟩],
    .ready ⟨.endOf "a\nb".toList, .unexpectedChar, []⟩]

/-- A dead end outside of the coordinates; of its frames the second is not named, and the third is
outside of the coordinates too. -/
def strayItem : DeadEnd :=
  .withContexts 0 0 .expectingInt
    [.foreign ⟨"Scope".toList, some (.text "list".toList), none, some 1, some 1⟩,
      .foreign ⟨"Scope".toList, none, none, none, some 1⟩,
      .foreign ⟨"Scope".toList, some (.text "item".toList), none, some 0, some 1⟩]

/-- The dead ends of all kinds become three failures, and with another one and a value behind them
the list fails because the second frame of the former has no name. -/
theorem conversion_keeps_or_fails_at_first_mixed :
    ∃ failures, failuresOf mixedItems = .ok failures ∧ failures.length = 3 ∧
      failuresOf (failures.map .ready) = .ok failures ∧
      failuresOf (mixedItems ++ strayItem :: [.unsupported .null]) =
        .error (.missingAttribute "Scope".toList .context) := by
  obtain ⟨failures, hok⟩ : ∃ failures, failuresOf mixedItems = .ok failures := ⟨_, rfl⟩
  obtain ⟨hlength, _, hagain⟩ := (conversion_keeps_or_fails_at_first mixedItems).2.1 failures hok
  have hmixed : ∀ other ∈ mixedItems, ¬other.Invalid := fun other ho =>
    DeadEnd.not_invalid_iff.mpr (exists_of_mapM_eq_ok hok other ho)
  have hstray : strayItem.Faulty (.missingAttribute "Scope".toList .context) :=
    DeadEnd.toFailure_eq_error_iff.mp rfl
  refine ⟨failures, hok, hlength, hagain, ?_⟩
  exact ((conversion_keeps_or_fails_at_first _).2.2.2 _).mpr
    ⟨mixedItems, strayItem, _, rfl, hmixed, hstray⟩

end ParseReport
