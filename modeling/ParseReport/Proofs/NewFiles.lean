import ParseReport.Workspace

/-!
What making a file changes. The directories on the way to it are made where nothing stands, all else
stays as it is, and the file is new exactly if nothing stood at its place.
-/

namespace ParseReport

/-- What stands in a workspace stands in a later one as well, and what is new there is a
directory. -/
structure Workspace.GrowsTo (w later : Workspace) : Prop where
  kept : ∀ path content, w.find? path = some content → later.find? path = some content
  added : ∀ path, w.find? path = none →
    later.find? path = none ∨ later.find? path = some .directory

section

variable {w opened later : Workspace} {path here whole soFar : FilePath} {names : List Text}
  {content : Content} {created : List FilePath} {made : Bool} {bytes : List UInt8}

theorem Workspace.GrowsTo.refl (w : Workspace) : w.GrowsTo w :=
  ⟨fun _ _ h => h, fun _ h => .inl h⟩

theorem Workspace.GrowsTo.trans (h : w.GrowsTo opened) (h' : opened.GrowsTo later) :
    w.GrowsTo later where
  kept path content hf := h'.kept path content (h.kept path content hf)
  added path hn := by
    rcases h.added path hn with hn | hd
    · exact h'.added path hn
    · exact .inr (h'.kept path _ hd)

theorem Workspace.GrowsTo.file_iff (h : w.GrowsTo later) (hd : later.find? path ≠ some .directory) :
    later.find? path = none ↔ w.find? path = none := by
  constructor
  · intro hn
    cases hf : w.find? path with
    | none => rfl
    | some content =>
      rw [h.kept path content hf] at hn
      cases hn
  · intro hn
    exact (h.added path hn).resolve_right hd

theorem find?_eq_none_iff : w.find? path = none ↔
    path.names ≠ [] ∧ w.entries.lookup path = none ∧
      (w.entries.any fun e => e.1.isBelow path) = false := by
  unfold Workspace.find?
  split
  next hroot => simp [hroot]
  next hroot =>
    cases w.entries.lookup path with
    | some content => simp
    | none => simp [hroot]

/-- A directory that is made where nothing stands changes nothing else. -/
theorem put_directory_growsTo (h : w.find? here = none) : w.GrowsTo (w.put here .directory) := by
  obtain ⟨hroot, hlookup, _⟩ := find?_eq_none_iff.mp h
  have hentries : (w.put here .directory).entries = (here, .directory) :: w.entries := by
    refine congrArg (List.cons _) (List.filter_eq_self.mpr ?_)
    intro e he
    have hne := List.lookup_eq_none_iff.mp hlookup e he
    exact decide_eq_true (bne_iff_ne.mp hne).symm
  have hlater : ∀ path, path ≠ here →
      (w.put here .directory).entries.lookup path = w.entries.lookup path := by
    intro path hne
    rw [hentries, List.lookup_cons, beq_false_of_ne hne]
  refine ⟨fun path content hf => ?_, fun path hn => ?_⟩
  · have hne : path ≠ here := by
      rintro rfl
      rw [h] at hf
      cases hf
    unfold Workspace.find? at hf ⊢
    rw [hlater path hne, hentries, List.any_cons]
    split at hf
    next hr => rw [if_pos hr]; exact hf
    next hr =>
      rw [if_neg hr]
      split at hf
      next => exact hf
      next =>
        split at hf
        next hbelow =>
          simp only [hbelow, Bool.or_true, if_true]
          exact hf
        next => cases hf
  · obtain ⟨hr, hl, hb⟩ := find?_eq_none_iff.mp hn
    unfold Workspace.find?
    rw [if_neg hr]
    by_cases he : path = here
    · subst he
      rw [hentries, List.lookup_cons_self]
      exact .inr rfl
    · rw [hlater path he, hl]
      dsimp only
      split
      next => exact .inr rfl
      next => exact .inl rfl

theorem reach_growsTo (h : w.reach whole made soFar here names = .ok later) : w.GrowsTo later := by
  induction names generalizing w made soFar here with
  | nil =>
    rw [Workspace.reach] at h
    cases hf : w.find? here with
    | none =>
      rw [hf] at h
      cases Except.ok.inj h
      exact put_directory_growsTo hf
    | some content =>
      rw [hf] at h
      cases content with
      | bytes bytes => cases h
      | directory =>
        cases Except.ok.inj h
        exact .refl _
  | cons name names ih =>
    rw [Workspace.reach] at h
    cases hf : w.find? here with
    | none =>
      rw [hf] at h
      dsimp only at h
      split at h
      next => cases h
      next => exact (put_directory_growsTo hf).trans (ih h)
    | some content =>
      rw [hf] at h
      cases content with
      | bytes bytes => cases h
      | directory =>
        dsimp only at h
        split at h
        next => cases h
        next => exact ih h

theorem makeDirectory_growsTo (h : w.makeDirectory path = .ok later) : w.GrowsTo later := by
  unfold Workspace.makeDirectory at h
  split at h
  next => cases h
  next => exact reach_growsTo h

theorem names_ne_nil_of_find? (h : w.find? path ≠ some .directory) : path.names ≠ [] := by
  intro hnil
  exact h (if_pos hnil)

theorem find?_put (content : Content) (h : path.names ≠ []) :
    (w.put path content).find? path = some content := by
  unfold Workspace.find? Workspace.put
  rw [if_neg h, List.lookup_cons_self]

/-- The directories on the way are made first, and then the file is put where the path leads. -/
theorem createFile_steps (h : w.createFile path bytes = .ok (later, created)) :
    ∃ between, w.GrowsTo between ∧ between.find? path.settle ≠ some .directory ∧
      later = between.put path.settle (.bytes bytes) ∧
      created = if between.find? path.settle = none then [path.settle] else [] := by
  unfold Workspace.createFile at h
  cases hd : w.makeDirectory path.above with
  | error fault => rw [hd] at h; cases h
  | ok between =>
    rw [hd] at h
    simp only [bind, Except.bind] at h
    split at h
    next => cases h
    next =>
      split at h
      next => cases h
      next =>
        refine ⟨between, makeDirectory_growsTo hd, ?_⟩
        split at h
        next => cases h
        next old hf =>
          obtain ⟨rfl, rfl⟩ := Prod.mk.inj (Except.ok.inj h)
          simp [hf]
        next hf =>
          obtain ⟨rfl, rfl⟩ := Prod.mk.inj (Except.ok.inj h)
          simp [hf]

/-- A file that is made stands where its path leads, and is new exactly if nothing stood there. -/
theorem createFile_eq_ok (h : w.createFile path bytes = .ok (later, created)) :
    later.find? path.settle = some (.bytes bytes) ∧
    ∀ new, new ∈ created ↔ new = path.settle ∧ w.find? path.settle = none := by
  obtain ⟨between, hgrows, hfile, rfl, rfl⟩ := createFile_steps h
  refine ⟨find?_put _ (names_ne_nil_of_find? hfile), fun new => ?_⟩
  rw [← hgrows.file_iff hfile]
  split <;> simp [*]

end

end ParseReport
