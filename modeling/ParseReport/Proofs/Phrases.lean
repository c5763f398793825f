import ParseReport.Diagnosis

/-!
The problems that an error stands for: there is always one, and every one has a phrase.
-/

namespace ParseReport

theorem mapM_eq_ok {ε α β : Type} {f : α → Except ε β} {g : α → β} {xs : List α}
    (h : ∀ x ∈ xs, f x = .ok (g x)) : xs.mapM f = .ok (xs.map g) := by
  induction xs with
  | nil => rfl
  | cons x xs ih =>
    rw [List.mapM_cons, h x List.mem_cons_self, ih fun y hy => h y (List.mem_cons_of_mem x hy)]
    rfl

theorem mapM_eq_ok_filterMap {ε α β : Type} {f : α → Except ε β} {xs : List α}
    (h : ∀ x ∈ xs, (f x).toOption.isSome = true) :
    xs.mapM f = .ok (xs.filterMap fun x => (f x).toOption) := by
  induction xs with
  | nil => rfl
  | cons x xs ih =>
    have hx := h x List.mem_cons_self
    cases hf : f x with
    | error fault => rw [hf] at hx; cases hx
    | ok y =>
      rw [List.mapM_cons, hf, ih fun z hz => h z (List.mem_cons_of_mem x hz)]
      simp [hf, Except.toOption]
      rfl

theorem mapM_eq_map {ε α β γ : Type} {f : α → Except ε β} {g : α → Except ε γ} {h : β → γ}
    (hg : ∀ x, g x = (f x).map h) (xs : List α) : xs.mapM g = (xs.mapM f).map (List.map h) := by
  induction xs with
  | nil => rfl
  | cons x xs ih =>
    rw [List.mapM_cons, List.mapM_cons, hg, ih]
    cases f x with
    | error fault => rfl
    | ok y =>
      cases xs.mapM f with
      | error fault => rfl
      | ok ys => rfl

theorem mapM_cons_eq_ok {ε α β : Type} {f : α → Except ε β} {x : α} {xs : List α} {ys : List β}
    (h : (x :: xs).mapM f = .ok ys) :
    ∃ y rest, f x = .ok y ∧ xs.mapM f = .ok rest ∧ ys = y :: rest := by
  rw [List.mapM_cons] at h
  cases hx : f x with
  | error fault => rw [hx] at h; cases h
  | ok y =>
    cases hxs : xs.mapM f with
    | error fault => rw [hx, hxs] at h; cases h
    | ok rest =>
      rw [hx, hxs] at h
      exact ⟨y, rest, rfl, rfl, (Except.ok.inj h).symm⟩

theorem length_of_mapM_eq_ok {ε α β : Type} {f : α → Except ε β} {xs : List α} {ys : List β}
    (h : xs.mapM f = .ok ys) : ys.length = xs.length := by
  induction xs generalizing ys with
  | nil =>
    cases Except.ok.inj h
    rfl
  | cons x xs ih =>
    obtain ⟨y, rest, _, hxs, rfl⟩ := mapM_cons_eq_ok h
    exact congrArg (· + 1) (ih hxs)

theorem ne_nil_of_mapM_eq_ok {ε α β : Type} {f : α → Except ε β} {xs : List α} {ys : List β}
    (h : xs.mapM f = .ok ys) (hne : xs ≠ []) : ys ≠ [] := by
  rw [← List.length_pos_iff, length_of_mapM_eq_ok h]
  exact List.length_pos_iff.mpr hne

theorem exists_of_mapM_eq_ok {ε α β : Type} {f : α → Except ε β} {xs : List α} {ys : List β}
    (h : xs.mapM f = .ok ys) : ∀ x ∈ xs, ∃ y, f x = .ok y := by
  induction xs generalizing ys with
  | nil => simp
  | cons x xs ih =>
    obtain ⟨y, rest, hx, hxs, rfl⟩ := mapM_cons_eq_ok h
    intro z hz
    rcases List.mem_cons.mp hz with rfl | hz
    · exact ⟨y, hx⟩
    · exact ih hxs z hz

theorem exists_of_mem_mapM_eq_ok {ε α β : Type} {f : α → Except ε β} {xs : List α} {ys : List β}
    (h : xs.mapM f = .ok ys) : ∀ y ∈ ys, ∃ x ∈ xs, f x = .ok y := by
  induction xs generalizing ys with
  | nil =>
    cases Except.ok.inj h
    simp
  | cons x xs ih =>
    obtain ⟨y, rest, hx, hxs, rfl⟩ := mapM_cons_eq_ok h
    intro z hz
    rcases List.mem_cons.mp hz with rfl | hz
    · exact ⟨x, List.mem_cons_self, hx⟩
    · obtain ⟨w, hw, hf⟩ := ih hxs z hz
      exact ⟨w, List.mem_cons_of_mem x hw, hf⟩

theorem common_classified : ∀ entry ∈ commonTerminals,
    entry.2.classify.toOption.isSome = true := by
  decide

theorem problemFor_classified (v : Vocabulary) (name : Name) :
    (v.problemFor name).classify.toOption.isSome = true := by
  unfold Vocabulary.problemFor
  split
  next => rfl
  next =>
    split
    next => split <;> rfl
    next =>
      cases hl : commonTerminals.lookup name with
      | none => rfl
      | some problem =>
        obtain ⟨before, after, he, _⟩ := List.lookup_eq_some_iff.mp hl
        exact common_classified (name, problem) (by rw [he]; simp)

theorem problems_classified (e : ParseError) (v : Vocabulary) :
    ∀ problem ∈ e.problems v, problem.classify.toOption.isSome = true := by
  have hm : ∀ problem ∈ (e.terminals v).map v.problemFor,
      problem.classify.toOption.isSome = true := by
    intro problem hp
    obtain ⟨name, _, rfl⟩ := List.mem_map.mp hp
    exact problemFor_classified v name
  intro problem hp
  unfold ParseError.problems at hp
  dsimp only at hp
  split at hp
  next =>
    rcases List.mem_cons.mp hp with rfl | hp
    · rfl
    · exact hm problem hp
  next => exact hm problem hp

theorem problems_ne_nil (e : ParseError) (v : Vocabulary) : e.problems v ≠ [] := by
  unfold ParseError.problems
  dsimp only
  split
  next => exact List.cons_ne_nil _ _
  next h =>
    intro he
    simp [he] at h

theorem mem_terminals_iff {e : ParseError} {v : Vocabulary} {name : Name} :
    name ∈ e.terminals v ↔ name ∈ e.names ∧ name ∉ v.ignored := by
  rw [ParseError.terminals, mem_distinctSorted, List.mem_filter]
  simp

theorem failures_ne_nil (e : ParseError) (source : Text) (v : Vocabulary) :
    e.failures source v ≠ [] := by
  unfold ParseError.failures
  simp [problems_ne_nil]

theorem failures_mem {e : ParseError} {source : Text} {v : Vocabulary} {failure : Failure}
    (h : failure ∈ e.failures source v) :
    failure.position = e.position source ∧ failure.contexts = [] := by
  obtain ⟨problem, _, rfl⟩ := List.mem_map.mp h
  exact ⟨rfl, rfl⟩

theorem failures_phrased {e : ParseError} {source : Text} {v : Vocabulary} {failure : Failure}
    (h : failure ∈ e.failures source v) : ∃ c, failure.problem.classify = .ok c := by
  obtain ⟨problem, hp, rfl⟩ := List.mem_map.mp h
  have hc := problems_classified e v problem hp
  change ∃ c, problem.classify = .ok c
  cases hx : problem.classify with
  | error fault => rw [hx] at hc; cases hc
  | ok c => exact ⟨c, rfl⟩

/-- The phrases of the problems of an error. -/
def ParseError.phrases (e : ParseError) (v : Vocabulary) : List Classification :=
  (e.problems v).filterMap fun problem => problem.classify.toOption

end ParseReport
