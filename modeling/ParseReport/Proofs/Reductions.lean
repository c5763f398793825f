import Mathlib.Data.Fintype.BigOperators
import Mathlib.Data.List.Perm.Subperm
import ParseReport.Parsing.Stack

/-!
How long a token can be reduced for. Reductions depend only on the states on the stack, so if a state
comes back above itself, or the same states come back, the reductions never end; and otherwise there
are only so many states to come.
-/

namespace ParseReport

/-- The state on top of some states; the start state is below all of them. -/
def topState : List Nat → Nat
  | [] => 0
  | q :: _ => q

theorem topState_append {w w' : List Nat} (z : List Nat) (h : topState w' = topState w) :
    topState (z ++ w') = topState (z ++ w) := by
  cases z with
  | nil => exact h
  | cons q z => rfl

/-- One reduction for a token leads from some states to others and does not complete the parse. -/
def Reduces (t : Table) (name : Name) (u v : List Nat) : Prop :=
  ∃ origin count target, (t.actions (topState u)).lookup name = some (.reduce origin count) ∧
    count ≤ u.length ∧
    (t.actions (topState (u.drop count))).lookup origin = some (.shift target) ∧
    ¬(name = endName ∧ target = t.accepting) ∧ v = target :: u.drop count

/-- A number of such reductions. -/
inductive ReducesIn (t : Table) (name : Name) : Nat → List Nat → List Nat → Prop
  | none {u} : ReducesIn t name 0 u u
  | more {n u v w} : ReducesIn t name n u v → Reduces t name v w → ReducesIn t name (n + 1) u w

/-- Reductions above some states that they do not touch: what is above them turns from one list into
another. -/
inductive Climbs (t : Table) (name : Name) (w : List Nat) : Nat → List Nat → List Nat → Prop
  | none {z} : Climbs t name w 0 z z
  | more {n y z z'} : Climbs t name w n y z → Reduces t name (z ++ w) (z' ++ w) → z' ≠ [] →
      Climbs t name w (n + 1) y z'

/-- Reductions that never end. -/
def Endless (t : Table) (name : Name) (u : List Nat) : Prop :=
  ∀ n, ∃ v, ReducesIn t name n u v

variable {t : Table} {name : Name} {u v w x y z z₀ : List Nat} {m n : Nat}

theorem Reduces.unique {v' : List Nat} (h : Reduces t name u v) (h' : Reduces t name u v') :
    v = v' := by
  obtain ⟨origin, count, target, hl, _, hg, _, rfl⟩ := h
  obtain ⟨origin', count', target', hl', _, hg', _, rfl⟩ := h'
  cases Option.some.inj (hl.symm.trans hl')
  cases Option.some.inj (hg.symm.trans hg')
  rfl

theorem Reduces.top_lt (h : Reduces t name u v) : topState u < t.states.length := by
  obtain ⟨origin, count, target, hl, _⟩ := h
  by_contra hge
  have hn : t.states[topState u]? = none := List.getElem?_eq_none (by omega)
  simp [Table.actions, hn] at hl

/-- A reduction either leaves all of the lower states alone, and then acts on what is above them in
the same way whatever they are, or takes some of them away. -/
theorem Reduces.above_or_below (h : Reduces t name (z ++ w) v) :
    (∃ target count, v = (target :: z.drop count) ++ w ∧
      ∀ w', topState w' = topState w → Reduces t name (z ++ w') ((target :: z.drop count) ++ w')) ∨
    ∃ target count, 1 ≤ count ∧ count ≤ w.length ∧ v = target :: w.drop count := by
  obtain ⟨origin, count, target, hl, hc, hg, ha, rfl⟩ := h
  by_cases hz : count ≤ z.length
  · refine .inl ⟨target, count, ?_, ?_⟩
    · rw [List.drop_append_of_le_length hz]
      rfl
    · intro w' hw
      refine ⟨origin, count, target, ?_, ?_, ?_, ha, ?_⟩
      · rw [topState_append z hw]
        exact hl
      · rw [List.length_append]
        omega
      · rw [List.drop_append_of_le_length hz] at hg ⊢
        rw [topState_append _ hw]
        exact hg
      · rw [List.drop_append_of_le_length hz]
        rfl
  · rw [List.length_append] at hc
    refine .inr ⟨target, count - z.length, by omega, by omega, ?_⟩
    rw [List.drop_append, List.drop_of_length_le (by omega : z.length ≤ count)]
    rfl

theorem Reduces.above {z' : List Nat} (h : Reduces t name (z ++ w) (z' ++ w)) (hne : z' ≠ []) :
    ∃ target count, z' = target :: z.drop count ∧
      ∀ w', topState w' = topState w → Reduces t name (z ++ w') (z' ++ w') := by
  rcases h.above_or_below with ⟨target, count, he, hall⟩ | ⟨target, count, hpos, hle, he⟩
  · have hz := List.append_cancel_right he
    subst hz
    exact ⟨target, count, rfl, hall⟩
  · have hl := congrArg List.length he
    have hz : 0 < z'.length := List.length_pos_iff.mpr hne
    simp only [List.length_append, List.length_cons, List.length_drop] at hl
    omega

theorem ReducesIn.trans (h : ReducesIn t name m u v) (h' : ReducesIn t name n v w) :
    ReducesIn t name (m + n) u w := by
  induction h' with
  | none => exact h
  | more _ hs ih => exact .more (ih h) hs

theorem ReducesIn.start (h : ReducesIn t name (m + n) u w) : ∃ v, ReducesIn t name m u v := by
  induction n generalizing w with
  | zero => exact ⟨w, h⟩
  | succ n ih =>
    cases h with
    | more h _ => exact ih h

theorem ReducesIn.first (h : ReducesIn t name (n + 1) u w) :
    ∃ v, Reduces t name u v ∧ ReducesIn t name n v w := by
  induction n generalizing w with
  | zero =>
    cases h with
    | more h hs =>
      cases h
      exact ⟨w, hs, .none⟩
  | succ n ih =>
    cases h with
    | more h hs =>
      obtain ⟨v, hv, hr⟩ := ih h
      exact ⟨v, hv, .more hr hs⟩

theorem endless_of_unbounded (h : ∀ k, ∃ n, k ≤ n ∧ ∃ v, ReducesIn t name n u v) :
    Endless t name u := by
  intro k
  obtain ⟨n, hk, v, hv⟩ := h k
  obtain ⟨extra, rfl⟩ := Nat.exists_eq_add_of_le hk
  exact hv.start

theorem Endless.of_reducesIn (h : ReducesIn t name n u v) (he : Endless t name v) :
    Endless t name u := by
  apply endless_of_unbounded
  intro k
  obtain ⟨w, hw⟩ := he k
  exact ⟨n + k, Nat.le_add_left k n, w, h.trans hw⟩

theorem endless_of_cycle (h : ReducesIn t name n u u) (hn : 0 < n) : Endless t name u := by
  have hk : ∀ k, ReducesIn t name (n * k) u u := by
    intro k
    induction k with
    | zero => exact .none
    | succ k ih => exact ih.trans h
  apply endless_of_unbounded
  intro k
  exact ⟨n * k, Nat.le_mul_of_pos_left k hn, u, hk k⟩

theorem Climbs.reducesIn (h : Climbs t name w n y z) :
    ReducesIn t name n (y ++ w) (z ++ w) := by
  induction h with
  | none => exact .none
  | more _ hs _ ih => exact .more ih hs

theorem Climbs.trans (h : Climbs t name w m x y) (h' : Climbs t name w n y z) :
    Climbs t name w (m + n) x z := by
  induction h' with
  | none => exact h
  | more _ hs hne ih => exact .more (ih h) hs hne

theorem Climbs.ends (h : Climbs t name w (m + n) x z) :
    ∃ y, Climbs t name w m x y ∧ Climbs t name w n y z := by
  induction n generalizing z with
  | zero => exact ⟨z, h, .none⟩
  | succ n ih =>
    cases h with
    | more h hs hne =>
      obtain ⟨y, hy, hr⟩ := ih h
      exact ⟨y, hy, .more hr hs hne⟩

theorem Climbs.unique {z' : List Nat} (h : Climbs t name w n y z) (h' : Climbs t name w n y z') :
    z = z' := by
  induction h generalizing z' with
  | none => cases h'; rfl
  | more _ hs _ ih =>
    cases h' with
    | more h' hs' _ =>
      have he := ih h'
      subst he
      exact List.append_cancel_right (hs.unique hs')

/-- What happens above some states happens above any others with the same top. -/
theorem Climbs.rebase {w' : List Nat} (h : Climbs t name w n y z) (hw : topState w' = topState w) :
    Climbs t name w' n y z := by
  induction h with
  | none => exact .none
  | more _ hs hne ih =>
    obtain ⟨_, _, _, hall⟩ := hs.above hne
    exact .more ih (hall w' hw) hne

theorem Climbs.lower (h : Climbs t name (x ++ w) n y z) :
    Climbs t name w n (y ++ x) (z ++ x) := by
  induction h with
  | none => exact .none
  | more _ hs hne ih =>
    refine .more ih ?_ (by simp [hne])
    simpa only [List.append_assoc] using hs

/-- A state that comes back above itself comes back again and again. -/
theorem endless_of_climb (h : Climbs t name w n [] z) (hn : 0 < n)
    (ht : topState (z ++ w) = topState w) : Endless t name w := by
  have hk : ∀ k, ∃ y, Climbs t name w (n * k) [] y ∧ topState (y ++ w) = topState w := by
    intro k
    induction k with
    | zero => exact ⟨[], .none, rfl⟩
    | succ k ih =>
      obtain ⟨y, hy, hty⟩ := ih
      have hup : Climbs t name w n ([] ++ y) (z ++ y) := (h.rebase hty).lower
      refine ⟨z ++ y, hy.trans hup, ?_⟩
      rw [List.append_assoc, topState_append z hty, ht]
  apply endless_of_unbounded
  intro k
  obtain ⟨y, hy, _⟩ := hk k
  exact ⟨n * k, Nat.le_mul_of_pos_left k hn, y ++ w, hy.reducesIn⟩

/-- What is on a stack now was there when its lower part was on top, and the upper part has grown
above that since. -/
theorem Climbs.split (h : Climbs t name w n z₀ z) (hz : z₀.length ≤ 1) (he : z = x ++ y)
    (hne : y ≠ []) :
    ∃ m k, m + k = n ∧ Climbs t name w m z₀ y ∧ Climbs t name (y ++ w) k [] x := by
  induction h generalizing x with
  | @none z =>
    have hl := congrArg List.length he
    have hy : 0 < y.length := List.length_pos_iff.mpr hne
    rw [List.length_append] at hl
    have hx : x = [] := List.length_eq_zero_iff.mp (by omega)
    subst hx
    subst he
    exact ⟨0, 0, rfl, .none, .none⟩
  | @more n z₀ z z' h hs hne' ih =>
    obtain ⟨target, count, hz', _⟩ := hs.above hne'
    cases x with
    | nil =>
      subst he
      exact ⟨n + 1, 0, rfl, .more h hs hne', .none⟩
    | cons q x =>
      -- the last reduction took nothing from the lower part, so it was there before
      rw [hz', List.cons_append] at he
      obtain ⟨rfl, hd⟩ := List.cons.inj he
      have hzs : z = (z.take count ++ x) ++ y := by
        rw [List.append_assoc, ← hd, List.take_append_drop]
      obtain ⟨m, k, hm, hy, hx⟩ := ih hz hzs
      refine ⟨m, k + 1, by omega, hy, .more hx ?_ (List.cons_ne_nil _ _)⟩
      rw [hz', hd] at hs
      rw [hzs] at hs
      simpa only [List.append_assoc, List.cons_append] using hs

/-- Unless the reductions never end, no state is above itself. -/
theorem Climbs.nodup (h : Climbs t name w n z₀ z) (hz : z₀.length ≤ 1)
    (hfin : ¬Endless t name (z₀ ++ w)) : z.Nodup := by
  induction z generalizing n with
  | nil => exact List.nodup_nil
  | cons q z ih =>
    rw [List.nodup_cons]
    constructor
    · intro hq
      obtain ⟨x, y, rfl⟩ := List.append_of_mem hq
      obtain ⟨m, k, _, hlow, hup⟩ :=
        h.split (x := q :: x) (y := q :: y) hz rfl (List.cons_ne_nil _ _)
      have hk : 0 < k := by
        cases hup
        exact Nat.succ_pos _
      exact hfin (.of_reducesIn hlow.reducesIn (endless_of_climb hup hk rfl))
    · cases z with
      | nil => exact List.nodup_nil
      | cons q' z =>
        obtain ⟨m, k, _, hlow, _⟩ :=
          h.split (x := [q]) (y := q' :: z) hz rfl (List.cons_ne_nil _ _)
        exact ih hlow

theorem Climbs.lt_states (h : Climbs t name w n z₀ z) (hz : z₀.length ≤ 1)
    (hs : Reduces t name (z ++ w) v) : ∀ q ∈ z, q < t.states.length := by
  induction z generalizing n v with
  | nil => simp
  | cons q z ih =>
    intro p hp
    rcases List.mem_cons.mp hp with rfl | hp
    · exact hs.top_lt
    · have hne : z ≠ [] := List.ne_nil_of_mem hp
      obtain ⟨m, k, _, hlow, hup⟩ := h.split (x := [q]) (y := z) hz rfl hne
      cases k with
      | zero => cases hup
      | succ k =>
        obtain ⟨v', hv', _⟩ := hup.reducesIn.first
        exact ih hlow hv' p hp

theorem length_le_of_nodup (hn : z.Nodup) (hz : ∀ q ∈ z, q < n) : z.length ≤ n := by
  have hsub : z ⊆ List.range n := fun q hq => List.mem_range.mpr (hz q hq)
  have := (hn.subperm hsub).length_le
  rwa [List.length_range] at this

/-- Some distinct states of a table with `n` states, as a word of that length that is filled up
with `n`. -/
def filled (n : Nat) (z : List Nat) : Fin n → Fin (n + 1) :=
  fun j => Fin.ofNat (n + 1) (z[j.val]?.getD n)

theorem filled_injective (hy : y.Nodup) (hy' : ∀ q ∈ y, q < n) (hz : z.Nodup)
    (hz' : ∀ q ∈ z, q < n) (h : filled n y = filled n z) : y = z := by
  have hget : ∀ {u : List Nat} {j : Nat}, (∀ q ∈ u, q < n) → u[j]?.getD n < n + 1 := by
    intro u j hu
    cases hj : u[j]? with
    | none => exact Nat.lt_succ_self n
    | some q => exact Nat.lt_succ_of_lt (hu q (List.mem_of_getElem? hj))
  apply List.ext_getElem?
  intro j
  by_cases hj : j < n
  · have hp := congrArg Fin.val (congrFun h ⟨j, hj⟩)
    simp only [filled, Fin.val_ofNat, Nat.mod_eq_of_lt (hget hy'), Nat.mod_eq_of_lt (hget hz')] at hp
    cases hyj : y[j]? with
    | none =>
      cases hzj : z[j]? with
      | none => rfl
      | some q =>
        have := hz' q (List.mem_of_getElem? hzj)
        simp only [hyj, hzj, Option.getD_none, Option.getD_some] at hp
        omega
    | some p =>
      have := hy' p (List.mem_of_getElem? hyj)
      cases hzj : z[j]? with
      | none =>
        simp only [hyj, hzj, Option.getD_none, Option.getD_some] at hp
        omega
      | some q =>
        simp only [hyj, hzj, Option.getD_some] at hp
        rw [hp]
  · have hly := length_le_of_nodup hy hy'
    have hlz := length_le_of_nodup hz hz'
    rw [List.getElem?_eq_none (by omega), List.getElem?_eq_none (by omega)]

/-- The number of ways to fill the stack with distinct states bounds the reductions above some
states, unless they never end. -/
theorem Climbs.length_le (h : Climbs t name w n z₀ z) (hz : z₀.length ≤ 1)
    (hfin : ¬Endless t name (z₀ ++ w)) : n ≤ (t.states.length + 1) ^ t.states.length := by
  have hmid : ∀ i : Fin n, ∃ y, Climbs t name w i z₀ y ∧ ∃ v, Reduces t name (y ++ w) v := by
    intro i
    obtain ⟨extra, he⟩ := Nat.exists_eq_add_of_lt i.isLt
    rw [he, Nat.add_assoc] at h
    obtain ⟨y, hy, hr⟩ := h.ends
    obtain ⟨v, hv, _⟩ := hr.reducesIn.first
    exact ⟨y, hy, v, hv⟩
  choose y hy hgo using hmid
  have hn : ∀ i, (y i).Nodup := fun i => (hy i).nodup hz hfin
  have hlt : ∀ i, ∀ q ∈ y i, q < t.states.length := fun i =>
    (hy i).lt_states hz (hgo i).choose_spec
  have hne : ∀ i j : Fin n, i < j → y i ≠ y j := by
    -- the same states a second time would come back for ever
    intro i j hij he
    obtain ⟨extra, hj⟩ := Nat.exists_eq_add_of_lt (show i.val < j.val from hij)
    have hyj := hy j
    rw [hj, Nat.add_assoc] at hyj
    obtain ⟨x, hx, hr⟩ := hyj.ends
    rw [hx.unique (hy i), he] at hr
    have hcycle := endless_of_cycle hr.reducesIn (Nat.succ_pos extra)
    exact hfin (.of_reducesIn (hy j).reducesIn hcycle)
  have hinj : Function.Injective fun i => filled t.states.length (y i) := by
    intro i j he
    have hy' := filled_injective (hn i) (hlt i) (hn j) (hlt j) he
    rcases lt_trichotomy i j with hij | rfl | hji
    · exact absurd hy' (hne i j hij)
    · rfl
    · exact absurd hy'.symm (hne j i hji)
  simpa using Fintype.card_le_of_injective _ hinj

/-- Reductions leave the lower states alone all the time, or go on with fewer of them after a
while. -/
theorem ReducesIn.climbs_or_falls (h : ReducesIn t name n u v) (hu : u = z₀ ++ w) :
    (∃ z, v = z ++ w ∧ Climbs t name w n z₀ z) ∨
    ∃ p m z target count, p + 1 + m = n ∧ Climbs t name w p z₀ z ∧
      1 ≤ count ∧ count ≤ w.length ∧ Reduces t name (z ++ w) (target :: w.drop count) ∧
      ReducesIn t name m (target :: w.drop count) v := by
  induction h with
  | none => exact .inl ⟨z₀, hu, .none⟩
  | @more n u v v' _ hs ih =>
    rcases ih hu with ⟨z, rfl, hc⟩ | ⟨p, m, z, target, count, hn, hc, hpos, hle, hr, hm⟩
    · rcases hs.above_or_below with ⟨target, count, rfl, _⟩ | ⟨target, count, hpos, hle, rfl⟩
      · exact .inl ⟨_, rfl, .more hc hs (List.cons_ne_nil _ _)⟩
      · exact .inr ⟨n, 0, z, target, count, rfl, hc, hpos, hle, hs, .none⟩
    · exact .inr ⟨p, m + 1, z, target, count, by omega, hc, hpos, hle, hr, .more hm hs⟩

/-- Reductions that end are no more than there are levels times ways to fill the stack above each. -/
theorem ReducesIn.length_le {level : Nat} (h : ReducesIn t name n (z₀ ++ w) v)
    (hz : z₀.length ≤ 1) (hw : w.length ≤ level) (hfin : ¬Endless t name (z₀ ++ w)) :
    n ≤ (level + 1) * ((t.states.length + 1) ^ t.states.length + 1) := by
  induction level generalizing n z₀ w with
  | zero =>
    rcases h.climbs_or_falls rfl with ⟨z, _, hc⟩ | ⟨p, m, z, target, count, _, _, hpos, hle, _⟩
    · have := hc.length_le hz hfin
      omega
    · omega
  | succ level ih =>
    rcases h.climbs_or_falls rfl with ⟨z, _, hc⟩ |
      ⟨p, m, z, target, count, hn, hc, hpos, hle, hr, hm⟩
    · have := hc.length_le hz hfin
      rw [Nat.add_mul]
      omega
    · -- a fall lands one state above fewer states, and there the bound holds again
      have hp := hc.length_le hz hfin
      have hfin' : ¬Endless t name ([target] ++ w.drop count) := fun he =>
        hfin (.of_reducesIn (.more hc.reducesIn hr) he)
      have hlen : (w.drop count).length ≤ level := by
        rw [List.length_drop]
        omega
      have hm' : ReducesIn t name m ([target] ++ w.drop count) v := hm
      have hrest := ih hm' (Nat.le_refl 1) hlen hfin'
      rw [Nat.add_mul]
      omega

end ParseReport
