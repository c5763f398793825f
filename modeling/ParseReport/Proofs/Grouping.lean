import Mathlib.Data.List.Induction
import Mathlib.Data.List.Nodup
import ParseReport.Grouping

/-!
What groups are: for each key, in the order in which the keys first occur, all elements that have
it. If a list is made of blocks, where the elements of a block share a key, the blocks are the
groups. So groups put one behind the other have the same groups again, and when a list goes on, its
groups grow and new ones come behind them.
-/

namespace ParseReport

/-- What the groups of a list by a key are: they have the keys of the elements, in the order in
which these first occur, and the members of a group are the elements that have its key, in their
order. -/
structure IsGrouping {κ α : Type} [DecidableEq κ] (key : α → κ) (items : List α)
    (groups : List (κ × List α)) : Prop where
  keys : ∀ k, k ∈ groups.map Prod.fst ↔ k ∈ items.map key
  order : (groups.map Prod.fst).Pairwise fun k l =>
    (items.map key).idxOf k < (items.map key).idxOf l
  members : ∀ group ∈ groups, group.2 = items.filter fun a => key a = group.1

section

variable {κ α β : Type} [DecidableEq κ]

theorem addToGroup_of_not_mem {k : κ} (a : α) {groups : List (κ × List α)}
    (h : k ∉ groups.map Prod.fst) : addToGroup k a groups = groups ++ [(k, [a])] := by
  induction groups with
  | nil => rfl
  | cons group groups ih =>
    obtain ⟨k', members⟩ := group
    rw [List.map_cons, List.mem_cons, not_or] at h
    rw [addToGroup, if_neg h.1, ih h.2]
    rfl

theorem addToGroup_last {k : κ} (a : α) {groups : List (κ × List α)} (members : List α)
    (h : k ∉ groups.map Prod.fst) :
    addToGroup k a (groups ++ [(k, members)]) = groups ++ [(k, members ++ [a])] := by
  induction groups with
  | nil => simp [addToGroup]
  | cons group groups ih =>
    obtain ⟨k', members'⟩ := group
    rw [List.map_cons, List.mem_cons, not_or] at h
    rw [List.cons_append, addToGroup, if_neg h.1, ih h.2]
    rfl

/-- Elements that share a new key make up the next group. -/
theorem foldl_addToGroup_block {key : α → κ} {k : κ} {items : List α}
    {groups : List (κ × List α)} (hne : items ≠ []) (hk : ∀ a ∈ items, key a = k)
    (h : k ∉ groups.map Prod.fst) :
    items.foldl (fun groups a => addToGroup (key a) a groups) groups = groups ++ [(k, items)] := by
  have hmore : ∀ (rest members : List α), (∀ a ∈ rest, key a = k) →
      rest.foldl (fun groups a => addToGroup (key a) a groups) (groups ++ [(k, members)]) =
        groups ++ [(k, members ++ rest)] := by
    intro rest
    induction rest with
    | nil => simp
    | cons a rest ih =>
      intro members hr
      rw [List.foldl_cons, hr a List.mem_cons_self, addToGroup_last a members h,
        ih _ fun b hb => hr b (List.mem_cons_of_mem a hb), List.append_assoc]
      rfl
  cases items with
  | nil => exact absurd rfl hne
  | cons a items =>
    rw [List.foldl_cons, hk a List.mem_cons_self, addToGroup_of_not_mem a h]
    exact hmore items [a] fun b hb => hk b (List.mem_cons_of_mem a hb)

/-- Blocks with different keys are the groups. -/
theorem groupBy_flatMap {key : α → κ} {k : β → κ} {block : β → List α} {bs : List β}
    (hne : ∀ b ∈ bs, block b ≠ []) (hk : ∀ b ∈ bs, ∀ a ∈ block b, key a = k b)
    (hd : (bs.map k).Nodup) :
    groupBy key (bs.flatMap block) = bs.map fun b => (k b, block b) := by
  have hall : ∀ groups : List (κ × List α), (∀ b ∈ bs, k b ∉ groups.map Prod.fst) →
      (bs.flatMap block).foldl (fun groups a => addToGroup (key a) a groups) groups =
        groups ++ bs.map fun b => (k b, block b) := by
    induction bs with
    | nil => simp
    | cons b bs ih =>
      intro groups hg
      rw [List.map_cons, List.nodup_cons] at hd
      rw [List.flatMap_cons, List.foldl_append,
        foldl_addToGroup_block (hne b List.mem_cons_self) (hk b List.mem_cons_self)
          (hg b List.mem_cons_self),
        ih (fun c hc => hne c (List.mem_cons_of_mem b hc))
          (fun c hc => hk c (List.mem_cons_of_mem b hc)) hd.2]
      · simp
      · -- the key of this block does not come again
        intro c hc hm
        rw [List.map_append, List.mem_append] at hm
        rcases hm with hm | hm
        · exact hg c (List.mem_cons_of_mem b hc) hm
        · have he : k c = k b := by simpa using hm
          exact hd.1 (List.mem_map.mpr ⟨c, hc, he⟩)
  exact hall [] (by simp)

theorem distinct_flatMap {k : β → κ} {block : β → List κ} {bs : List β}
    (hne : ∀ b ∈ bs, block b ≠ []) (hk : ∀ b ∈ bs, ∀ a ∈ block b, a = k b)
    (hd : (bs.map k).Nodup) : distinct (bs.flatMap block) = bs.map k := by
  have hg : groupBy id (bs.flatMap block) = bs.map fun b => (k b, block b) :=
    groupBy_flatMap hne hk hd
  rw [distinct, hg, List.map_map]
  rfl

/-- An element of a known key joins the group of this key and no other. -/
theorem addToGroup_of_mem {k : κ} (a : α) (members : κ → List α) {ks : List κ} (hd : ks.Nodup)
    (h : k ∈ ks) :
    addToGroup k a (ks.map fun k' => (k', members k')) =
      ks.map fun k' => (k', if k' = k then members k' ++ [a] else members k') := by
  induction ks with
  | nil => cases h
  | cons k' ks ih =>
    obtain ⟨hk', hd⟩ := List.nodup_cons.mp hd
    rw [List.map_cons, addToGroup]
    by_cases he : k = k'
    · subst he
      have hrest : ∀ k' ∈ ks, (k', members k') =
          (k', if k' = k then members k' ++ [a] else members k') := by
        intro k' hm
        rw [if_neg (ne_of_mem_of_not_mem hm hk')]
      rw [if_pos rfl, List.map_cons, if_pos rfl, List.map_congr_left hrest]
    · rw [if_neg he, ih hd ((List.mem_cons.mp h).resolve_left he), List.map_cons,
        if_neg (Ne.symm he)]

theorem groupBy_concat (key : α → κ) (items : List α) (a : α) :
    groupBy key (items ++ [a]) = addToGroup (key a) a (groupBy key items) := by
  rw [groupBy, List.foldl_append]
  rfl

theorem addToGroup_perm (k : κ) (a : α) (groups : List (κ × List α)) :
    ((addToGroup k a groups).flatMap Prod.snd).Perm (a :: groups.flatMap Prod.snd) := by
  induction groups with
  | nil => exact .refl _
  | cons group groups ih =>
    obtain ⟨k', members⟩ := group
    rw [addToGroup]
    split
    next =>
      rw [List.flatMap_cons, List.flatMap_cons, List.append_assoc]
      exact List.perm_middle
    next => exact (ih.append_left members).trans List.perm_middle

theorem filter_key_eq_nil {key : α → κ} {items : List α} {k : κ} (h : k ∉ items.map key) :
    items.filter (fun a => key a = k) = [] := by
  apply List.filter_eq_nil_iff.mpr
  intro a ha he
  exact h (List.mem_map.mpr ⟨a, ha, of_decide_eq_true he⟩)

/-- The members of all groups are the elements of the list. -/
theorem groupBy_perm (key : α → κ) (items : List α) :
    ((groupBy key items).flatMap Prod.snd).Perm items := by
  induction items using List.reverseRecOn with
  | nil => exact .refl _
  | append_singleton items a ih =>
    rw [groupBy_concat]
    have hmembers := (addToGroup_perm (key a) a (groupBy key items)).trans (ih.cons a)
    exact hmembers.trans (List.perm_append_singleton a items).symm

end

section

variable {κ : Type} [BEq κ] [LawfulBEq κ]

theorem eraseDups_concat (ks : List κ) (k : κ) :
    (ks ++ [k]).eraseDups = if k ∈ ks then ks.eraseDups else ks.eraseDups ++ [k] := by
  rw [List.eraseDups_append]
  by_cases h : k ∈ ks
  · simp [List.removeAll, h]
  · simp [List.removeAll, h, List.eraseDups_cons]

/-- Elements that are kept once stand in the order in which they first occur. -/
theorem eraseDups_pairwise (ks : List κ) :
    ks.eraseDups.Pairwise fun k l => ks.idxOf k < ks.idxOf l := by
  induction ks using List.reverseRecOn with
  | nil => exact .nil
  | append_singleton ks k ih =>
    have hfirst : ∀ l ∈ ks.eraseDups, (ks ++ [k]).idxOf l = ks.idxOf l :=
      fun l hl => List.idxOf_append_of_mem (List.mem_eraseDups.mp hl)
    have hkept : ks.eraseDups.Pairwise fun l l' => (ks ++ [k]).idxOf l < (ks ++ [k]).idxOf l' := by
      refine ih.imp_of_mem ?_
      intro l l' hl hl' hlt
      rwa [hfirst l hl, hfirst l' hl']
    rw [eraseDups_concat]
    split
    next => exact hkept
    next hk =>
      refine List.pairwise_append.mpr ⟨hkept, List.pairwise_singleton _ _, ?_⟩
      intro l hl l' hl'
      have hlt := List.idxOf_lt_length_of_mem (List.mem_eraseDups.mp hl)
      rw [List.mem_singleton.mp hl', hfirst l hl, List.idxOf_append_of_notMem hk]
      omega

theorem eraseDups_nodup (ks : List κ) : ks.eraseDups.Nodup :=
  (eraseDups_pairwise ks).imp fun hlt => ne_of_apply_ne (ks.idxOf ·) (Nat.ne_of_lt hlt)

theorem eraseDups_filter (keep : κ → Bool) (ks : List κ) :
    (ks.filter keep).eraseDups = ks.eraseDups.filter keep := by
  induction ks using List.reverseRecOn with
  | nil => rfl
  | append_singleton ks k ih =>
    rw [List.filter_append, eraseDups_concat]
    cases hk : keep k with
    | true =>
      have hone : [k].filter keep = [k] := List.filter_cons_of_pos hk
      have hmem : k ∈ ks.filter keep ↔ k ∈ ks := by simp [hk]
      rw [hone, eraseDups_concat, ih, if_congr hmem rfl rfl]
      split
      next => rfl
      next => rw [List.filter_append, hone]
    | false =>
      have hnone : [k].filter keep = [] := List.filter_cons_of_neg (by simp [hk])
      rw [hnone, List.append_nil, ih]
      split
      next => rfl
      next => rw [List.filter_append, hnone, List.append_nil]

/-- The groups of a list are its distinct keys, each with the elements that have it. -/
theorem groupBy_eq_filter {α : Type} [DecidableEq κ] (key : α → κ) (items : List α) :
    groupBy key items =
      (items.map key).eraseDups.map fun k => (k, items.filter fun a => key a = k) := by
  induction items using List.reverseRecOn with
  | nil => rfl
  | append_singleton items a ih =>
    have hmembers : ∀ k, (items ++ [a]).filter (fun b => key b = k) =
        if k = key a then items.filter (fun b => key b = k) ++ [a]
        else items.filter fun b => key b = k := by
      intro k
      by_cases he : k = key a
      · simp [he]
      · simp [he, Ne.symm he]
    rw [groupBy_concat, ih, List.map_append, List.map_singleton, eraseDups_concat]
    by_cases h : key a ∈ items.map key
    · rw [if_pos h, addToGroup_of_mem a _ (eraseDups_nodup _) (List.mem_eraseDups.mpr h)]
      simp only [hmembers]
    · have hkeys : ∀ k ∈ (items.map key).eraseDups, k ≠ key a := by
        intro k hk he
        exact h (he ▸ List.mem_eraseDups.mp hk)
      rw [if_neg h, addToGroup_of_not_mem, List.map_append, List.map_singleton, hmembers,
        if_pos rfl, filter_key_eq_nil h]
      · congr 1
        apply List.map_congr_left
        intro k hk
        rw [hmembers, if_neg (hkeys k hk)]
      · simpa [Function.comp_def] using fun b hb he => h (List.mem_map.mpr ⟨b, hb, he⟩)

theorem mem_groupBy {α : Type} [DecidableEq κ] (key : α → κ) {items : List α} {a : α}
    (h : a ∈ items) : (key a, items.filter fun b => key b = key a) ∈ groupBy key items := by
  rw [groupBy_eq_filter]
  exact List.mem_map.mpr ⟨key a, List.mem_eraseDups.mpr (List.mem_map.mpr ⟨a, h, rfl⟩), rfl⟩

theorem groupBy_ne_nil {α : Type} [DecidableEq κ] (key : α → κ) {items : List α} (h : items ≠ []) :
    groupBy key items ≠ [] := by
  obtain ⟨a, ha⟩ := List.exists_mem_of_ne_nil items h
  exact List.ne_nil_of_mem (mem_groupBy key ha)

end

section

variable {κ α : Type} [DecidableEq κ] {key : α → κ} {items : List α}
  {groups others : List (κ × List α)}

theorem isGrouping_groupBy (key : α → κ) (items : List α) :
    IsGrouping key items (groupBy key items) := by
  have hkeys : (groupBy key items).map Prod.fst = (items.map key).eraseDups := by
    rw [groupBy_eq_filter, List.map_map]
    exact List.map_id _
  constructor
  case keys =>
    intro k
    rw [hkeys, List.mem_eraseDups]
  case order =>
    rw [hkeys]
    exact eraseDups_pairwise _
  case members =>
    intro group hg
    rw [groupBy_eq_filter] at hg
    obtain ⟨k, _, rfl⟩ := List.mem_map.mp hg
    rfl

theorem IsGrouping.nodup (h : IsGrouping key items groups) : (groups.map Prod.fst).Nodup :=
  h.order.imp fun hlt => ne_of_apply_ne ((items.map key).idxOf ·) (Nat.ne_of_lt hlt)

theorem IsGrouping.key_mem (h : IsGrouping key items groups) {group : κ × List α}
    (hg : group ∈ groups) : group.1 ∈ items.map key :=
  (h.keys group.1).mp (List.mem_map_of_mem hg)

theorem IsGrouping.ne_nil (h : IsGrouping key items groups) {group : κ × List α}
    (hg : group ∈ groups) : group.2 ≠ [] := by
  obtain ⟨a, ha, hk⟩ := List.mem_map.mp (h.key_mem hg)
  rw [h.members group hg]
  exact List.ne_nil_of_mem (List.mem_filter.mpr ⟨ha, decide_eq_true hk⟩)

theorem IsGrouping.key_eq (h : IsGrouping key items groups) {group : κ × List α}
    (hg : group ∈ groups) {a : α} (ha : a ∈ group.2) : key a = group.1 := by
  rw [h.members group hg] at ha
  exact of_decide_eq_true (List.mem_filter.mp ha).2

theorem IsGrouping.eq_map (h : IsGrouping key items groups) :
    groups = (groups.map Prod.fst).map fun k => (k, items.filter fun a => key a = k) := by
  rw [List.map_map]
  refine (List.map_id groups).symm.trans (List.map_congr_left ?_)
  intro group hg
  exact Prod.ext rfl (h.members group hg)

/-- A list has only one grouping by a key. -/
theorem IsGrouping.unique (h : IsGrouping key items groups) (h' : IsGrouping key items others) :
    groups = others := by
  have hperm : (groups.map Prod.fst).Perm (others.map Prod.fst) := by
    refine (List.perm_ext_iff_of_nodup h.nodup h'.nodup).mpr ?_
    intro k
    rw [h.keys, h'.keys]
  have hkeys : groups.map Prod.fst = others.map Prod.fst := by
    refine hperm.eq_of_pairwise ?_ h.order h'.order
    intro k l _ _ hlt hgt
    omega
  rw [h.eq_map, h'.eq_map, hkeys]

/-- The groups of a list, put one behind the other, have the same groups again. -/
theorem IsGrouping.groupBy_flatMap_eq (h : IsGrouping key items groups) :
    groupBy key (groups.flatMap Prod.snd) = groups := by
  have hblocks := groupBy_flatMap (fun _ hg => h.ne_nil hg) (fun _ hg _ ha => h.key_eq hg ha)
    h.nodup
  exact hblocks.trans (List.map_id groups)

/-- The groups of a list that goes on are its groups, each with the further elements that have its
key, and behind them the groups of what follows under new keys. -/
theorem groupBy_append (key : α → κ) (front back : List α) :
    groupBy key (front ++ back) =
      ((groupBy key front).map fun group =>
        (group.1, group.2 ++ back.filter fun a => key a = group.1)) ++
      (groupBy key back).filter fun group => group.1 ∉ front.map key := by
  have hremove : (back.map key).removeAll (front.map key) =
      (back.map key).filter fun k => k ∉ front.map key := by
    apply List.filter_congr
    intro k _
    rw [List.elem_eq_mem, decide_not]
  have hkeys : ((front ++ back).map key).eraseDups = (front.map key).eraseDups ++
      (back.map key).eraseDups.filter fun k => k ∉ front.map key := by
    rw [List.map_append, List.eraseDups_append, hremove, eraseDups_filter]
  rw [groupBy_eq_filter key (front ++ back), groupBy_eq_filter key front,
    groupBy_eq_filter key back, hkeys, List.map_append, List.map_map, List.filter_map]
  simp only [List.filter_append]
  congr 1
  apply List.map_congr_left
  intro k hk
  have hnew : k ∉ front.map key := of_decide_eq_true (List.mem_filter.mp hk).2
  rw [filter_key_eq_nil hnew, List.nil_append]

/-- Lists that share no key have no group in common. -/
theorem groupBy_append_of_disjoint {front back : List α}
    (h : ∀ a ∈ front, ∀ b ∈ back, key a ≠ key b) :
    groupBy key (front ++ back) = groupBy key front ++ groupBy key back := by
  have hapart : ∀ k ∈ front.map key, k ∉ back.map key := by
    intro k hk hk'
    obtain ⟨a, ha, rfl⟩ := List.mem_map.mp hk
    obtain ⟨b, hb, he⟩ := List.mem_map.mp hk'
    exact h a ha b hb he.symm
  have hkept : ((groupBy key front).map fun group =>
      (group.1, group.2 ++ back.filter fun a => key a = group.1)) = groupBy key front := by
    refine (List.map_congr_left ?_).trans (List.map_id _)
    intro group hg
    have hk := (isGrouping_groupBy key front).key_mem hg
    rw [filter_key_eq_nil (hapart _ hk), List.append_nil]
    rfl
  have hnew : ((groupBy key back).filter fun group => group.1 ∉ front.map key) =
      groupBy key back := by
    apply List.filter_eq_self.mpr
    intro group hg
    have hk := (isGrouping_groupBy key back).key_mem hg
    exact decide_eq_true fun hm => hapart _ hm hk
  rw [groupBy_append, hkept, hnew]

end

/-- Grouping is stable: the groups are the one list with the keys of the elements, in the order in
which these first occur, where each group has all elements with its key, in their order. No two
groups have one key, none is empty, together they have each element as often as the list has it, and
put one behind the other they have the same groups again. When a list goes on, each of its groups
gets the further elements with its key, and the groups of what follows come behind them if their
keys are new. -/
theorem groupBy_stable {κ α : Type} [DecidableEq κ] (key : α → κ) :
    (∀ items groups, groupBy key items = groups ↔ IsGrouping key items groups) ∧
    (∀ items, ((groupBy key items).map Prod.fst).Nodup ∧
      (∀ group ∈ groupBy key items, group.2 ≠ []) ∧
      ((groupBy key items).flatMap Prod.snd).Perm items ∧
      groupBy key ((groupBy key items).flatMap Prod.snd) = groupBy key items) ∧
    ∀ front back, groupBy key (front ++ back) =
      ((groupBy key front).map fun group =>
        (group.1, group.2 ++ back.filter fun a => key a = group.1)) ++
      (groupBy key back).filter fun group => group.1 ∉ front.map key := by
  refine ⟨fun items groups => ⟨?_, fun h => (isGrouping_groupBy key items).unique h⟩,
    fun items => ?_, groupBy_append key⟩
  · rintro rfl
    exact isGrouping_groupBy key items
  · have h := isGrouping_groupBy key items
    exact ⟨h.nodup, fun _ hg => h.ne_nil hg, groupBy_perm key items, h.groupBy_flatMap_eq⟩

/-- Words by their first characters, which are mixed: the groups of the first two words grow, and
the one under a new character comes behind them. -/
theorem groupBy_stable_mixed :
    IsGrouping List.head?
      ["b1".toList, "a1".toList, "b2".toList, "c1".toList, "a2".toList]
      [(some 'b', ["b1".toList, "b2".toList]), (some 'a', ["a1".toList, "a2".toList]),
        (some 'c', ["c1".toList])] ∧
    groupBy List.head? (["b1".toList, "a1".toList] ++ ["b2".toList, "c1".toList, "a2".toList]) =
      [(some 'b', ["b1".toList] ++ ["b2".toList]), (some 'a', ["a1".toList] ++ ["a2".toList])] ++
        [(some 'c', ["c1".toList])] := by
  obtain ⟨hgroups, _, happend⟩ := groupBy_stable (@List.head? Char)
  refine ⟨(hgroups _ _).mp (by decide), ?_⟩
  rw [happend]
  decide

end ParseReport
