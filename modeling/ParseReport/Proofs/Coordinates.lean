import ParseReport.Proofs.Causes
import ParseReport.Proofs.Phrases
import ParseReport.Proofs.Positions

/-!
Two ways to count rows and columns. An error has the row and the column of the parser, which counts
rows at line feeds and may leave out those inside of tokens, and a report breaks lines at carriage
returns as well. What lies in front of an error ends, in the lines of a report, at the position of
the error exactly if no line feed there is left out and every carriage return stands before a line
feed.
-/

namespace ParseReport

/-- Every carriage return of a text stands directly before a line feed. -/
def Text.ReturnsPaired : Text → Prop
  | [] => True
  | c :: rest => (c = '\r' → rest.head? = some '\n') ∧ Text.ReturnsPaired rest

theorem position_key_injective {p q : Position} (h : p.key = q.key) : p = q := by
  obtain ⟨row, col, _, _⟩ := p
  obtain ⟨row', col', _, _⟩ := q
  obtain ⟨rfl, rfl⟩ := Prod.mk.inj (toLex.injective h)
  rfl

/-- Reading a whole rest leaves its end where it is exactly if no carriage return is alone. -/
theorem endKey_advance_eq_iff {c : Cursor} :
    (c.advance true c.rest.length).endKey = c.endKey ↔ c.rest.ReturnsPaired := by
  induction hr : c.rest generalizing c with
  | nil => exact ⟨fun _ => trivial, fun _ => rfl⟩
  | cons d rest ih =>
    have hne : c.rest ≠ [] := by
      rw [hr]
      exact List.cons_ne_nil _ _
    have hstep : (c.step true).rest = rest := by
      rw [Cursor.step_rest, hr]
      rfl
    have hrest := ih hstep
    rw [List.length_cons, Cursor.advance]
    by_cases hlone : d = '\r' ∧ rest.head? ≠ some '\n'
    · obtain ⟨rfl, hn⟩ := hlone
      have hlt : ((c.step true).advance true rest.length).endKey < c.endKey :=
        lt_of_le_of_lt (endKey_le_of_steps (advance_steps _ _ _)) (endKey_lone_return_lt hr hn)
      exact ⟨fun he => absurd he hlt.ne, fun hp => absurd (hp.1 rfl) hn⟩
    · have hpaired : d = '\r' → rest.head? = some '\n' := by
        intro hd
        by_contra hn
        exact hlone ⟨hd, hn⟩
      have heq : (c.step true).endKey = c.endKey := by
        apply endKey_step_eq hne
        intro rest' hr'
        obtain ⟨rfl, rfl⟩ := List.cons.inj (hr.symm.trans hr')
        exact hpaired rfl
      rw [← heq, hrest]
      exact ⟨fun hp => ⟨hpaired, hp⟩, fun hp => hp.2⟩

/-- The line and the column behind a text of which line feeds are counted. -/
def Text.feedKey (t : Text) : Nat ×ₗ Nat :=
  toLex (t.count '\n' + 1, (t.rtakeWhile (· ≠ '\n')).length + 1)

theorem Cursor.Counts.key_eq {c : Cursor} {seen : Text} (h : c.Counts seen) :
    c.key = seen.feedKey := by
  unfold Cursor.key Text.feedKey
  rw [h.1, h.2]

theorem feedKey_eq_endKey (t : Text) :
    t.feedKey = ((Cursor.start t).advance true t.length).endKey := by
  have hstart : (Cursor.start t).Counts [] := ⟨rfl, rfl⟩
  have hread := hstart.advance true t.length
  have hall : [] ++ Text.seen true ((Cursor.start t).rest.take t.length) = t := List.take_length
  rw [hall] at hread
  rw [← hread.key_eq]
  exact (endKey_of_finished (advance_all_rest true (.start t))).symm

theorem feedKey_le_endOf (t : Text) : t.feedKey ≤ (Position.endOf t).key := by
  rw [feedKey_eq_endKey, ← endKey_start]
  exact endKey_le_of_steps (advance_steps _ _ _)

theorem feedKey_eq_endOf_iff (t : Text) :
    t.feedKey = (Position.endOf t).key ↔ t.ReturnsPaired := by
  rw [feedKey_eq_endKey, ← endKey_start]
  exact endKey_advance_eq_iff (c := .start t)

/-- A text is seen with no more line feeds than it has, and as it is if it is seen with all of
them. -/
structure Text.SeenAs (t seen : Text) : Prop where
  count_le : seen.count '\n' ≤ t.count '\n'
  eq_of_count_le : t.count '\n' ≤ seen.count '\n' → seen = t

theorem Text.SeenAs.refl (t : Text) : t.SeenAs t :=
  ⟨Nat.le_refl _, fun _ => rfl⟩

theorem Text.SeenAs.append {t seen t' seen' : Text} (h : t.SeenAs seen) (h' : t'.SeenAs seen') :
    Text.SeenAs (t ++ t') (seen ++ seen') := by
  have hle := h.count_le
  have hle' := h'.count_le
  constructor
  · rw [List.count_append, List.count_append]
    omega
  · rw [List.count_append, List.count_append]
    intro hge
    rw [h.eq_of_count_le (by omega), h'.eq_of_count_le (by omega)]

theorem seen_of_not_mem {t : Text} (counted : Bool) (h : '\n' ∉ t) : t.seen counted = t := by
  unfold Text.seen
  split
  next => rfl
  next =>
    have hsame : ∀ c ∈ t, (if c = '\n' then ' ' else c) = c := fun c hc =>
      if_neg (ne_of_mem_of_not_mem hc h)
    exact (List.map_congr_left hsame).trans (List.map_id t)

theorem not_mem_seen_false (t : Text) : '\n' ∉ t.seen false := by
  intro h
  obtain ⟨c, _, he⟩ := List.mem_map.mp h
  split at he
  next => cases he
  next hc => exact hc he

theorem seenAs_seen (counted : Bool) (t : Text) : t.SeenAs (t.seen counted) := by
  cases counted with
  | true => exact .refl t
  | false =>
    have hzero := List.count_eq_zero.mpr (not_mem_seen_false t)
    refine ⟨by omega, fun hle => seen_of_not_mem false (List.count_eq_zero.mp ?_)⟩
    omega

section

variable {kinds : List TokenKind} {c d place : Cursor} {seen source : Text}

theorem Cursor.Sees.seenAs (h : c.Sees kinds seen d) :
    Text.SeenAs (c.rest.take seen.length) seen := by
  induction h with
  | here => exact .refl []
  | @read seen d kind n hs _ hn ih =>
    have hle := (kind.bounds hn).2
    rw [List.length_append, seen_length, List.length_take_of_le hle, List.take_add, ← hs.rest_eq]
    exact ih.append (seenAs_seen _ _)
  | @skipped seen d x rest hs hr ih =>
    have hx : d.rest.take 1 = [x] := by rw [hr]; rfl
    rw [List.length_append, List.length_singleton, List.take_add, ← hs.rest_eq, hx]
    exact ih.append (.refl [x])

theorem Cursor.Sees.start_offset (h : (Cursor.start source).Sees kinds seen place) :
    place.offset = seen.length :=
  h.offset_eq.trans (Nat.zero_add _)

/-- A place has the row and the column that end what lies in front of it exactly if all line feeds
there are seen and every carriage return there is paired. -/
theorem Cursor.Sees.key_eq_endOf_iff (h : (Cursor.start source).Sees kinds seen place) :
    place.key = (Position.endOf (source.take place.offset)).key ↔
      seen = source.take place.offset ∧ seen.ReturnsPaired := by
  rw [h.counts.key_eq, h.start_offset]
  constructor
  · intro he
    have hrow : Text.feedKey (source.take seen.length) ≤ seen.feedKey := by
      rw [he]
      exact feedKey_le_endOf _
    have hcount : (source.take seen.length).count '\n' ≤ seen.count '\n' :=
      Nat.le_of_succ_le_succ (Prod.Lex.monotone_fst _ _ hrow)
    have hall : seen = source.take seen.length := h.seenAs.eq_of_count_le hcount
    refine ⟨hall, (feedKey_eq_endOf_iff seen).mp (he.trans ?_)⟩
    rw [← hall]
  · rintro ⟨hall, hpaired⟩
    rw [← hall]
    exact (feedKey_eq_endOf_iff seen).mpr hpaired

end

/-- Where line feeds in tokens are not counted, no token that a text can have holds one. A parser
may leave them out of the count for the sake of speed, and this is what makes that right. -/
def Table.CountsFeeds (t : Table) (source : Text) : Prop :=
  ∀ kind ∈ t.kinds, kind.countsFeeds = false → ∀ o < source.length,
    ∀ n ∈ kind.length? (source.take o).reverse (source.drop o), '\n' ∉ (source.drop o).take n

instance (t : Table) (source : Text) : Decidable (t.CountsFeeds source) :=
  inferInstanceAs (Decidable (∀ kind ∈ t.kinds, kind.countsFeeds = false → ∀ o < source.length,
    ∀ n ∈ kind.length? (source.take o).reverse (source.drop o), '\n' ∉ (source.drop o).take n))

/-- Then a text is seen as it is. -/
theorem Cursor.Sees.eq_take {t : Table} {place : Cursor} {seen source : Text}
    (h : (Cursor.start source).Sees t.kinds seen place) (hc : t.CountsFeeds source) :
    seen = source.take place.offset := by
  induction h with
  | here => rfl
  | @read seen d kind n hs hk hn ih =>
    obtain ⟨hpos, hle⟩ := kind.bounds hn
    have htext : d.text = source := hs.text_eq
    have hlen : d.offset + d.rest.length = source.length := Cursor.LeadsTo.start_length ⟨_, hs⟩
    have hseen : Text.seen kind.countsFeeds (d.rest.take n) = d.rest.take n := by
      cases hf : kind.countsFeeds with
      | true => rfl
      | false =>
        apply seen_of_not_mem
        have hplace := hc kind hk hf d.offset (by omega) n
        rw [← htext, d.take_text, d.drop_text, List.reverse_reverse] at hplace
        exact hplace hn
    rw [hseen, Cursor.advance_offset hle, List.take_add, ← ih, ← htext, d.drop_text]
  | @skipped seen d x rest hs hr ih =>
    have htext : d.text = source := hs.text_eq
    have hne : d.rest ≠ [] := by simp [hr]
    rw [Cursor.step_offset hne, List.take_add, ← ih, ← htext, d.drop_text, hr]
    rfl

/-- An error is met at a place that reading leads to, and the count of lines has seen a text on the
way. At the end of the text the error has the end position, before it the line and the column of the
place. -/
structure Incident.MetAt (e : Incident) (t : Table) (source seen : Text) (place : Cursor) :
    Prop where
  sees : (Cursor.start source).Sees t.kinds seen place
  offset_eq : place.offset = e.offset
  at_end : e.offset = source.length → e.error.position source = .endOf source
  before_end : e.offset < source.length → (e.error.position source).key = place.key

section

variable {t : Table} {limit : Int} {source seen : Text} {e : Incident} {place : Cursor}

theorem recorded_metAt (h : t.LeavesEnd) (he : e ∈ t.recorded limit source) :
    ∃ seen place, e.MetAt t source seen place := by
  obtain ⟨place, ⟨seen, hs⟩, hat⟩ := recorded_at he
  have hend := recorded_isEnd_iff h he
  refine ⟨seen, place, hs, hat.1.symm, fun ho => if_pos (hend.mpr ho), ?_⟩
  intro hlt
  apply position_of_at ⟨seen, hs⟩ hat
  by_contra hn
  have := hend.mp (Bool.not_eq_false _ ▸ hn)
  omega

theorem Incident.MetAt.offset_le (h : e.MetAt t source seen place) :
    e.offset ≤ source.length := by
  have hlen := Cursor.LeadsTo.start_length ⟨seen, h.sees⟩
  have ho := h.offset_eq
  omega

theorem Incident.MetAt.eq_take (h : e.MetAt t source seen place) (hc : t.CountsFeeds source) :
    seen = source.take e.offset :=
  h.offset_eq ▸ h.sees.eq_take hc

theorem Incident.MetAt.position_eq_iff (h : e.MetAt t source seen place) :
    e.error.position source = .endOf (source.take e.offset) ↔
      e.offset = source.length ∨ (seen = source.take e.offset ∧ seen.ReturnsPaired) := by
  rcases Nat.lt_or_eq_of_le h.offset_le with hlt | ho
  · have hne : e.offset ≠ source.length := Nat.ne_of_lt hlt
    have hiff : e.error.position source = .endOf (source.take e.offset) ↔
        place.key = (Position.endOf (source.take e.offset)).key := by
      rw [← h.before_end hlt]
      exact ⟨congrArg Position.key, position_key_injective⟩
    rw [hiff, ← h.offset_eq, h.sees.key_eq_endOf_iff, h.offset_eq]
    exact (or_iff_right hne).symm
  · rw [h.at_end ho, ho, List.take_length]
    exact iff_of_true rfl (.inl rfl)

end

/-- A recorded error is at a place of the text that reading leads to. It has the position of the end
of the text if it is there; before it, the row counts the line feeds that are seen in front of the
place and the column the code points behind the last one. In the lines of a report this is the end
of what lies in front of the place exactly if the place is the end of the text, or all line feeds in
front of it are seen and no carriage return there is alone. They all are seen if the line feeds of
every token that holds one are counted. -/
theorem position_ends_prefix_iff (t : Table) (v : Vocabulary) (h : t.LeavesEnd) (limit : Int)
    (source : Text) :
    ∀ e ∈ t.recorded limit source, ∃ seen place,
      (Cursor.start source).Sees t.kinds seen place ∧ place.offset = e.offset ∧
      e.offset ≤ source.length ∧
      (∀ f ∈ e.error.failures source v, f.position = e.error.position source) ∧
      (e.offset = source.length → e.error.position source = .endOf source) ∧
      (e.offset < source.length →
        (e.error.position source).row = seen.count '\n' + 1 ∧
        (e.error.position source).col = (seen.rtakeWhile (· ≠ '\n')).length + 1) ∧
      (e.error.position source = .endOf (source.take e.offset) ↔
        e.offset = source.length ∨ (seen = source.take e.offset ∧ seen.ReturnsPaired)) ∧
      (t.CountsFeeds source → seen = source.take e.offset) := by
  intro e he
  obtain ⟨seen, place, hmet⟩ := recorded_metAt h he
  refine ⟨seen, place, hmet.sees, hmet.offset_eq, hmet.offset_le,
    fun f hf => (failures_mem hf).1, hmet.at_end, ?_, hmet.position_eq_iff, hmet.eq_take⟩
  intro hlt
  obtain ⟨hrow, hcol⟩ := Prod.mk.inj (toLex.injective (hmet.before_end hlt))
  obtain ⟨hline, hcolumn⟩ := hmet.sees.counts
  exact ⟨hrow.trans hline, hcol.trans hcolumn⟩

/-- Behind `\r\n` the second `a` is out of place, and its position is in the second row. -/
theorem position_ends_prefix_paired :
    pairTable.LeavesEnd ∧ pairTable.CountsFeeds "\r\naa".toList ∧
    ∃ e ∈ pairTable.recorded 5 "\r\naa".toList,
      e.offset = 3 ∧ e.error.position "\r\naa".toList = .endOf "\r\na".toList ∧
      (e.error.position "\r\naa".toList).row = 2 := by
  have hleaves : pairTable.LeavesEnd := by decide
  have hfeeds : pairTable.CountsFeeds "\r\naa".toList := by decide
  obtain ⟨e, he, ho⟩ : ∃ e ∈ pairTable.recorded 5 "\r\naa".toList, e.offset = 3 := by decide
  obtain ⟨seen, place, _, _, _, _, _, hcounts, hiff, hall⟩ :=
    position_ends_prefix_iff pairTable {} hleaves 5 "\r\naa".toList e he
  obtain rfl := hall hfeeds
  rw [ho] at hcounts hiff
  have hpaired : Text.ReturnsPaired ("\r\naa".toList.take 3) := by
    simp [Text.ReturnsPaired]
  exact ⟨hleaves, hfeeds, e, he, ho, hiff.mpr (.inr ⟨rfl, hpaired⟩),
    (hcounts (by decide)).1.trans (by decide)⟩

/-- The tables of pairs with line feeds ignored between the letters, and counted or not. -/
def spacedTable (counted : Bool) : Table :=
  let feed := TokenKind.ofPattern "FEED".toList (.literal ['\n']) counted
  { pairTable with
    states := pairTable.states.map fun s => { s with lexer := ⟨s.lexer.scan ++ [feed], []⟩ }
    root := ⟨pairTable.root.scan ++ [feed], []⟩
    ignored := [feed.name] }

/-- The second `a` is in the first row if the line feed in front of it is not counted. -/
example : ∀ counted, ((spacedTable counted).CountsFeeds "\naa".toList ↔ counted = true) ∧
    ((spacedTable counted).recorded 5 "\naa".toList).map
      (fun e => (e.error.position "\naa".toList).row) = [if counted then 2 else 1] := by
  decide

/-- Behind a lone `\r` the second `a` is in the second line of a report, and its position is in the
first row. -/
theorem position_behind_lone_return :
    pairTable.LeavesEnd ∧ ∃ e ∈ pairTable.recorded 5 "\raa".toList,
      e.offset = 2 ∧ (e.error.position "\raa".toList).row = 1 ∧
      (Position.endOf ("\raa".toList.take e.offset)).row = 2 ∧
      e.error.position "\raa".toList ≠ .endOf ("\raa".toList.take e.offset) := by
  decide

end ParseReport
