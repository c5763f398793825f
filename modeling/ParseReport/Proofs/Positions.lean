import Mathlib.Data.List.DropRight
import Mathlib.Data.Prod.Lex
import Mathlib.Logic.Relation
import ParseReport.Diagnosis
import ParseReport.Proofs.Lines
import ParseReport.Proofs.Recorded
import ParseReport.Proofs.Rounds

/-!
The order of positions. A cursor counts lines at line feeds only, and not even at all of them, while
the end of a text is counted in lines that a lone carriage return ends as well; still a place before
the end comes before it.
-/

namespace ParseReport

/-- The row and the column of a position, compared by row and in a row by column. -/
def Position.key (p : Position) : Nat ×ₗ Nat :=
  toLex (p.row, p.col)

instance : LT Position :=
  ⟨fun p q => p.key < q.key⟩

/-- The line and the column of a cursor, in the order of positions. -/
def Cursor.key (c : Cursor) : Nat ×ₗ Nat :=
  toLex (c.line, c.column)

/-- The row and the column where the rest of a text ends, counted from a cursor in the lines of the
rest. -/
def Cursor.endKey (c : Cursor) : Nat ×ₗ Nat :=
  toLex (c.line + (c.rest.lines.length - 1),
    (c.rest.lines.getLastD []).length + if c.rest.lines.length = 1 then c.column else 1)

theorem step_feed {c : Cursor} {rest : Text} (h : c.rest = '\n' :: rest) :
    c.step true = ⟨'\n' :: c.before, rest, c.line + 1, 1⟩ := by
  simp [Cursor.step, h]

theorem step_char {counted : Bool} {c : Cursor} {d : Char} {rest : Text} (h : c.rest = d :: rest)
    (hd : ¬(counted ∧ d = '\n')) :
    c.step counted = ⟨d :: c.before, rest, c.line, c.column + 1⟩ := by
  unfold Cursor.step
  rw [h]
  exact if_neg hd

theorem key_lt_step {counted : Bool} {c : Cursor} (h : c.rest ≠ []) :
    c.key < (c.step counted).key := by
  unfold Cursor.key
  rw [Prod.Lex.toLex_lt_toLex]
  obtain ⟨d, rest, hr⟩ := List.exists_cons_of_ne_nil h
  by_cases hd : counted ∧ d = '\n'
  · obtain ⟨rfl, rfl⟩ := hd
    rw [step_feed hr]
    exact .inl (Nat.lt_succ_self _)
  · rw [step_char hr hd]
    exact .inr ⟨rfl, Nat.lt_succ_self _⟩

/-- Reading a character leaves the end where it is, unless it is a lone carriage return. -/
theorem endKey_step_eq {c : Cursor} (hne : c.rest ≠ [])
    (h : ∀ rest, c.rest = '\r' :: rest → rest.head? = some '\n') :
    (c.step true).endKey = c.endKey := by
  unfold Cursor.endKey
  obtain ⟨d, rest, hr⟩ := List.exists_cons_of_ne_nil hne
  have hpos := Text.lines_length_pos rest
  by_cases hf : d = '\n'
  · subst hf
    have hmany : ([] :: Text.lines rest).length ≠ 1 := by
      rw [List.length_cons]
      omega
    rw [step_feed hr, hr, lines_feed, getLastD_cons_lines, if_neg hmany]
    dsimp only
    rw [ite_self, List.length_cons]
    congr 2
    omega
  · rw [step_char hr fun hd => hf hd.2, hr]
    by_cases hc : d = '\r'
    · subst hc
      -- the two characters end one line together, when the second one is read
      obtain ⟨after, rfl⟩ := List.head?_eq_some_iff.mp (h rest hr)
      have hmany : ([] :: Text.lines after).length ≠ 1 := by
        have := Text.lines_length_pos after
        rw [List.length_cons]
        omega
      rw [lines_return_feed, lines_feed]
      dsimp only
      rw [if_neg hmany, if_neg hmany]
    · rw [lines_char hc hf, extendFirst_length (Text.lines_ne_nil rest),
        extendFirst_getLast (Text.lines_ne_nil rest)]
      dsimp only
      congr 2
      split <;> omega

/-- A character that ends a line of the rest and none of the cursor brings the end nearer. -/
theorem endKey_step_lt {counted : Bool} {c : Cursor} {d : Char} {rest : Text}
    (hr : c.rest = d :: rest) (hlines : Text.lines (d :: rest) = [] :: Text.lines rest)
    (hd : ¬(counted ∧ d = '\n')) : (c.step counted).endKey < c.endKey := by
  have hpos := Text.lines_length_pos rest
  unfold Cursor.endKey
  rw [step_char hr hd, hr, hlines, Prod.Lex.toLex_lt_toLex, List.length_cons]
  dsimp only
  left
  omega

theorem endKey_lone_return_lt {counted : Bool} {c : Cursor} {rest : Text}
    (hr : c.rest = '\r' :: rest) (h : rest.head? ≠ some '\n') :
    (c.step counted).endKey < c.endKey := by
  apply endKey_step_lt hr
  · apply lines_return
    rintro after rfl
    exact h rfl
  · rintro ⟨_, hd⟩
    cases hd

theorem endKey_step_le {counted : Bool} {c : Cursor} (h : c.rest ≠ []) :
    (c.step counted).endKey ≤ c.endKey := by
  obtain ⟨d, rest, hr⟩ := List.exists_cons_of_ne_nil h
  by_cases hlone : d = '\r' ∧ rest.head? ≠ some '\n'
  · obtain ⟨rfl, hn⟩ := hlone
    exact le_of_lt (endKey_lone_return_lt hr hn)
  · have heq : (c.step true).endKey = c.endKey := by
      apply endKey_step_eq h
      intro rest' hr'
      obtain ⟨rfl, rfl⟩ := List.cons.inj (hr.symm.trans hr')
      by_contra hn
      exact hlone ⟨rfl, hn⟩
    by_cases hd : counted ∨ d ≠ '\n'
    · have hsame : c.step counted = c.step true := by
        rcases hd with rfl | hd
        · rfl
        · rw [step_char hr fun hf => hd hf.2, step_char hr fun hf => hd hf.2]
      exact le_of_eq (hsame ▸ heq)
    · -- a line feed that is not counted
      obtain ⟨hc, hd⟩ := not_or.mp hd
      obtain rfl := not_not.mp hd
      exact le_of_lt (endKey_step_lt hr (lines_feed rest) fun hf => hc hf.1)

/-- One place is behind the next code point of another one, counted or not. -/
def Cursor.Next (c d : Cursor) : Prop :=
  c.rest ≠ [] ∧ ∃ counted, d = c.step counted

section

open Relation

variable {kinds : List TokenKind} {c d : Cursor}

theorem advance_steps (counted : Bool) (n : Nat) (c : Cursor) :
    ReflTransGen Cursor.Next c (c.advance counted n) := by
  induction n generalizing c with
  | zero => exact .refl
  | succ n ih =>
    rw [Cursor.advance]
    by_cases hr : c.rest = []
    · rw [Cursor.step_of_finished hr]
      exact ih c
    · exact .head ⟨hr, counted, rfl⟩ (ih _)

theorem Cursor.LeadsTo.steps (h : c.LeadsTo kinds d) : ReflTransGen Cursor.Next c d := by
  obtain ⟨_, hs⟩ := h
  induction hs with
  | here => exact .refl
  | read _ _ _ ih => exact ih.trans (advance_steps _ _ _)
  | skipped _ hr ih => exact ih.tail ⟨by simp [hr], true, rfl⟩

theorem key_lt_of_steps (h : ReflTransGen Cursor.Next c d) : c = d ∨ c.key < d.key := by
  induction h with
  | refl => exact .inl rfl
  | tail _ hn ih =>
    obtain ⟨hne, counted, rfl⟩ := hn
    rcases ih with rfl | hlt
    · exact .inr (key_lt_step hne)
    · exact .inr (hlt.trans (key_lt_step hne))

theorem endKey_le_of_steps (h : ReflTransGen Cursor.Next c d) : d.endKey ≤ c.endKey := by
  induction h with
  | refl => exact le_refl _
  | tail _ hn ih =>
    obtain ⟨hne, counted, rfl⟩ := hn
    exact (endKey_step_le hne).trans ih

/-- A later place of a text comes later in the order of positions. -/
theorem Cursor.LeadsTo.key_lt (h : c.LeadsTo kinds d) (hlt : c.offset < d.offset) :
    c.key < d.key := by
  rcases key_lt_of_steps h.steps with rfl | hk
  · exact absurd hlt (Nat.lt_irrefl _)
  · exact hk

end

theorem endKey_start (source : Text) :
    (Cursor.start source).endKey = (Position.endOf source).key := by
  have hpos := source.lines_length_pos
  change toLex (1 + (source.lines.length - 1),
      (source.lines.getLastD []).length + if source.lines.length = 1 then 1 else 1) =
    toLex (source.lines.length, (source.lines.getLastD []).length + 1)
  rw [ite_self, Nat.add_sub_cancel' hpos]

theorem endKey_of_finished {c : Cursor} (h : c.rest = []) : c.endKey = c.key := by
  simp [Cursor.key, Cursor.endKey, h, Text.lines]

theorem advance_all_rest (counted : Bool) (c : Cursor) :
    (c.advance counted c.rest.length).rest = [] := by
  rw [Cursor.advance_rest]
  exact List.drop_of_length_le (Nat.le_refl _)

theorem key_lt_endKey {c : Cursor} (h : c.rest ≠ []) : c.key < c.endKey := by
  have hend := advance_all_rest true c
  have hsteps := advance_steps true c.rest.length c
  rcases key_lt_of_steps hsteps with he | hlt
  · rw [← he] at hend
    exact absurd hend h
  · calc c.key
        < (c.advance true c.rest.length).key := hlt
      _ = (c.advance true c.rest.length).endKey := (endKey_of_finished hend).symm
      _ ≤ c.endKey := endKey_le_of_steps hsteps

/-- A place before the end of a text comes before its end position. -/
theorem Cursor.LeadsTo.key_lt_endOf {kinds : List TokenKind} {place : Cursor} {source : Text}
    (h : (Cursor.start source).LeadsTo kinds place) (hne : place.rest ≠ []) :
    place.key < (Position.endOf source).key := by
  rw [← endKey_start]
  exact lt_of_lt_of_le (key_lt_endKey hne) (endKey_le_of_steps h.steps)

/-- A cursor has counted the line feeds of a text, and the code points behind the last one. -/
def Cursor.Counts (c : Cursor) (seen : Text) : Prop :=
  c.line = seen.count '\n' + 1 ∧ c.column = (seen.rtakeWhile (· ≠ '\n')).length + 1

theorem Cursor.Counts.step {c : Cursor} {seen rest : Text} {d : Char} (counted : Bool)
    (h : c.Counts seen) (hr : c.rest = d :: rest) :
    (c.step counted).Counts (seen ++ Text.seen counted [d]) := by
  obtain ⟨hline, hcolumn⟩ := h
  unfold Cursor.Counts
  rw [List.count_append]
  by_cases hf : counted ∧ d = '\n'
  · obtain ⟨rfl, rfl⟩ := hf
    have hseen : Text.seen true ['\n'] = ['\n'] := rfl
    rw [step_feed hr, hseen, List.rtakeWhile_concat_neg _ _ _ (by simp)]
    exact ⟨congrArg (· + 1) hline, rfl⟩
  · obtain ⟨x, hx, hne⟩ : ∃ x, Text.seen counted [d] = [x] ∧ x ≠ '\n' := by
      cases counted with
      | true => exact ⟨d, rfl, fun hd => hf ⟨rfl, hd⟩⟩
      | false =>
        refine ⟨if d = '\n' then ' ' else d, rfl, ?_⟩
        split
        next => decide
        next hd => exact hd
    have hzero : [x].count '\n' = 0 := List.count_singleton.trans (if_neg (by simpa using hne))
    rw [step_char hr hf, hx, List.rtakeWhile_concat_pos _ _ _ (by simpa using hne),
      List.length_append, hzero]
    exact ⟨hline, congrArg (· + 1) hcolumn⟩

theorem Cursor.Counts.advance {c : Cursor} {seen : Text} (counted : Bool) (n : Nat)
    (h : c.Counts seen) :
    (c.advance counted n).Counts (seen ++ Text.seen counted (c.rest.take n)) := by
  induction n generalizing c seen with
  | zero =>
    have hnil : Text.seen counted (c.rest.take 0) = [] := by cases counted <;> rfl
    rw [hnil, List.append_nil]
    exact h
  | succ n ih =>
    cases hr : c.rest with
    | nil =>
      have hn := ih h
      rw [hr, List.take_nil] at hn
      rw [Cursor.advance, Cursor.step_of_finished hr, List.take_nil]
      exact hn
    | cons d rest =>
      have hs := ih (h.step counted hr)
      rw [Cursor.step_rest, hr, List.drop_one, List.tail_cons, List.append_assoc,
        ← seen_append] at hs
      exact hs

theorem Cursor.Sees.counts {kinds : List TokenKind} {place : Cursor} {seen source : Text}
    (h : (Cursor.start source).Sees kinds seen place) : place.Counts seen := by
  induction h with
  | here => exact ⟨rfl, rfl⟩
  | read _ _ _ ih => exact ih.advance _ _
  | skipped _ hr ih => exact ih.step true hr

theorem position_of_at {kinds : List TokenKind} {e : Incident} {source : Text} {place : Cursor}
    (hp : (Cursor.start source).LeadsTo kinds place) (h : e.At place)
    (hend : e.error.isEnd = false) : (e.error.position source).key = place.key := by
  obtain ⟨_, ⟨_, he⟩ | ⟨_, hl, hc⟩⟩ := h
  · rw [he] at hend
    cases hend
  · obtain ⟨seen, hs⟩ := hp
    obtain ⟨hline, hcolumn⟩ := hs.counts
    have hof : Position.of? ↑place.line ↑place.column =
        some ⟨place.line, place.column, by omega, by omega⟩ :=
      Position.of?_eq_some_iff.mpr ⟨rfl, rfl⟩
    unfold ParseError.position
    simp only [hend, hl, hc, hof]
    rfl

/-- Errors that are met one behind the other, the end of the text last, have positions in that
order. -/
theorem Incident.Before.position_lt {kinds : List TokenKind} {e later : Incident} {source : Text}
    (h : Incident.Before kinds (.start source) e later) :
    e.error.position source < later.error.position source := by
  obtain ⟨hend, place, place', hp, hat, hto, hat', hlt⟩ := h
  show (e.error.position source).key < (later.error.position source).key
  rw [position_of_at hp hat hend]
  cases hlast : later.error.isEnd with
  | false =>
    rw [position_of_at (hp.trans hto) hat' hlast]
    exact hto.key_lt hlt
  | true =>
    have hof : later.error.position source = Position.endOf source := if_pos hlast
    have hne : place.rest ≠ [] := by
      intro hr
      have hlen := hto.rest_length
      rw [hr, List.length_nil] at hlen
      omega
    rw [hof]
    exact hp.key_lt_endOf hne

/-- The errors that recovering meets have increasing positions. -/
theorem positions_increase (t : Table) (limit : Int) (source : Text) :
    ((t.recover limit source).1.map fun e => e.error.position source).Pairwise (· < ·) :=
  List.pairwise_map.mpr
    ((recover_recovers t limit source).advance.2.imp Incident.Before.position_lt)

end ParseReport
