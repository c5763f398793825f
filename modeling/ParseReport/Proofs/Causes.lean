import ParseReport.Proofs.Cascades
import ParseReport.Proofs.Recorded

/-!
What causes an error. Every error of a recovering parser tells of one step: the parser finds it if
the stack rejects what was read, and the lexer finds it if no terminal of its state matches. Where
no lexer gives a token the name of the end, an error about the end is one at the end of the text.
-/

namespace ParseReport

section

variable {t : Table} {limit : Int} {source : Text} {c : Configuration} {i : Interruption}
  {e : Incident}

theorem runWithin_interrupted_step {fuel : Nat} (h : t.runWithin fuel c = .interrupted i) :
    ∃ before, t.step before = .interrupted i := by
  induction fuel generalizing c with
  | zero => cases h
  | succ fuel ih =>
    rw [Table.runWithin] at h
    cases hs : t.step c with
    | advanced next => rw [hs] at h; exact ih h
    | accepted => rw [hs] at h; cases h
    | interrupted j =>
      rw [hs] at h
      cases Halt.interrupted.inj h
      exact ⟨c, hs⟩
    | broken flaw => rw [hs] at h; cases h

theorem Recovers.interrupted_step {m : Memory} {incidents : List Incident} {ending : Ending}
    (h : Recovers t limit m c incidents ending) :
    ∀ e ∈ incidents, ∃ before i, t.step before = .interrupted i ∧ e.TellsOf i := by
  induction h with
  | accepted => simp
  | flawed => simp
  | lost hr =>
    obtain ⟨before, hs⟩ := runWithin_interrupted_step hr
    simpa using ⟨before, _, hs, rfl, rfl, rfl⟩
  | stopped hr =>
    obtain ⟨before, hs⟩ := runWithin_interrupted_step hr
    simpa using ⟨before, _, hs, rfl, rfl, rfl⟩
  | resumed hr _ _ _ ih =>
    obtain ⟨before, hs⟩ := runWithin_interrupted_step hr
    intro e he
    rcases List.mem_cons.mp he with rfl | he
    · exact ⟨before, _, hs, rfl, rfl, rfl⟩
    · exact ih e he

theorem recorded_step (h : e ∈ t.recorded limit source) :
    ∃ before i, t.step before = .interrupted i ∧ e.TellsOf i :=
  (recover_recovers t limit source).interrupted_step e (List.mem_filter.mp h).1

theorem recorded_at (h : e ∈ t.recorded limit source) :
    ∃ place : Cursor, (Cursor.start source).LeadsTo t.kinds place ∧ e.At place :=
  (recover_recovers t limit source).advance.1 e (List.mem_filter.mp h).1

end

/-- No token of a lexer has the name of the end, neither from its terminal nor from its text. -/
def Lexer.LeavesEnd (l : Lexer) : Prop :=
  endName ∉ l.names ∧ ∀ entry ∈ l.renames, endName ∉ entry.2.map Prod.snd

instance (l : Lexer) : Decidable l.LeavesEnd :=
  inferInstanceAs (Decidable (_ ∧ _))

/-- The name of the end is left to the end of the text. -/
def Table.LeavesEnd (t : Table) : Prop :=
  t.root.LeavesEnd ∧ ∀ s ∈ t.states, s.lexer.LeavesEnd

instance (t : Table) : Decidable t.LeavesEnd :=
  inferInstanceAs (Decidable (_ ∧ _))

section

variable {l : Lexer} {ignored : List Name} {c after : Cursor} {token : Token}

theorem nameOf_ne_end (h : l.LeavesEnd) {name : Name} (hn : name ∈ l.names)
    (lexeme : Text) : l.nameOf name lexeme ≠ endName := by
  unfold Lexer.nameOf
  cases hr : l.renames.lookup name with
  | none => exact ne_of_mem_of_not_mem hn h.1
  | some others =>
    rw [Option.getD_some]
    cases ho : others.lookup lexeme with
    | none => exact ne_of_mem_of_not_mem hn h.1
    | some other =>
      obtain ⟨before, behind, he, _⟩ := List.lookup_eq_some_iff.mp hr
      obtain ⟨before', behind', he', _⟩ := List.lookup_eq_some_iff.mp ho
      have hentry : (name, others) ∈ l.renames := by simp [he]
      have hother : other ∈ others.map Prod.snd := by simp [he']
      exact ne_of_mem_of_not_mem hother (h.2 _ hentry)

/-- What a lexer finds comes from the first terminal that matches a text and is not ignored, or
from a place where none matches, with all that the lexer allows. -/
def Lexed.ReadBy (l : Lexer) (ignored : List Name) : Lexed → Prop
  | .finished _ => True
  | .token token _ => ∃ place kind n, Lexer.firstMatch? l.scan place = some (kind, n) ∧
      kind.name ∉ ignored ∧ token.name = l.nameOf kind.name (place.rest.take n)
  | .unmatched place allowed =>
      Lexer.firstMatch? l.scan place = none ∧ allowed = l.allowed ignored

theorem readWithin_readBy (l : Lexer) (ignored : List Name) (fuel : Nat) (c : Cursor) :
    (l.readWithin ignored fuel c).ReadBy l ignored := by
  induction fuel generalizing c with
  | zero => exact trivial
  | succ fuel ih =>
    rw [Lexer.readWithin]
    split
    next => exact trivial
    next =>
      split
      next hm => exact ⟨hm, rfl⟩
      next kind n hm =>
        dsimp only
        split
        next => exact ih _
        next hi => exact ⟨c, kind, n, hm, by simpa using hi, rfl⟩

theorem read_readBy (l : Lexer) (ignored : List Name) (c : Cursor) :
    (l.read ignored c).ReadBy l ignored :=
  readWithin_readBy l ignored c.rest.length c

theorem read_name_ne_end (h : l.LeavesEnd) (hr : l.read ignored c = .token token after) :
    token.name ≠ endName := by
  have hread := read_readBy l ignored c
  rw [hr] at hread
  obtain ⟨place, kind, n, hm, _, hname⟩ := hread
  rw [hname]
  exact nameOf_ne_end h (List.mem_map_of_mem (firstMatch?_eq_some hm).1) _

theorem read_allowed {place : Cursor} {allowed : List Name}
    (hr : l.read ignored c = .unmatched place allowed) : allowed = l.allowed ignored := by
  have hread := read_readBy l ignored c
  rw [hr] at hread
  exact hread.2

theorem Table.LeavesEnd.lexer {t : Table} (h : t.LeavesEnd) (state : Nat) :
    (t.lexer state).LeavesEnd := by
  unfold Table.lexer
  split
  next s hs => exact h.2 s (List.mem_of_getElem? hs)
  next => exact h.1

end

section

variable {t : Table} {c : Configuration} {i : Interruption} {e : Incident} {source : Text}
  {limit : Int}

theorem unexpected_isEnd {token : Token} (hn : token.name ≠ endName) (expected : List Name)
    (place : Configuration) : (Table.unexpected token expected place).error.isEnd = false :=
  decide_eq_false hn

theorem unmatched_isEnd (h : t.LeavesEnd) (stack : Stack) (cursor : Cursor)
    (allowed : List Name) : (t.unmatched stack cursor allowed).error.isEnd = false := by
  unfold Table.unmatched
  split
  next token after hr => exact unexpected_isEnd (read_name_ne_end h.1 hr) _ _
  next => rfl

/-- An error about the end has no line. -/
theorem step_interrupted_isEnd (h : t.LeavesEnd) (hs : t.step c = .interrupted i)
    (hend : i.error.isEnd = true) : i.error.line = none := by
  rcases step_interrupted hs with ⟨cursor, stack, _, _, rfl⟩ |
    ⟨token, after, stack, hr, _, rfl⟩ | ⟨cursor, allowed, _, rfl⟩
  · rfl
  · rw [unexpected_isEnd (read_name_ne_end (h.lexer _) hr)] at hend
    cases hend
  · rw [unmatched_isEnd h] at hend
    cases hend

/-- The errors about the end are those at the end of the text. -/
theorem recorded_isEnd_iff (h : t.LeavesEnd) (he : e ∈ t.recorded limit source) :
    e.error.isEnd = true ↔ e.offset = source.length := by
  obtain ⟨place, hp, hoff, ⟨hrest, hend⟩ | ⟨hne, hline, _⟩⟩ := recorded_at he
  · have hlen := hp.start_length
    rw [hrest, List.length_nil] at hlen
    refine ⟨fun _ => ?_, fun _ => hend⟩
    omega
  · have hlen := hp.start_length
    have hpos := List.length_pos_iff.mpr hne
    refine ⟨fun hend => ?_, fun ho => ?_⟩
    · obtain ⟨before, i, hs, htells, _, _⟩ := recorded_step he
      rw [htells] at hend hline
      rw [step_interrupted_isEnd h hs hend] at hline
      cases hline
    · omega

end

end ParseReport
