import ParseReport.Proofs.Steps

/-!
Where reading gets to in a text. A token, an unmatched character and the end of the text are all
found at places that are reached from the one where reading began, by reading tokens of the kinds
that a table knows and by skipping single code points; and every token is longer than nothing.
-/

namespace ParseReport

/-- A text as the count of lines sees it: where line feeds are not counted it has blanks for
them. -/
def Text.seen (counted : Bool) (t : Text) : Text :=
  if counted then t else t.map fun c => if c = '\n' then ' ' else c

@[simp] theorem seen_length (counted : Bool) (t : Text) : (t.seen counted).length = t.length := by
  unfold Text.seen
  split <;> simp

theorem seen_append (counted : Bool) (a b : Text) :
    Text.seen counted (a ++ b) = a.seen counted ++ b.seen counted := by
  unfold Text.seen
  split <;> simp

/-- Reading leads from one place to another: it reads tokens of some kinds and skips single code
points. The text is what the count of lines sees on the way. -/
inductive Cursor.Sees (kinds : List TokenKind) (c : Cursor) : Text → Cursor → Prop
  | here : Sees kinds c [] c
  | read {seen d kind n} : Sees kinds c seen d → kind ∈ kinds →
      kind.length? d.before d.rest = some n →
      Sees kinds c (seen ++ Text.seen kind.countsFeeds (d.rest.take n))
        (d.advance kind.countsFeeds n)
  | skipped {seen d x rest} : Sees kinds c seen d → d.rest = x :: rest →
      Sees kinds c (seen ++ [x]) (d.step true)

/-- Reading leads from one place to another. -/
def Cursor.LeadsTo (kinds : List TokenKind) (c d : Cursor) : Prop :=
  ∃ seen, c.Sees kinds seen d

/-- The kinds of tokens that some lexer of a table looks for. -/
def Table.kinds (t : Table) : List TokenKind :=
  t.root.scan ++ t.states.flatMap fun s => s.lexer.scan

theorem root_scan_subset (t : Table) : t.root.scan ⊆ t.kinds :=
  List.subset_append_left _ _

theorem lexer_scan_subset (t : Table) (state : Nat) : (t.lexer state).scan ⊆ t.kinds := by
  unfold Table.lexer
  split
  next s hs =>
    intro kind hk
    exact List.mem_append_right _ (List.mem_flatMap.mpr ⟨s, List.mem_of_getElem? hs, hk⟩)
  next => exact root_scan_subset t

section

variable {kinds : List TokenKind} {c d e : Cursor} {seen : Text}

theorem Cursor.Sees.text_eq (h : c.Sees kinds seen d) : d.text = c.text := by
  induction h with
  | here => rfl
  | read _ _ _ ih => rw [Cursor.advance_text, ih]
  | skipped _ _ ih => exact (Cursor.advance_text true 1 _).trans ih

theorem Cursor.Sees.offset_eq (h : c.Sees kinds seen d) : d.offset = c.offset + seen.length := by
  induction h with
  | here => rfl
  | @read seen d kind n _ _ hn ih =>
    have hle := (kind.bounds hn).2
    rw [Cursor.advance_offset hle, ih, List.length_append, seen_length,
      List.length_take_of_le hle, Nat.add_assoc]
  | @skipped seen d x rest _ hr ih =>
    have hne : d.rest ≠ [] := by simp [hr]
    rw [Cursor.step_offset hne, ih, List.length_append]
    rfl

theorem Cursor.Sees.rest_eq (h : c.Sees kinds seen d) : d.rest = c.rest.drop seen.length := by
  rw [← d.drop_text, h.text_eq, h.offset_eq, ← List.drop_drop, c.drop_text]

theorem Cursor.LeadsTo.refl (c : Cursor) : c.LeadsTo kinds c :=
  ⟨[], .here⟩

theorem Cursor.LeadsTo.trans (h : c.LeadsTo kinds d) (h' : d.LeadsTo kinds e) :
    c.LeadsTo kinds e := by
  obtain ⟨seen, h⟩ := h
  obtain ⟨seen', h'⟩ := h'
  refine ⟨seen ++ seen', ?_⟩
  induction h' with
  | here => rwa [List.append_nil]
  | read _ hk hn ih => rw [← List.append_assoc]; exact ih.read hk hn
  | skipped _ hr ih => rw [← List.append_assoc]; exact ih.skipped hr

theorem Cursor.LeadsTo.text_eq (h : c.LeadsTo kinds d) : d.text = c.text := by
  obtain ⟨_, hs⟩ := h
  exact hs.text_eq

theorem Cursor.LeadsTo.offset_le (h : c.LeadsTo kinds d) : c.offset ≤ d.offset := by
  obtain ⟨_, hs⟩ := h
  exact hs.offset_eq ▸ Nat.le_add_right _ _

/-- What is read is no longer left. -/
theorem Cursor.LeadsTo.rest_length (h : c.LeadsTo kinds d) :
    d.offset + d.rest.length = c.offset + c.rest.length := by
  rw [← Cursor.text_length, ← Cursor.text_length, h.text_eq]

theorem Cursor.LeadsTo.start_length {source : Text}
    (h : (Cursor.start source).LeadsTo kinds d) : d.offset + d.rest.length = source.length := by
  rw [h.rest_length]
  exact Nat.zero_add _

theorem Cursor.LeadsTo.token {kind : TokenKind} {n : Nat} (hk : kind ∈ kinds)
    (hn : kind.length? c.before c.rest = some n) :
    c.LeadsTo kinds (c.advance kind.countsFeeds n) ∧
      c.offset < (c.advance kind.countsFeeds n).offset := by
  obtain ⟨hpos, hle⟩ := kind.bounds hn
  refine ⟨⟨_, Cursor.Sees.here.read hk hn⟩, ?_⟩
  rw [Cursor.advance_offset hle]
  omega

theorem Cursor.LeadsTo.skip (h : c.rest ≠ []) :
    c.LeadsTo kinds (c.step true) ∧ c.offset < (c.step true).offset := by
  obtain ⟨x, rest, hr⟩ := List.exists_cons_of_ne_nil h
  refine ⟨⟨_, Cursor.Sees.here.skipped hr⟩, ?_⟩
  rw [Cursor.step_offset h]
  exact Nat.lt_succ_self _

end

/-- The first match is one of a kind that was looked for. -/
theorem firstMatch?_eq_some {scan : List TokenKind} {c : Cursor} {kind : TokenKind} {n : Nat}
    (h : Lexer.firstMatch? scan c = some (kind, n)) :
    kind ∈ scan ∧ kind.length? c.before c.rest = some n := by
  induction scan with
  | nil => cases h
  | cons first scan ih =>
    rw [Lexer.firstMatch?] at h
    split at h
    next m hm =>
      obtain ⟨rfl, rfl⟩ := Prod.mk.inj (Option.some.inj h)
      exact ⟨List.mem_cons_self, hm⟩
    next =>
      obtain ⟨hk, hn⟩ := ih h
      exact ⟨List.mem_cons_of_mem _ hk, hn⟩

/-- A token is at the place where it begins. -/
def Token.At (token : Token) (place : Cursor) : Prop :=
  token.offset = place.offset ∧ token.line = place.line ∧ token.column = place.column

/-- What is found is reached from the place where reading began; a token ends behind its beginning,
and a place where nothing matches is not the end. -/
def Lexed.FoundFrom (kinds : List TokenKind) (c : Cursor) : Lexed → Prop
  | .finished place => c.LeadsTo kinds place ∧ place.rest = []
  | .token read after => ∃ place : Cursor, c.LeadsTo kinds place ∧ read.At place ∧
      place.LeadsTo kinds after ∧ place.offset < after.offset
  | .unmatched place _ => c.LeadsTo kinds place ∧ place.rest ≠ []

theorem Lexed.FoundFrom.trans {kinds : List TokenKind} {c d : Cursor} {found : Lexed}
    (h : c.LeadsTo kinds d) (hf : found.FoundFrom kinds d) : found.FoundFrom kinds c := by
  cases found with
  | finished place => exact ⟨h.trans hf.1, hf.2⟩
  | token read after =>
    obtain ⟨place, hp, hrest⟩ := hf
    exact ⟨place, h.trans hp, hrest⟩
  | unmatched place allowed => exact ⟨h.trans hf.1, hf.2⟩

theorem readWithin_foundFrom {l : Lexer} {kinds : List TokenKind} (hl : l.scan ⊆ kinds)
    {ignored : List Name} {fuel : Nat} {c : Cursor} (hf : c.rest.length ≤ fuel) :
    (l.readWithin ignored fuel c).FoundFrom kinds c := by
  induction fuel generalizing c with
  | zero => exact ⟨.refl c, List.length_eq_zero_iff.mp (Nat.le_zero.mp hf)⟩
  | succ fuel ih =>
    rw [Lexer.readWithin]
    split
    next he => exact ⟨.refl c, he⟩
    next hne =>
      split
      next => exact ⟨.refl c, hne⟩
      next kind n hm =>
        obtain ⟨hk, hn⟩ := firstMatch?_eq_some hm
        obtain ⟨hto, hlt⟩ := Cursor.LeadsTo.token (hl hk) hn
        dsimp only
        split
        next =>
          -- an ignored token is skipped, and what is left is shorter
          have hr := hto.rest_length
          exact .trans hto (ih (by omega))
        next => exact ⟨c, .refl c, ⟨rfl, rfl, rfl⟩, hto, hlt⟩

theorem read_foundFrom {l : Lexer} {kinds : List TokenKind} (hl : l.scan ⊆ kinds)
    (ignored : List Name) (c : Cursor) : (l.read ignored c).FoundFrom kinds c :=
  readWithin_foundFrom hl (Nat.le_refl _)

/-- An error is met at a place: either the text ends there, or the error has the line and the column
of the place and parsing can go on behind it. -/
def Interruption.At (i : Interruption) (kinds : List TokenKind) (place : Cursor) : Prop :=
  i.offset = place.offset ∧
  ((place.rest = [] ∧ i.error.isEnd = true) ∨
    (i.error.line = some ↑place.line ∧ i.error.column = some ↑place.column ∧
      place.LeadsTo kinds (Table.recoveredCursor i) ∧
      place.offset < (Table.recoveredCursor i).offset))

theorem unexpectedEnd_at (t : Table) (stack : Stack) {cursor : Cursor} (he : cursor.rest = []) :
    (t.unexpectedEnd cursor stack).At t.kinds cursor :=
  ⟨rfl, .inl ⟨he, by simp [Table.unexpectedEnd, ParseError.isEnd]⟩⟩

theorem unexpected_at {kinds : List TokenKind} {token : Token} {place after : Cursor}
    (expected : List Name) (stack : Stack) (ht : token.At place) (ha : place.LeadsTo kinds after)
    (hlt : place.offset < after.offset) :
    (Table.unexpected token expected ⟨after, stack⟩).At kinds place := by
  obtain ⟨ho, hl, hc⟩ := ht
  exact ⟨ho, .inr ⟨by rw [← hl]; rfl, by rw [← hc]; rfl, ha, hlt⟩⟩

theorem unmatched_at (t : Table) (stack : Stack) (allowed : List Name) {cursor : Cursor}
    (hne : cursor.rest ≠ []) :
    ∃ place : Cursor, cursor.LeadsTo t.kinds place ∧
      (t.unmatched stack cursor allowed).At t.kinds place := by
  have hf := read_foundFrom (root_scan_subset t) t.ignored cursor
  unfold Table.unmatched
  split
  next token after hr =>
    rw [hr] at hf
    obtain ⟨place, hp, ht, ha, hlt⟩ := hf
    exact ⟨place, hp, unexpected_at allowed stack ht ha hlt⟩
  next => exact ⟨cursor, .refl cursor, rfl, .inr ⟨rfl, rfl, Cursor.LeadsTo.skip hne⟩⟩

theorem step_advanced_leads {t : Table} {c next : Configuration} (h : t.step c = .advanced next) :
    c.cursor.LeadsTo t.kinds next.cursor ∧ c.cursor.offset < next.cursor.offset := by
  obtain ⟨token, hr, _⟩ := step_advanced h
  have hf := read_foundFrom (lexer_scan_subset t c.stack.top) t.ignored c.cursor
  rw [hr] at hf
  obtain ⟨place, hp, _, ha, hlt⟩ := hf
  exact ⟨hp.trans ha, Nat.lt_of_le_of_lt hp.offset_le hlt⟩

theorem step_advanced_shortens {t : Table} {c next : Configuration}
    (h : t.step c = .advanced next) : next.cursor.rest.length < c.cursor.rest.length := by
  obtain ⟨hto, hlt⟩ := step_advanced_leads h
  have hlen := hto.rest_length
  omega

theorem step_interrupted_at {t : Table} {c : Configuration} {i : Interruption}
    (h : t.step c = .interrupted i) :
    ∃ place : Cursor, c.cursor.LeadsTo t.kinds place ∧ i.At t.kinds place := by
  have hf := read_foundFrom (lexer_scan_subset t c.stack.top) t.ignored c.cursor
  rcases step_interrupted h with ⟨cursor, stack, hr, _, rfl⟩ |
    ⟨token, after, stack, hr, _, rfl⟩ | ⟨cursor, allowed, hr, rfl⟩
  · rw [hr] at hf
    exact ⟨cursor, hf.1, unexpectedEnd_at t stack hf.2⟩
  · rw [hr] at hf
    obtain ⟨place, hp, ht, ha, hlt⟩ := hf
    exact ⟨place, hp, unexpected_at _ stack ht ha hlt⟩
  · rw [hr] at hf
    obtain ⟨place, hp, hat⟩ := unmatched_at t c.stack allowed hf.2
    exact ⟨place, hf.1.trans hp, hat⟩

theorem runWithin_interrupted_at {t : Table} {fuel : Nat} {c : Configuration} {i : Interruption}
    (h : t.runWithin fuel c = .interrupted i) :
    ∃ place : Cursor, c.cursor.LeadsTo t.kinds place ∧ i.At t.kinds place := by
  induction fuel generalizing c with
  | zero => cases h
  | succ fuel ih =>
    rw [Table.runWithin] at h
    cases hs : t.step c with
    | advanced next =>
      rw [hs] at h
      obtain ⟨place, hp, hat⟩ := ih h
      exact ⟨place, (step_advanced_leads hs).1.trans hp, hat⟩
    | accepted => rw [hs] at h; cases h
    | interrupted j =>
      rw [hs] at h
      cases Halt.interrupted.inj h
      exact step_interrupted_at hs
    | broken flaw => rw [hs] at h; cases h

/-- A run meets its error at a place that is reached from its beginning. -/
theorem run_interrupted_at {t : Table} {c : Configuration} {i : Interruption}
    (h : t.run c = .interrupted i) :
    ∃ place : Cursor, c.cursor.LeadsTo t.kinds place ∧ i.At t.kinds place :=
  runWithin_interrupted_at h

end ParseReport
