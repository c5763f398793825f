import Mathlib.Data.List.Chain
import ParseReport.Proofs.Positions

/-!
The one way to part a text into lines with breaks between them. A carriage return and a line feed
that follow each other directly are one break, never two; with this rule the parts of a text are
determined by the text, and the lines among them are its lines.
-/

namespace ParseReport

/-- What ends a line. -/
inductive LineBreak
  | returnFeed
  | loneReturn
  | feed
deriving DecidableEq

/-- The characters of a break. -/
def LineBreak.text : LineBreak → Text
  | .returnFeed => ['\r', '\n']
  | .loneReturn => ['\r']
  | .feed => ['\n']

/-- The parts of a text: the lines that a break ends, each with its break, and the last line. -/
structure Parting where
  ended : List (Text × LineBreak)
  last : Text

namespace Parting

/-- The lines among the parts. -/
def lines (p : Parting) : List Text :=
  p.ended.map Prod.fst ++ [p.last]

/-- The text that the parts make up. -/
def text (p : Parting) : Text :=
  p.ended.flatMap (fun part => part.1 ++ part.2.text) ++ p.last

/-- No line holds a carriage return or a line feed, and no lone carriage return stands directly in
front of a line feed. -/
structure Proper (p : Parting) : Prop where
  plain : ∀ line ∈ p.lines, '\r' ∉ line ∧ '\n' ∉ line
  apart : p.ended.IsChain fun part next => ¬(part.2 = .loneReturn ∧ next = ([], .feed))

/-- The parts with an empty line in front that a break ends. -/
def endLine (b : LineBreak) (p : Parting) : Parting :=
  { p with ended := ([], b) :: p.ended }

/-- The parts with a character in front of the first line. -/
def extend (c : Char) (p : Parting) : Parting :=
  match p.ended with
  | [] => { p with last := c :: p.last }
  | (line, b) :: ended => { p with ended := (c :: line, b) :: ended }

end Parting

/-- The parts that a text is read into from its beginning. -/
def Text.parting : Text → Parting
  | [] => ⟨[], []⟩
  | '\r' :: '\n' :: rest => (Text.parting rest).endLine .returnFeed
  | c :: rest =>
    if c = '\r' then (Text.parting rest).endLine .loneReturn
    else if c = '\n' then (Text.parting rest).endLine .feed
    else (Text.parting rest).extend c

section

variable {p q : Parting} {c : Char} {b : LineBreak} {t : Text}

theorem text_cons (line : Text) (b : LineBreak) (ended : List (Text × LineBreak)) (last : Text) :
    Parting.text ⟨(line, b) :: ended, last⟩ = line ++ (b.text ++ Parting.text ⟨ended, last⟩) := by
  simp [Parting.text]

theorem text_endLine : (p.endLine b).text = b.text ++ p.text := by
  simp [Parting.endLine, Parting.text]

theorem text_extend : (p.extend c).text = c :: p.text := by
  unfold Parting.extend
  split
  next h => simp [Parting.text, h]
  next h => simp [Parting.text, h]

theorem lines_endLine : (p.endLine b).lines = [] :: p.lines :=
  rfl

theorem lines_extend : (p.extend c).lines = extendFirst c p.lines := by
  unfold Parting.extend
  split
  next h => simp [Parting.lines, h, extendFirst]
  next h => simp [Parting.lines, h, extendFirst]

theorem parting_text (t : Text) : t.parting.text = t := by
  fun_induction Text.parting t with
  | case1 => rfl
  | case2 rest ih => rw [text_endLine, ih]; rfl
  | case3 rest _ ih => rw [text_endLine, ih]; rfl
  | case4 rest _ _ ih => rw [text_endLine, ih]; rfl
  | case5 c rest _ _ _ ih => rw [text_extend, ih]

theorem parting_lines (t : Text) : t.parting.lines = t.lines := by
  fun_induction Text.parting t with
  | case1 => rfl
  | case2 rest ih => rw [lines_endLine, ih, lines_return_feed]
  | case3 rest hn ih => rw [lines_endLine, ih, lines_return (by simpa using hn)]
  | case4 rest _ _ ih => rw [lines_endLine, ih, lines_feed]
  | case5 c rest _ hr hf ih => rw [lines_extend, ih, lines_char hr hf]

/-- Behind a lone carriage return that no line feed follows, the first part is not a line feed
alone. -/
theorem apart_of_head? (h : p.text.head? ≠ some '\n') :
    ∀ next ∈ p.ended.head?, ¬(b = .loneReturn ∧ next = ([], .feed)) := by
  rintro next hnext ⟨_, rfl⟩
  obtain ⟨ended, he⟩ := List.head?_eq_some_iff.mp hnext
  apply h
  rw [Parting.text, he]
  rfl

theorem parting_proper (t : Text) : t.parting.Proper := by
  constructor
  · intro line hline
    rw [parting_lines] at hline
    exact breaks_not_mem_lines hline
  · fun_induction Text.parting t with
    | case1 => exact .nil
    | case2 rest ih => exact List.isChain_cons.mpr ⟨fun _ _ h => LineBreak.noConfusion h.1, ih⟩
    | case3 rest hn ih =>
      refine List.isChain_cons.mpr ⟨apart_of_head? ?_, ih⟩
      rw [parting_text]
      intro hhead
      obtain ⟨after, rfl⟩ := List.head?_eq_some_iff.mp hhead
      exact hn after rfl rfl
    | case4 rest _ _ ih => exact List.isChain_cons.mpr ⟨fun _ _ h => LineBreak.noConfusion h.1, ih⟩
    | case5 c rest _ _ _ ih =>
      unfold Parting.extend
      split
      next h => rwa [h] at ih ⊢
      next line b ended h =>
        rw [h] at ih
        obtain ⟨hnext, hended⟩ := List.isChain_cons.mp ih
        exact List.isChain_cons.mpr ⟨hnext, hended⟩

theorem parting_append {line : Text} (h : '\r' ∉ line ∧ '\n' ∉ line) (rest : Text) :
    (line ++ rest).parting = line.foldr Parting.extend rest.parting := by
  induction line with
  | nil => rfl
  | cons c line ih =>
    simp only [List.mem_cons, not_or] at h
    rw [List.cons_append, Text.parting, if_neg (Ne.symm h.1.1), if_neg (Ne.symm h.2.1),
      ih ⟨h.1.2, h.2.2⟩]
    · rfl
    · exact fun _ hc _ => absurd hc.symm h.1.1

theorem parting_break (h : b = .loneReturn → t.head? ≠ some '\n') :
    (b.text ++ t).parting = t.parting.endLine b := by
  cases b with
  | returnFeed => exact Text.parting.eq_2 t
  | loneReturn =>
    rw [LineBreak.text, List.singleton_append, Text.parting, if_pos rfl]
    rintro after _ rfl
    exact h rfl rfl
  | feed =>
    rw [LineBreak.text, List.singleton_append, Text.parting, if_neg (by decide), if_pos rfl]
    exact fun _ hc _ => absurd hc (by decide)

theorem foldr_extend_endLine (line : Text) :
    line.foldr Parting.extend (p.endLine b) = { p with ended := (line, b) :: p.ended } := by
  induction line with
  | nil => rfl
  | cons c line ih =>
    rw [List.foldr_cons, ih]
    rfl

theorem foldr_extend_last (line last : Text) :
    line.foldr Parting.extend ⟨[], last⟩ = ⟨[], line ++ last⟩ := by
  induction line with
  | nil => rfl
  | cons c line ih =>
    rw [List.foldr_cons, ih]
    rfl

theorem head?_ne_of_plain {line rest : Text} (h : '\n' ∉ line) (hrest : rest.head? ≠ some '\n') :
    (line ++ rest).head? ≠ some '\n' := by
  cases line with
  | nil => exact hrest
  | cons c line =>
    rintro he
    cases Option.some.inj he
    exact h List.mem_cons_self

/-- No line feed begins the text of parts of which the first one is not a line feed alone. -/
theorem Parting.Proper.head?_ne (hp : p.Proper) (h : ∀ next ∈ p.ended.head?, next ≠ ([], .feed)) :
    p.text.head? ≠ some '\n' := by
  obtain ⟨ended, last⟩ := p
  cases ended with
  | nil =>
    have hlast := hp.plain last List.mem_cons_self
    have hread : (last ++ []).head? ≠ some '\n' := head?_ne_of_plain hlast.2 nofun
    rwa [List.append_nil] at hread
  | cons part ended =>
    obtain ⟨line, b⟩ := part
    have hline := hp.plain line List.mem_cons_self
    rw [text_cons]
    cases b with
    | returnFeed => exact head?_ne_of_plain hline.2 (by simp [LineBreak.text])
    | loneReturn => exact head?_ne_of_plain hline.2 (by simp [LineBreak.text])
    | feed =>
      cases line with
      | nil => exact absurd rfl (h _ rfl)
      | cons c line =>
        intro he
        cases Option.some.inj he
        exact hline.2 List.mem_cons_self

/-- Parts in which a break cannot be taken for a part of another one are read back. -/
theorem Parting.Proper.parting_eq (hp : p.Proper) : p.text.parting = p := by
  obtain ⟨ended, last⟩ := p
  induction ended with
  | nil =>
    have hlast := hp.plain last (by simp [Parting.lines])
    have hread := parting_append hlast []
    rwa [List.append_nil, Text.parting, foldr_extend_last, List.append_nil] at hread
  | cons part ended ih =>
    obtain ⟨line, b⟩ := part
    have hline := hp.plain line (by simp [Parting.lines])
    obtain ⟨hnext, hended⟩ := List.isChain_cons.mp hp.apart
    have hrest : Parting.Proper ⟨ended, last⟩ := by
      refine ⟨fun other hother => hp.plain other ?_, hended⟩
      exact List.mem_cons_of_mem line hother
    have hfeed : b = .loneReturn → (Parting.text ⟨ended, last⟩).head? ≠ some '\n' := by
      intro hb
      exact hrest.head?_ne fun next hmem he => hnext next hmem ⟨hb, he⟩
    rw [text_cons, parting_append hline, parting_break hfeed, ih hrest, foldr_extend_endLine]

end

theorem key_endOf_le_iff {t u : Text} :
    (Position.endOf t).key ≤ (Position.endOf u).key ↔
      t.lines.length < u.lines.length ∨ t.lines.length = u.lines.length ∧
        (t.lines.getLastD []).length ≤ (u.lines.getLastD []).length := by
  unfold Position.key Position.endOf
  rw [Prod.Lex.toLex_le_toLex]
  simp

/-- A text goes on behind its end, unless it is cut inside a break of two characters. -/
theorem key_endOf_append_le {t u : Text} (h : t.getLast? = some '\r' → u.head? ≠ some '\n') :
    (Position.endOf t).key ≤ (Position.endOf (t ++ u)).key := by
  have ht := t.lines_length_pos
  have hu := u.lines_length_pos
  rw [key_endOf_le_iff, lines_append h]
  have hlength : (t.lines.dropLast ++ (t.lines.getLastD [] ++ u.lines.headD []) ::
      u.lines.tail).length = t.lines.length + (u.lines.length - 1) := by
    rw [List.length_append, List.length_dropLast, List.length_cons, List.length_tail]
    omega
  rw [hlength]
  cases htail : u.lines.tail with
  | nil =>
    have hone : u.lines.length - 1 = 0 := by rw [← List.length_tail, htail]; rfl
    right
    rw [hone, List.getLastD_concat, List.length_append]
    omega
  | cons line lines =>
    have hmany : u.lines.length - 1 = lines.length + 1 := by rw [← List.length_tail, htail]; rfl
    left
    omega

/-- The end behind a carriage return stays where it is if a line feed completes the break. -/
theorem key_endOf_complete {t : Text} (h : t.getLast? = some '\r') :
    (Position.endOf t).key ≤ (Position.endOf (t ++ ['\n'])).key := by
  obtain ⟨front, rfl⟩ := List.getLast?_eq_some_iff.mp h
  have hcut : ∀ u : Text, front.getLast? = some '\r' → ('\r' :: u).head? ≠ some '\n' := by
    intro u _ he
    cases he
  rw [List.append_assoc, key_endOf_le_iff, lines_append (hcut []), List.singleton_append,
    lines_append (hcut ['\n'])]
  exact .inr ⟨rfl, le_refl _⟩

/-- However a text goes on, its end does not move backwards. -/
theorem key_endOf_le_append (t u : Text) :
    (Position.endOf t).key ≤ (Position.endOf (t ++ u)).key := by
  by_cases h : t.getLast? = some '\r' ∧ u.head? = some '\n'
  · obtain ⟨hlast, hhead⟩ := h
    obtain ⟨after, rfl⟩ := List.head?_eq_some_iff.mp hhead
    have hrest : (t ++ ['\n']).getLast? = some '\r' → after.head? ≠ some '\n' := by
      intro he
      rw [List.getLast?_concat] at he
      cases he
    have hgoes := key_endOf_append_le hrest
    rw [List.append_assoc, List.singleton_append] at hgoes
    exact (key_endOf_complete hlast).trans hgoes
  · exact key_endOf_append_le fun hlast hhead => h ⟨hlast, hhead⟩

/-- A character that is neither a carriage return nor a line feed stands inside of a line, between
the end of the last line in front of it and the beginning of the first line behind it. -/
theorem lines_append_char {c : Char} (hr : c ≠ '\r') (hf : c ≠ '\n') (t u : Text) :
    Text.lines (t ++ c :: u) =
      t.lines.dropLast ++ (t.lines.getLastD [] ++ c :: u.lines.headD []) :: u.lines.tail := by
  have hcut : t.getLast? = some '\r' → (c :: u).head? ≠ some '\n' := by
    intro _ he
    exact hf (Option.some.inj he)
  rw [lines_append hcut, lines_char hr hf]
  cases hu : u.lines with
  | nil => exact absurd hu u.lines_ne_nil
  | cons line lines => rfl

/-- A text is made up in exactly one way of lines without breaks and of breaks between them, when no
lone carriage return stands directly in front of a line feed. The numbered lines of the text are the
lines of this parting, counted from one, and its end is just past the last of them. The end does not
move backwards when the text goes on. No character but a carriage return and a line feed ends a
line. -/
theorem lines_unique_parting (t : Text) :
    (∃! p : Parting, p.Proper ∧ p.text = t) ∧
    (∀ p : Parting, p.Proper → p.text = t →
      t.numberedLines = (List.range' 1 p.lines.length).zip p.lines ∧
      (Position.endOf t).row = p.lines.length ∧
      (Position.endOf t).col = p.last.length + 1) ∧
    (∀ u, (Position.endOf t).key ≤ (Position.endOf (t ++ u)).key) ∧
    ∀ (c : Char) (u : Text), c ≠ '\r' → c ≠ '\n' → Text.lines (t ++ c :: u) =
      t.lines.dropLast ++ (t.lines.getLastD [] ++ c :: u.lines.headD []) :: u.lines.tail := by
  have honly : ∀ p : Parting, p.Proper → p.text = t → p = t.parting := by
    rintro p hp rfl
    exact hp.parting_eq.symm
  refine ⟨⟨t.parting, ⟨parting_proper t, parting_text t⟩, fun p hp => honly p hp.1 hp.2⟩, ?_,
    key_endOf_le_append t, fun c u hr hf => lines_append_char hr hf t u⟩
  intro p hp ht
  have hlines : t.lines = p.lines := by rw [honly p hp ht, parting_lines]
  refine ⟨?_, congrArg List.length hlines, ?_⟩
  · rw [Text.numberedLines, numberedFrom_eq_zip, hlines]
  · change (t.lines.getLastD []).length + 1 = p.last.length + 1
    rw [hlines, Parting.lines, List.getLastD_concat]

end ParseReport
