import ParseReport.Proofs.Fragments

/-!
Headers of context stacks. The position of a frame stands behind the last blank of its description,
and a mark that no position holds stands between two frames. So a header tells the stack that it is
made from, if no label holds the mark.
-/

namespace ParseReport

/-- No label holds the mark that stands between the frames of a header. -/
def Markless (contexts : List Frame) : Prop :=
  ∀ frame ∈ contexts, '>' ∉ frame.label

instance (contexts : List Frame) : Decidable (Markless contexts) :=
  inferInstanceAs (Decidable (∀ frame ∈ contexts, '>' ∉ frame.label))

/-- The texts of the headers of a report at a position, one for each context stack there that has
frames. -/
def headersAt {ε : Type} (x : Extraction ε) (failures : List Failure) (p : Position) : List Text :=
  ((stacksAt x failures p).filter (· ≠ [])).map describeContexts

section

variable {α : Type} {x : α} {a b c d : List α}

/-- A list is cut in one way at the first place of an element. -/
theorem append_cons_inj_first (ha : x ∉ a) (hc : x ∉ c) (h : a ++ x :: b = c ++ x :: d) :
    a = c ∧ b = d := by
  induction a generalizing c with
  | nil =>
    cases c with
    | nil => exact ⟨rfl, (List.cons.inj h).2⟩
    | cons y c =>
      cases (List.cons.inj h).1
      exact absurd List.mem_cons_self hc
  | cons z a ih =>
    cases c with
    | nil =>
      cases (List.cons.inj h).1
      exact absurd List.mem_cons_self ha
    | cons y c =>
      obtain ⟨rfl, hrest⟩ := List.cons.inj h
      rw [List.mem_cons, not_or] at ha hc
      obtain ⟨rfl, rfl⟩ := ih ha.2 hc.2 hrest
      exact ⟨rfl, rfl⟩

/-- A list is cut in one way at the last place of an element. -/
theorem append_cons_inj_last (hb : x ∉ b) (hd : x ∉ d) (h : a ++ x :: b = c ++ x :: d) :
    a = c ∧ b = d := by
  have hreverse : b.reverse ++ x :: a.reverse = d.reverse ++ x :: c.reverse := by
    simpa using congrArg List.reverse h
  obtain ⟨hback, hfront⟩ :=
    append_cons_inj_first (by simpa using hb) (by simpa using hd) hreverse
  exact ⟨List.reverse_inj.mp hfront, List.reverse_inj.mp hback⟩

end

theorem Position.not_mem_inParens {c : Char} (hdigit : c.isDigit = false)
    (hmark : c ∉ ['(', ':', ')']) (p : Position) : c ∉ p.inParens := by
  have hrow := not_mem_decimal hdigit p.row
  have hcol := not_mem_decimal hdigit p.col
  simp only [List.mem_cons, not_or] at hmark
  simp [Position.inParens, hrow, hcol, hmark]

theorem Position.inParens_injective : Function.Injective Position.inParens := by
  intro p q h
  have hcolon : ∀ n, ':' ∉ decimal n := not_mem_decimal rfl
  obtain ⟨hrow, hcol⟩ := append_cons_inj_first (hcolon _) (hcolon _) (List.cons.inj h).2
  obtain ⟨row, col, _, _⟩ := p
  obtain ⟨row', col', _, _⟩ := q
  cases decimal_injective hrow
  cases decimal_injective (List.append_cancel_right hcol)
  rfl

/-- A frame is told by its description, also if its label looks like one. -/
theorem Frame.describe_injective : Function.Injective Frame.describe := by
  intro f g h
  have hblank : ∀ p : Position, ' ' ∉ p.inParens := Position.not_mem_inParens rfl (by decide)
  obtain ⟨hlabel, hposition⟩ := append_cons_inj_last (hblank _) (hblank _) h
  obtain ⟨p, label⟩ := f
  obtain ⟨q, label'⟩ := g
  cases hlabel
  cases Position.inParens_injective hposition
  rfl

theorem Frame.mark_not_mem_describe {f : Frame} (h : '>' ∉ f.label) : '>' ∉ f.describe := by
  have hposition := Position.not_mem_inParens (c := '>') rfl (by decide) f.position
  simp [Frame.describe, h, hposition]

/-- With a separator behind the last of them, joined texts have a separator behind each. -/
theorem intercalate_append_separator {separator : Text} {ts : List Text} (h : ts ≠ []) :
    List.intercalate separator ts ++ separator = ts.flatMap (· ++ separator) := by
  induction ts with
  | nil => exact absurd rfl h
  | cons t ts ih =>
    cases ts with
    | nil => simp
    | cons u us =>
      rw [List.intercalate_cons_cons, List.append_assoc, ih (List.cons_ne_nil u us)]
      rfl

/-- Texts without the mark are told by the text in which a separator is behind each of them. -/
theorem flatMap_separator_inj {ts us : List Text} (ht : ∀ t ∈ ts, '>' ∉ t)
    (hu : ∀ u ∈ us, '>' ∉ u)
    (h : ts.flatMap (· ++ " > ".toList) = us.flatMap (· ++ " > ".toList)) : ts = us := by
  induction ts generalizing us with
  | nil =>
    cases us with
    | nil => rfl
    | cons u us => simp at h
  | cons t ts ih =>
    cases us with
    | nil => simp at h
    | cons u us =>
      obtain ⟨ht, hts⟩ := List.forall_mem_cons.mp ht
      obtain ⟨hu, hus⟩ := List.forall_mem_cons.mp hu
      -- the first mark is the one behind the first text, since no text holds it
      have hcut : (t ++ [' ']) ++ '>' :: (' ' :: ts.flatMap (· ++ " > ".toList)) =
          (u ++ [' ']) ++ '>' :: (' ' :: us.flatMap (· ++ " > ".toList)) := by
        simpa using h
      obtain ⟨hfirst, hrest⟩ := append_cons_inj_first (by simpa using ht) (by simpa using hu) hcut
      rw [List.append_cancel_right hfirst, ih hts hus (List.cons.inj hrest).2]

theorem describeContexts_inj {contexts others : List Frame} (hne : contexts ≠ [])
    (hne' : others ≠ []) (h : Markless contexts) (h' : Markless others)
    (hsame : describeContexts contexts = describeContexts others) : contexts = others := by
  have hmark : ∀ stack : List Frame, Markless stack →
      ∀ t ∈ stack.reverse.map Frame.describe, '>' ∉ t := by
    intro stack hstack t ht
    obtain ⟨frame, hframe, rfl⟩ := List.mem_map.mp ht
    exact Frame.mark_not_mem_describe (hstack frame (List.mem_reverse.mp hframe))
  -- one more separator at the end makes all frames alike, the last one too
  have hjoined := congrArg (· ++ " > ".toList) hsame
  unfold describeContexts at hjoined
  rw [intercalate_append_separator (by simpa using hne),
    intercalate_append_separator (by simpa using hne')] at hjoined
  have hframes := flatMap_separator_inj (hmark _ h) (hmark _ h') hjoined
  exact List.reverse_inj.mp (List.map_injective_iff.mpr Frame.describe_injective hframes)

theorem headersAt_nodup {ε : Type} {x : Extraction ε} {failures : List Failure} {p : Position}
    (h : ∀ f ∈ failures, f.position = p → Markless (x.contexts f)) :
    (headersAt x failures p).Nodup := by
  have hstack : ∀ contexts ∈ (stacksAt x failures p).filter (· ≠ []),
      contexts ≠ [] ∧ Markless contexts := by
    intro contexts hm
    obtain ⟨hm, hne⟩ := List.mem_filter.mp hm
    obtain ⟨f, hf, hp, rfl⟩ := mem_stacksAt.mp hm
    exact ⟨of_decide_eq_true hne, h f hf hp⟩
  refine List.Nodup.map_on ?_ ((eraseDups_nodup _).filter _)
  intro contexts hm others hm'
  exact describeContexts_inj (hstack _ hm).1 (hstack _ hm').1 (hstack _ hm).2 (hstack _ hm').2

/-- A header tells its context stack, if no label holds the mark between frames: two stacks with the
same header have the same frames, with the same labels, rows and columns. So the headers of a report
at a position, which are all that it sets off there besides the caret, differ from each other. This is
about the texts of the headers, before an output format writes them. -/
theorem context_headers_tell_stacks {ε : Type} (x : Extraction ε) (extra : Nat) (source : Text)
    (failures : List Failure) :
    (∀ contexts others : List Frame, contexts ≠ [] → others ≠ [] → Markless contexts →
      Markless others → describeContexts contexts = describeContexts others →
      contexts = others) ∧
    ∀ out, render Fragment.markup x extra source failures = .ok out →
      ∃ part : Position → List Fragment,
        out = List.intercalate [.newline] ((positionsOf failures).map part) ∧
        ∀ p, positionPart Fragment.markup x extra source.numberedLines
            (p, failures.filter fun f => f.position = p) = .ok (part p) ∧
          (part p).filter Fragment.decorated =
            .caret (.text ['^']) :: (headersAt x failures p).map (.context ∘ .text) ∧
          ((∀ f ∈ failures, f.position = p → Markless (x.contexts f)) →
            (headersAt x failures p).Nodup) := by
  refine ⟨fun contexts others => describeContexts_inj, ?_⟩
  intro out hout
  obtain ⟨hphrases, rfl⟩ := render_eq_ok_iff.mp hout
  refine ⟨fun p => sourceBlock Fragment.markup extra source.numberedLines p ++
    .newline :: (stacksAt x failures p).flatMap (stackPart x failures Fragment.markup p), rfl, ?_⟩
  intro p
  refine ⟨positionPart_eq hphrases extra source.numberedLines, ?_, headersAt_nodup⟩
  rw [filter_partAt, headersAt, List.map_map]
  rfl

/-- A label that holds the mark can imitate two frames. -/
example : describeContexts [⟨.endOf ['x'], "list (1:1) > item".toList⟩] =
    describeContexts [⟨.endOf ['x'], "item".toList⟩, ⟨.endOf [], "list".toList⟩] := by
  decide

/-- Two failures at one position. The label of the only context of the first one looks like the
description of the outer context of the second one, and the inner label there like a position. -/
def imitatingFailures : List Failure :=
  [⟨.endOf ['x'], .unexpectedChar, [⟨.endOf [], "list (1:1)".toList⟩]⟩,
    ⟨.endOf ['x'], .expectingEnd, [⟨.endOf [], "(1:1)".toList⟩, ⟨.endOf [], "list".toList⟩]⟩]

theorem context_headers_tell_stacks_imitating :
    describeContexts [⟨.endOf [], "list (1:1)".toList⟩] ≠
      describeContexts [⟨.endOf [], "(1:1)".toList⟩, ⟨.endOf [], "list".toList⟩] ∧
    headersAt Extraction.standard imitatingFailures (.endOf ['x']) =
      ["list (1:1) (1:1)".toList, "list (1:1) > (1:1) (1:1)".toList] ∧
    ∃ out part,
      render Fragment.markup Extraction.standard 0 "x!".toList imitatingFailures = .ok out ∧
      out = List.intercalate [.newline] ((positionsOf imitatingFailures).map part) ∧
      (part (.endOf ['x'])).filter Fragment.decorated = .caret (.text ['^']) ::
        (headersAt Extraction.standard imitatingFailures (.endOf ['x'])).map (.context ∘ .text) ∧
      (headersAt Extraction.standard imitatingFailures (.endOf ['x'])).Nodup := by
  obtain ⟨out, h⟩ : ∃ out,
      render Fragment.markup Extraction.standard 0 "x!".toList imitatingFailures = .ok out :=
    ⟨_, rfl⟩
  obtain ⟨htell, hreport⟩ :=
    context_headers_tell_stacks Extraction.standard 0 "x!".toList imitatingFailures
  obtain ⟨part, hout, hparts⟩ := hreport out h
  obtain ⟨_, hdecorated, hnodup⟩ := hparts (.endOf ['x'])
  refine ⟨?_, by decide, out, part, h, hout, hdecorated, hnodup (by decide)⟩
  intro hsame
  have hequal :=
    htell _ _ (List.cons_ne_nil _ _) (List.cons_ne_nil _ _) (by decide) (by decide) hsame
  exact absurd hequal (by decide)

end ParseReport
