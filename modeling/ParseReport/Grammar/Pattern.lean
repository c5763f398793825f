import ParseReport.Text.Ranges

/-!
Patterns of terminals, matched by ordered choice: the first way through a pattern that lets the
rest match wins.
-/

namespace ParseReport

/-- A pattern over code points. -/
inductive Pattern
  /-- Matches nothing but the empty text. -/
  | empty
  /-- Matches no text. -/
  | never
  /-- Matches one text exactly. -/
  | literal (text : Text)
  /-- Matches one code point inside the ranges, or outside them if negated. -/
  | set (negated : Bool) (ranges : Ranges)
  /-- Matches one pattern after the other. -/
  | seq (first second : Pattern)
  /-- Matches either pattern and prefers the first. -/
  | alt (first second : Pattern)
  /-- Matches a pattern from `least` up to `most` times (any number without `most`) and prefers
  more. -/
  | many (least : Nat) (most : Option Nat) (body : Pattern)
deriving Repr

namespace Pattern

/-- A matcher gives what is left of a text after a match such that the continuation succeeds on
it. -/
abbrev Matcher := Text → (Text → Option Text) → Option Text

/-- A number of matches in a row. -/
def times (body : Matcher) (next : Text → Option Text) : Nat → Text → Option Text
  | 0, t => next t
  | count + 1, t => body t (times body next count)

/-- Up to a number of matches in a row, as many as possible; a match that consumes nothing is the
last one. -/
def upTo (body : Matcher) (next : Text → Option Text) : Nat → Text → Option Text
  | 0, t => next t
  | count + 1, t =>
    match body t fun rest =>
      if rest.length < t.length then upTo body next count rest else next rest with
    | some rest => some rest
    | none => next t

/-- The matcher of a pattern. Beyond the copies that must be there, a repetition has at most as many
as the text has code points, since each but the last one consumes some. -/
def run : Pattern → Matcher
  | empty, t, next => next t
  | never, _, _ => none
  | literal text, t, next =>
    match stripStart? text t with
    | some rest => next rest
    | none => none
  | set negated ranges, t, next =>
    match t with
    | [] => none
    | c :: rest => if ranges.holds c = negated then none else next rest
  | seq first second, t, next => run first t fun rest => run second rest next
  | alt first second, t, next =>
    match run first t next with
    | some rest => some rest
    | none => run second t next
  | many least most body, t, next =>
    times (run body)
      (fun rest =>
        upTo (run body) next
          (match most with
            | none => rest.length
            | some most => min (most - least) rest.length)
          rest)
      least t

/-- What is left of a text after the match at its beginning, if there is one. -/
def rest? (p : Pattern) (t : Text) : Option Text :=
  p.run t some

end Pattern

end ParseReport
