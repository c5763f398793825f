import ParseReport.Parsing.Run

/-!
Parsing on after an error, to find further ones. The parser drops entries of its stack until the
offending token fits, or else drops the token; a bad character is skipped. An error is recorded
unless the stack is the one that the error before it left, for then it only follows from that one.
-/

namespace ParseReport

namespace Table

variable (t : Table)

/-- The stack after feeding a token to the longest proper part of a stack that takes it; `none` if
no part does. Parts are tried from the longest down, with a count of values made before. -/
def resumeFrom (name : Name) (made : Nat) : List Entry → Except TableFlaw (Option Stack)
  | [] => .ok none
  | _ :: below =>
    match t.feed name ⟨below, made⟩ with
    | .shifted stack | .accepted stack => .ok (some stack)
    | .rejected _ => resumeFrom name made below
    | .broken flaw => .error flaw

/-- The stack on which a rejected token fits after dropping as few entries as possible, but at least
one. -/
def resume? (name : Name) (s : Stack) : Except TableFlaw (Option Stack) :=
  t.resumeFrom name s.made s.entries

end Table

/-- An error met while recovering: the offset of its cause, the stack when it was raised and the
stack on which parsing was to go on, and whether it was recorded. -/
structure Incident where
  error : ParseError
  offset : Nat
  raised : Stack
  resumed : Stack
  recorded : Bool
deriving DecidableEq, Repr

/-- Why a recovering parser stops. -/
inductive Ending
  | accepted
  | stopped
  | broken (flaw : TableFlaw)
deriving DecidableEq, Repr

/-- What a recovering parser remembers of the errors before: how many were recorded, and the stack
that the last one left. -/
structure Memory where
  recorded : Nat := 0
  left : Option (List Entry) := none
deriving DecidableEq, Repr

/-- Whether an error only follows from the one before it. -/
def Memory.isCascade (m : Memory) (s : Stack) : Bool :=
  m.left = some s.entries

namespace Table

variable (t : Table)

/-- The stack on which to go on after an interruption. -/
def recoveredStack (i : Interruption) : Except TableFlaw Stack :=
  match i.token with
  | none => .ok i.place.stack
  | some name =>
    if name = endName then .ok i.place.stack
    else (t.resume? name i.place.stack).map (·.getD i.place.stack)

/-- Where to go on after an interruption: an unexpected token is behind the parser already, and an
unmatched character is skipped, counted as a line feed if it is one. -/
def recoveredCursor (i : Interruption) : Cursor :=
  match i.token with
  | none => i.place.cursor.step true
  | some _ => i.place.cursor

/-- What an interruption is recorded as. -/
def incident (m : Memory) (i : Interruption) (resumed : Stack) : Incident where
  error := i.error
  offset := i.offset
  raised := i.place.stack
  resumed := resumed
  recorded := !m.isCascade i.place.stack

/-- What is remembered after an incident. -/
def remember (m : Memory) (i : Incident) : Memory where
  recorded := if i.recorded then m.recorded + 1 else m.recorded
  left := some i.resumed.entries

/-- Parses on from error to error while fewer errors than the limit are recorded; the end of the
text is the last one, and so is an error where flawed tables leave no stack to go on with. -/
def recoverWithin (limit : Int) : Nat → Memory → Configuration → List Incident × Ending
  | 0, _, _ => ([], .broken .endless)
  | fuel + 1, m, c =>
    match t.run c with
    | .accepted => ([], .accepted)
    | .broken flaw => ([], .broken flaw)
    | .interrupted i =>
      match t.recoveredStack i with
      | .error flaw => ([incident m i i.place.stack], .broken flaw)
      | .ok stack =>
        let now := incident m i stack
        let m := remember m now
        if i.error.isEnd ∨ limit ≤ m.recorded then ([now], .stopped)
        else
          let (later, ending) := recoverWithin limit fuel m ⟨recoveredCursor i, stack⟩
          (now :: later, ending)

/-- The errors of a text. Every error but the last one consumes a code point, so one more than the
text has is enough. -/
def recover (limit : Int) (source : Text) : List Incident × Ending :=
  t.recoverWithin limit (source.length + 1) {} (.start source)

end Table

end ParseReport
