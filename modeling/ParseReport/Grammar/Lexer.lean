import ParseReport.Grammar.Cursor
import ParseReport.Grammar.Pattern

/-!
Lexers: the kinds of tokens that are tried at a place, in their order, and the tokens read there.
-/

namespace ParseReport

/-- A token: its name and the place where it begins. -/
structure Token where
  name : Name
  offset : Nat
  line : Nat
  column : Nat
deriving DecidableEq, Repr

/-- A kind of tokens: the name of its terminal; how many code points a token takes at a place,
between what has been read, last code point first, and what is left; and whether line feeds in
tokens are counted. No token is empty. -/
structure TokenKind where
  name : Name
  length? : Text → Text → Option Nat
  countsFeeds : Bool
  bounds : ∀ {before rest : Text} {n : Nat}, length? before rest = some n →
    0 < n ∧ n ≤ rest.length

/-- The number of code points that a pattern matches at the beginning of a text, if there are
any. -/
def Pattern.length? (p : Pattern) (t : Text) : Option Nat :=
  match p.rest? t with
  | none => none
  | some rest => if rest.length < t.length then some (t.length - rest.length) else none

theorem Pattern.length?_bounds {p : Pattern} {t : Text} {n : Nat} (h : p.length? t = some n) :
    0 < n ∧ n ≤ t.length := by
  unfold Pattern.length? at h
  split at h
  next => cases h
  next rest _ =>
    split at h
    next hlt =>
      cases Option.some.inj h
      omega
    next => cases h

namespace TokenKind

/-- The tokens that a pattern matches. -/
def ofPattern (name : Name) (p : Pattern) (countsFeeds : Bool) : TokenKind where
  name := name
  length? _ rest := p.length? rest
  countsFeeds := countsFeeds
  bounds := Pattern.length?_bounds

/-- The tokens with one text. -/
def ofText (name : Name) (text : Text) : TokenKind :=
  ofPattern name (.literal text) (text.contains '\n')

end TokenKind

/-- The kinds of tokens to try in order, and for some of them the texts that have another name. -/
structure Lexer where
  scan : List TokenKind
  renames : List (Name × List (Text × Name)) := []

/-- What a lexer finds: the end of the text, a token and the place behind it, or a place where no
terminal matches, with the names of those that were allowed there. -/
inductive Lexed
  | finished (place : Cursor)
  | token (token : Token) (after : Cursor)
  | unmatched (place : Cursor) (allowed : List Name)

/-- The name that stands for the end of the text where a lexer allows no terminal at all. -/
def endOfFile : Name := "<END-OF-FILE>".toList

namespace Lexer

/-- The first kind with a token at a place, and the length of the token. -/
def firstMatch? : List TokenKind → Cursor → Option (TokenKind × Nat)
  | [], _ => none
  | kind :: scan, c =>
    match kind.length? c.before c.rest with
    | some n => some (kind, n)
    | none => firstMatch? scan c

/-- The name of a token: that of its terminal, unless its text has a name of its own. -/
def nameOf (l : Lexer) (name : Name) (lexeme : Text) : Name :=
  (((l.renames.lookup name).getD []).lookup lexeme).getD name

/-- The names of the terminals that a lexer tries. -/
def names (l : Lexer) : List Name :=
  l.scan.map TokenKind.name

/-- The names that a lexer allows, ignored ones left out. -/
def allowed (l : Lexer) (ignored : List Name) : List Name :=
  match l.names.filter fun name => !ignored.contains name with
  | [] => [endOfFile]
  | names => names

/-- Reads the next token and skips ignored ones. Each skip leaves a shorter text, so `fuel` at the
length of the text is enough. -/
def readWithin (l : Lexer) (ignored : List Name) : Nat → Cursor → Lexed
  | 0, c => .finished c
  | fuel + 1, c =>
    if c.rest = [] then .finished c
    else
      match firstMatch? l.scan c with
      | none => .unmatched c (l.allowed ignored)
      | some (kind, n) =>
        let after := c.advance kind.countsFeeds n
        if ignored.contains kind.name then readWithin l ignored fuel after
        else .token ⟨l.nameOf kind.name (c.rest.take n), c.offset, c.line, c.column⟩ after

/-- Reads the next token at a place. -/
def read (l : Lexer) (ignored : List Name) (c : Cursor) : Lexed :=
  l.readWithin ignored c.rest.length c

end Lexer

end ParseReport
