import ParseReport.Diagnosis
import ParseReport.Value

/-!
Prepared grammars: the vocabulary and the tables that a grammar compiler has made, as a value.

The entry `terminals` maps names to tables with a `literal`, which may be null, a pattern as
`match`, and `newline`, which is false if line feeds in tokens are not counted and may be left out.
A pattern is a text, which matches itself, or a list: `set` with one for a negated set and zero
otherwise and a list of ranges, `seq` with patterns, `alt` with patterns, or `rep` with the least
and the most number of matches (below zero for no limit) and a pattern. The entry `ignore` lists the
terminals that are skipped, `states` the actions of each state by symbol, `rules` the origin and the
length of each rule, and `end` is the accepting state. Each of the `lexers` has the terminals to try
as `scan` and other names of tokens by terminal and text as `rename`; `state_lexer` has the number
of each state's lexer, and `root_lexer` that of the root lexer.
-/

namespace ParseReport.Prepared

/-- An entry of a table. -/
def field? (v : Value) (name : String) : Option Value :=
  match v with
  | .table entries => entries.lookup name.toList
  | _ => none

/-- The items of a list. -/
def items? : Value → Option (List Value)
  | .list items => some items
  | _ => none

/-- The entries of a table. -/
def entries? : Value → Option (List (Text × Value))
  | .table entries => some entries
  | _ => none

/-- A text. -/
def text? : Value → Option Text
  | .text t => some t
  | _ => none

/-- A whole number. -/
def integer? : Value → Option Int
  | .int n => some n
  | _ => none

/-- A whole number that is not below zero. -/
def natural? : Value → Option Nat
  | .int (.ofNat n) => some n
  | _ => none

/-- The texts of a list. -/
def texts? (v : Value) : Option (List Text) :=
  (items? v).bind (·.mapM text?)

/-- A range of code points. -/
def range? : Value → Option (Nat × Nat)
  | .list [low, high] =>
    match natural? low, natural? high with
    | some low, some high => some (low, high)
    | _, _ => none
  | _ => none

/-- Patterns one after the other. -/
def sequence : List Pattern → Pattern
  | [] => .empty
  | [p] => p
  | p :: ps => .seq p (sequence ps)

/-- Patterns to choose from. -/
def choice : List Pattern → Pattern
  | [] => .never
  | [p] => p
  | p :: ps => .alt p (choice ps)

/-- The kinds of patterns that are written as lists. -/
inductive PatternKind
  | set
  | sequence
  | choice
  | repetition
deriving DecidableEq, Repr

/-- The kind of pattern that a word names. -/
def patternKind? (word : Text) : Option PatternKind :=
  [("set".toList, PatternKind.set), ("seq".toList, .sequence), ("alt".toList, .choice),
    ("rep".toList, .repetition)].lookup word

mutual

/-- A pattern. -/
def pattern? : Value → Option Pattern
  | .text t => some (.literal t)
  | .list (.text word :: parts) =>
    match patternKind? word, parts with
    | some .set, [negated, ranges] =>
      match natural? negated, (items? ranges).bind (·.mapM range?) with
      | some negated, some ranges => some (.set (negated = 1) ranges)
      | _, _ => none
    | some .sequence, parts => (patterns? parts).map sequence
    | some .choice, parts => (patterns? parts).map choice
    | some .repetition, [least, most, body] =>
      match natural? least, integer? most, pattern? body with
      | some least, some most, some body =>
        some (.many least (if most < 0 then none else some most.toNat) body)
      | _, _, _ => none
    | _, _ => none
  | _ => none

/-- The patterns of a list. -/
def patterns? : List Value → Option (List Pattern)
  | [] => some []
  | v :: vs =>
    match pattern? v, patterns? vs with
    | some p, some ps => some (p :: ps)
    | _, _ => none

end

/-- The terminals of a grammar and those that are skipped. -/
def vocabulary? (v : Value) : Option Vocabulary := do
  let terminals ← (field? v "terminals").bind entries?
  let ignored ← (field? v "ignore").bind texts?
  return {
    literals := terminals.map fun (name, t) => (name, (field? t "literal").bind text?)
    ignored := ignored }

/-- The kind of tokens that a terminal has. -/
def kind? (name : Name) (terminal : Value) : Option TokenKind := do
  let pattern ← field? terminal "match" >>= pattern?
  let countsFeeds :=
    match field? terminal "newline" with
    | some (.bool counted) => counted
    | _ => true
  return .ofPattern name pattern countsFeeds

/-- A lexer that tries some of the terminals. -/
def lexer? (terminals : List (Text × Value)) (v : Value) : Option Lexer := do
  let scan ← (field? v "scan").bind texts?
  let renames ← (field? v "rename").bind entries?
  return {
    scan := ← scan.mapM fun name => terminals.lookup name >>= kind? name
    renames := ← renames.mapM fun (name, texts) => do
      let others ← entries? texts
      return (name, ← others.mapM fun (t, other) => do return (t, ← text? other)) }

/-- What the parser does with a symbol: `s` and a state, or `r` and a rule. -/
def action? (rules : List Value) : Value → Option Action
  | .list [.text word, number] => do
    let number ← natural? number
    if word = ['s'] then return .shift number
    else if word = ['r'] then
      match rules[number]? with
      | some (.list [origin, length]) => return .reduce (← text? origin) (← natural? length)
      | _ => none
    else none
  | _ => none

/-- The state with some actions and one of the lexers. -/
def state? (rules : List Value) (lexers : List Lexer) (actions number : Value) :
    Option TableState := do
  let actions ← entries? actions
  let number ← natural? number
  return {
    actions := ← actions.mapM fun (name, a) => do return (name, ← action? rules a)
    lexer := ← lexers[number]? }

/-- The tables of a grammar. -/
def table? (v : Value) : Option Table := do
  let terminals ← (field? v "terminals").bind entries?
  let lexers ← (field? v "lexers").bind items? >>= (·.mapM (lexer? terminals))
  let rules ← (field? v "rules").bind items?
  let states ← (field? v "states").bind items?
  let stateLexers ← (field? v "state_lexer").bind items?
  let root ← (field? v "root_lexer").bind natural?
  return {
    states := ← (states.zip stateLexers).mapM fun (actions, number) =>
      state? rules lexers actions number
    accepting := ← (field? v "end").bind natural?
    root := ← lexers[root]?
    ignored := ← (field? v "ignore").bind texts? }

end ParseReport.Prepared
