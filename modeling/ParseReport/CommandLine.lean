import ParseReport.Settings

/-!
The command line: two files by position, options with a value or without, long options also by the
beginning of their name as long as it is the only one that begins so.
-/

namespace ParseReport

/-- What the command line asks for. -/
structure Request where
  grammar : Option Text := none
  source : Option Text := none
  start : Text := "start".toList
  verbose : Bool := false
  given : Layer := .empty

namespace CommandLine

/-- The options. -/
inductive Opt
  | help
  | start
  | parser
  | contextLines
  | format
  | maxErrors
  | logFile
  | verbose
  | version
deriving DecidableEq, Repr

/-- How the options are written. -/
def spellings : List (Text × Opt) :=
  [("-h".toList, .help), ("--help".toList, .help), ("--start".toList, .start),
    ("--parser".toList, .parser), ("--context-lines".toList, .contextLines),
    ("--format".toList, .format), ("--max-errors".toList, .maxErrors),
    ("--log-file".toList, .logFile), ("--verbose".toList, .verbose),
    ("--version".toList, .version)]

/-- The name of an option in messages. -/
def Opt.label (o : Opt) : Text :=
  List.intercalate ['/'] ((spellings.filter fun s => s.2 = o).map Prod.fst)

/-- Whether an option has a value. -/
def Opt.hasValue : Opt → Bool
  | .help | .verbose | .version => false
  | _ => true

/-- Why a command line cannot be used. -/
inductive UsageError
  | ambiguous (word : Text) (candidates : List Text)
  | missingValue (option : Opt)
  | notInteger (option : Opt) (value : Text)
  | surplusValue (option : Opt) (value : Text)
  | unrecognized (words : List Text)
deriving DecidableEq, Repr

/-- An error of usage in words. -/
def UsageError.message (e : UsageError) : Text :=
  "deadends: error: ".toList ++
    match e with
    | .ambiguous word candidates =>
      "ambiguous option: ".toList ++ word ++ " could match ".toList ++ enumerate candidates
    | .missingValue option =>
      "argument ".toList ++ option.label ++ ": expected one argument".toList
    | .notInteger option value =>
      "argument ".toList ++ option.label ++ ": invalid int value: ".toList
        ++ Value.quotedText value
    | .surplusValue option value =>
      "argument ".toList ++ option.label ++ ": ignored explicit argument ".toList
        ++ Value.quotedText value
    | .unrecognized words =>
      "unrecognized arguments: ".toList ++ List.intercalate [' '] words

/-- A word of the command line: one that stands for itself, the mark that ends the options, an
option with the value written behind an equals sign, if there is one, or an option that nobody
knows. -/
inductive Word
  | plain (text : Text)
  | separator
  | known (option : Opt) (value : Option Text)
  | unknown (text : Text)
deriving DecidableEq, Repr

/-- The mark that ends the options. -/
def separatorText : Text := ['-', '-']

/-- A word as it was written, unless it is a known option. -/
def Word.text : Word → Text
  | .plain text => text
  | .separator => separatorText
  | .known option _ => option.label
  | .unknown text => text

/-- Whether a text is made of decimal digits. -/
def isNumber (t : Text) : Bool :=
  t ≠ [] && t.all fun c => (digitValue? c).isSome

/-- Whether a word looks like a number below zero. -/
def looksNegative : Text → Bool
  | '-' :: t =>
    let t := if t.getLast? = some '\n' then t.dropLast else t
    let (whole, rest) := t.span (· ≠ '.')
    match rest with
    | [] => isNumber whole
    | _ :: fraction => (whole = [] || isNumber whole) && isNumber fraction
  | _ => false

/-- What stands in front of an equals sign and what stands behind it. -/
def splitValue (word : Text) : Text × Option Text :=
  match word.span (· ≠ '=') with
  | (name, []) => (name, none)
  | (name, _ :: value) => (name, some value)

/-- A word that begins with a dash but is no option: a number below zero and a word with a blank
stand for themselves. -/
def unknownWord (word : Text) : Word :=
  if looksNegative word || word.contains ' ' then .plain word else .unknown word

/-- A word that may be an abbreviated option. -/
def abbreviated (word : Text) : Except UsageError Word :=
  match word with
  | '-' :: '-' :: _ =>
    let (start, value) := splitValue word
    match spellings.filter fun s => start.isPrefixOf s.1 with
    | [] => .ok (unknownWord word)
    | [(_, option)] => .ok (.known option value)
    | several => .error (.ambiguous word (several.map Prod.fst))
  | '-' :: 'h' :: rest =>
    if rest.head? = some '-' then .ok (.known .help (some rest)) else .ok (.known .help none)
  | _ => .ok (unknownWord word)

/-- What a word in front of the mark that ends the options is. -/
def readWord (word : Text) : Except UsageError Word :=
  match word with
  | '-' :: _ :: _ =>
    match spellings.lookup word with
    | some option => .ok (.known option none)
    | none =>
      match splitValue word with
      | (name, some value) =>
        match spellings.lookup name with
        | some option => .ok (.known option (some value))
        | none => abbreviated word
      | _ => abbreviated word
  | _ => .ok (.plain word)

/-- What the words are; behind the first mark that ends the options all stand for themselves. -/
def readWords : List Text → Except UsageError (List Word)
  | [] => .ok []
  | word :: words =>
    if word = separatorText then .ok (.separator :: words.map .plain)
    else do
      let first ← readWord word
      let rest ← readWords words
      return first :: rest

/-- A command line as far as it is read. -/
structure Draft where
  request : Request := {}
  version : Bool := false
  filesTaken : Bool := false
  surplus : List Text := []

/-- What ends the reading early. -/
inductive Stop
  | help
  | usage (e : UsageError)

/-- A draft with a further value for a setting. -/
def Draft.give (d : Draft) (setting : Setting) (value : Value) : Draft :=
  { d with
    request := { d.request with
      given :=
        Layer.override (fun s => if s = setting then some value else none) d.request.given } }

/-- A draft with the number that an option has. -/
def Draft.giveInteger (d : Draft) (option : Opt) (setting : Setting) (value : Text) :
    Except Stop Draft :=
  match integer? value with
  | some n => .ok (d.give setting (.int n))
  | none => .error (.usage (.notInteger option value))

/-- Takes an option with its value. -/
def Draft.takeValue (d : Draft) (option : Opt) (value : Text) : Except Stop Draft :=
  match option with
  | .start => .ok { d with request := { d.request with start := value } }
  | .parser => .ok (d.give .parser (.text value))
  | .contextLines => d.giveInteger .contextLines .contextLines value
  | .format => .ok (d.give .format (.text value))
  | .maxErrors => d.giveInteger .maxErrors .maxErrors value
  | .logFile => .ok (d.give .logFile (.text value))
  | .help | .verbose | .version => .error (.usage (.surplusValue option value))

/-- Takes an option without a value. -/
def Draft.takeFlag (d : Draft) : Opt → Except Stop Draft
  | .help => .error .help
  | .verbose => .ok { d with request := { d.request with verbose := true } }
  | .version => .ok { d with version := true }
  | option => .error (.usage (.missingValue option))

/-- The words for one file, at most one word that stands for itself, with the mark that ends the
options on either side; and the words behind them. -/
def fileWords (words : List Word) : List Text × List Word :=
  let isMark (w : Word) : Bool := w = .separator
  let (before, rest) := words.span isMark
  match rest with
  | .plain text :: rest =>
    let (after, rest) := rest.span isMark
    (before.map Word.text ++ text :: after.map Word.text, rest)
  | rest => (before.map Word.text, rest)

/-- The file that some words name; the first mark that ends the options does not count. -/
def fileOf (words : List Text) : Option Text :=
  (words.erase separatorText).head?

/-- Takes the words one after the other. The files are taken both at once, where the first words
for them stand; later words that stand for themselves are left over. -/
def take : Nat → Draft → List Word → Except Stop Draft
  | 0, d, _ => .ok d
  | _ + 1, d, [] => .ok d
  | fuel + 1, d, word :: words =>
    match word with
    | .unknown text => take fuel { d with surplus := d.surplus ++ [text] } words
    | .known option (some value) => do
      let d ← d.takeValue option value
      take fuel d words
    | .known option none =>
      if option.hasValue then
        match words with
        | .plain value :: words => do
          let d ← d.takeValue option value
          take fuel d words
        | _ => .error (.usage (.missingValue option))
      else do
        let d ← d.takeFlag option
        take fuel d words
    | word =>
      if d.filesTaken then take fuel { d with surplus := d.surplus ++ [word.text] } words
      else
        let (first, rest) := fileWords (word :: words)
        let (second, rest) := fileWords rest
        take fuel
          { d with
            filesTaken := true
            request := { d.request with grammar := fileOf first, source := fileOf second } }
          rest

/-- What a command line asks for: help, the version, or a run. -/
inductive Invocation
  | help
  | version
  | run (request : Request)

/-- Reads a command line. -/
def read (words : List Text) : Except UsageError Invocation :=
  match readWords words with
  | .error e => .error e
  | .ok words =>
    match take words.length {} words with
    | .error .help => .ok .help
    | .error (.usage e) => .error e
    | .ok d =>
      if d.surplus ≠ [] then .error (.unrecognized d.surplus)
      else if d.version then .ok .version
      else .ok (.run d.request)

end CommandLine

end ParseReport
