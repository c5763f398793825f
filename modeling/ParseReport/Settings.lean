import ParseReport.Settings.Document
import ParseReport.Text.Utf8

/-!
The settings of a run. Each of the five is decided by the first layer that has it: the command
line, the settings file of the working directory, that of the home directory, the defaults. The
values are checked only then.
-/

namespace ParseReport

/-- The things that can be set. -/
inductive Setting
  | contextLines
  | format
  | parser
  | maxErrors
  | logFile
deriving DecidableEq, Repr

/-- The output formats. -/
inductive Format
  | console
  | plain
  | html
  | markdown
deriving DecidableEq, Repr

/-- The parser algorithms. -/
inductive Algorithm
  | lalr
  | earley
deriving DecidableEq, Repr

/-- Settings that a run can use. -/
structure Settings where
  contextLines : Nat
  format : Format
  parser : Algorithm
  maxErrors : Nat
  logFile : Text
  maxErrors_pos : 0 < maxErrors := by omega
  logFile_ne_nil : logFile ≠ [] := by simp
deriving DecidableEq, Repr

/-- The name of a setting in a file. -/
def Setting.name : Setting → Name
  | .contextLines => "context_lines".toList
  | .format => "format".toList
  | .parser => "parser".toList
  | .maxErrors => "max_errors".toList
  | .logFile => "log_file".toList

/-- The name of a format. -/
def Format.name : Format → Name
  | .console => "console".toList
  | .plain => "plain".toList
  | .html => "html".toList
  | .markdown => "markdown".toList

/-- The name of an algorithm. -/
def Algorithm.name : Algorithm → Name
  | .lalr => "lalr".toList
  | .earley => "earley".toList

/-- All formats. -/
def Format.all : List Format :=
  [.console, .plain, .html, .markdown]

/-- All algorithms. -/
def Algorithm.all : List Algorithm :=
  [.lalr, .earley]

/-- The format that a value names. -/
def Format.ofValue? : Value → Option Format
  | .text t => Format.all.find? fun f => f.name = t
  | _ => none

/-- The algorithm that a value names. -/
def Algorithm.ofValue? : Value → Option Algorithm
  | .text t => Algorithm.all.find? fun a => a.name = t
  | _ => none

/-- Why settings cannot be used. -/
inductive SettingsFault
  | notInteger (setting : Setting) (value : Value)
  | unsupportedFormat (value : Value)
  | unsupportedParser (value : Value)
  | negativeContextLines (count : Int)
  | tooFewErrors (count : Int)
  | badLogFile (value : Value)

/-- The names of a list with commas between them. -/
def enumerate (names : List Name) : Text :=
  List.intercalate ", ".toList names

/-- The value that a fault is about. -/
def SettingsFault.value : SettingsFault → Value
  | .notInteger _ value | .unsupportedFormat value | .unsupportedParser value
  | .badLogFile value => value
  | .negativeContextLines count | .tooFewErrors count => .int count

/-- What is said of a number with too many digits, with what is known of it. -/
def digitLimitMessage (detail : Text) : Text :=
  "Exceeds the limit (".toList ++ decimal mostDigits
    ++ " digits) for integer string conversion".toList ++ detail
    ++ "; use sys.set_int_max_str_digits() to increase the limit".toList

/-- A fault of settings in words, with its value. -/
def SettingsFault.words : SettingsFault → Text
  | .notInteger setting value =>
    setting.name ++ " must be an integer, got ".toList ++ value.quoted
  | .unsupportedFormat value =>
    "Unsupported format '".toList ++ value.shown ++ "', expected one of ".toList
      ++ enumerate (Format.all.map Format.name)
  | .unsupportedParser value =>
    "Unsupported parser '".toList ++ value.shown ++ "', expected one of ".toList
      ++ enumerate (Algorithm.all.map Algorithm.name)
  | .negativeContextLines count =>
    "context_lines must be non-negative, got ".toList ++ signedDecimal count
  | .tooFewErrors count => "max_errors must be positive, got ".toList ++ signedDecimal count
  | .badLogFile value => "log_file must be a non-empty string, got ".toList ++ value.quoted

/-- A fault of settings in words. A number in the value that is too long to be written is told of
instead. -/
def SettingsFault.message (f : SettingsFault) : Text :=
  if f.value.holdsLongNumber then digitLimitMessage [] else f.words

/-- The values of some settings. -/
abbrev Layer := Setting → Option Value

namespace Layer

/-- The layer without values. -/
def empty : Layer :=
  fun _ => none

/-- A layer on top of another one. -/
def override (upper lower : Layer) : Layer :=
  fun setting => (upper setting).or (lower setting)

/-- The layer of a table; entries with other names are no settings. -/
def ofEntries (entries : List (Text × Value)) : Layer :=
  fun setting => entries.lookup setting.name

end Layer

/-- The values that hold where no layer has one. -/
def defaults : Setting → Value
  | .contextLines => .int 2
  | .format => .text Format.console.name
  | .parser => .text Algorithm.lalr.name
  | .maxErrors => .int 10
  | .logFile => .text "deadends.log".toList

/-- The whole number that a setting must be. -/
def requireInteger (setting : Setting) : Value → Except SettingsFault Int
  | .int n => .ok n
  | value => .error (.notInteger setting value)

/-- The file name that a setting must be. -/
def requireLogFile : Value → Except SettingsFault { t : Text // t ≠ [] }
  | .text (c :: t) => .ok ⟨c :: t, by simp⟩
  | value => .error (.badLogFile value)

/-- The settings with some values, or the first fault: numbers that are none, then the format and
the parser, then numbers out of range, then the log file. -/
def Settings.ofValues (values : Setting → Value) : Except SettingsFault Settings := do
  let contextLines ← requireInteger .contextLines (values .contextLines)
  let maxErrors ← requireInteger .maxErrors (values .maxErrors)
  let format ← (Format.ofValue? (values .format)).elim
    (.error (.unsupportedFormat (values .format))) .ok
  let parser ← (Algorithm.ofValue? (values .parser)).elim
    (.error (.unsupportedParser (values .parser))) .ok
  if contextLines < 0 then .error (.negativeContextLines contextLines)
  else if h : maxErrors < 1 then .error (.tooFewErrors maxErrors)
  else
    let logFile ← requireLogFile (values .logFile)
    return {
      contextLines := contextLines.toNat
      format := format
      parser := parser
      maxErrors := maxErrors.toNat
      logFile := logFile.val
      maxErrors_pos := by omega
      logFile_ne_nil := logFile.property }

/-- The settings that layers decide, given from the top down. -/
def Settings.ofLayers (layers : List Layer) : Except SettingsFault Settings :=
  let merged := layers.foldr Layer.override .empty
  Settings.ofValues fun setting => (merged setting).getD (defaults setting)

/-- What a path leads to: the bytes of a file, or a directory. -/
inductive Content
  | bytes (bytes : List UInt8)
  | directory
deriving DecidableEq, Repr

/-- Why settings cannot be loaded: a file is not in UTF-8 or has a number with too many digits, or
the values cannot be used. -/
inductive LoadError
  | undecodable (e : Utf8.DecodeError)
  | tooManyDigits (count : Nat)
  | fault (f : SettingsFault)

/-- An error of loading in words. -/
def LoadError.message : LoadError → Text
  | .undecodable e => e.message
  | .tooManyDigits count =>
    digitLimitMessage (": value has ".toList ++ decimal count ++ " digits".toList)
  | .fault f => f.message

/-- The layer of a settings file. A file that is missing, is a directory or holds no document
counts as empty. -/
def Layer.ofFile : Option Content → Except LoadError Layer
  | none | some .directory => .ok .empty
  | some (.bytes bytes) =>
    match Utf8.decode bytes with
    | .error e => .error (.undecodable e)
    | .ok t =>
      match Document.read t with
      | .ok entries => .ok (.ofEntries entries)
      | .error .invalid => .ok .empty
      | .error (.tooManyDigits count) => .error (.tooManyDigits count)

/-- The settings of a run: what the command line gives, then the file of the working directory, then
that of the home directory, which is read first. -/
def Settings.load (given : Layer) (home working : Option Content) : Except LoadError Settings := do
  let homeLayer ← Layer.ofFile home
  let workingLayer ← Layer.ofFile working
  (Settings.ofLayers [given, workingLayer, homeLayer]).mapError .fault

end ParseReport
