import ParseReport.Collection
import ParseReport.Log
import ParseReport.Report.Html
import ParseReport.Report.Markdown
import ParseReport.Report.Plain
import ParseReport.Report.Terminal

/-!
A run from the command line: the settings are loaded, the log is begun, the grammar and the
source are read, and the dead ends of the source are reported.
-/

namespace ParseReport

/-- Makes a grammar from its text, for an algorithm and a start rule, or tells why it cannot. -/
abbrev GrammarCompiler := Text → Algorithm → Name → Except Text Grammar

/-- What a run leaves: its exit code, what it wrote to its two outputs, and the files it made. -/
structure Outcome where
  exit : Nat
  output : Text := []
  complaint : Text := []
  created : List FilePath := []
deriving DecidableEq, Repr

/-- What a run does not come back from. -/
inductive Breakdown
  | file (fault : FileFault)
  | tables (flaw : TableFlaw)
  | report (fault : Fault)

/-- A breakdown in words. -/
def Breakdown.message : Breakdown → Text
  | .file fault => fault.message
  | .tables .underflow => "the tables reduce more symbols than there are".toList
  | .tables .missingTarget => "the tables lead nowhere after a reduction".toList
  | .tables .endless => "the tables reduce without end".toList
  | .report fault => fault.message

/-- Why there is nothing to parse. -/
inductive Obstruction
  | file (fault : FileFault)
  | grammar (message : Text)

/-- An obstruction in words. -/
def Obstruction.message : Obstruction → Text
  | .file fault => fault.message
  | .grammar message => message

namespace Session

/-- The width of the terminal. -/
def width : Nat := 200

/-- A message on the terminal. -/
def line (t : Text) : Text :=
  Terminal.printMessage width t

/-- A line about an error. -/
def errorLine (message : Text) : Text :=
  line ("error: ".toList ++ message)

/-- The grammar and the text to parse; the grammar is read first. -/
def prepare (compile : GrammarCompiler) (w : Workspace) (settings : Settings) (start : Name)
    (grammar source : FilePath) : Except Obstruction (Grammar × Text) := do
  let grammarText ← (w.readText grammar).mapError .file
  let g ← (compile grammarText settings.parser start).mapError .grammar
  let sourceText ← (w.readText source).mapError .file
  return (g, sourceText)

/-- The line that counts the dead ends, one for each position. -/
def summary (source : FilePath) (failures : List Failure) : Text :=
  let count := (distinct (failures.map Failure.position)).length
  "Found ".toList ++ decimal count ++ " dead end".toList ++ (if count = 1 then [] else ['s'])
    ++ " in ".toList ++ source.text

/-- The report of some failures as it is written in a format. -/
def written (settings : Settings) (source : FilePath) (text : Text) (failures : List Failure) :
    Except Fault Text :=
  let extra := settings.contextLines
  match settings.format with
  | .console =>
    (Styled.report {} .standard extra text failures).map fun pieces =>
      Terminal.print false pieces ++ line (summary source failures)
  | .plain => (Plain.report .standard extra text failures).map Terminal.printText
  | .html =>
    (Html.report .standard extra text failures).map fun t => Terminal.printText (t ++ ['\n'])
  | .markdown => (Markdown.report .standard extra text failures).map Terminal.printText

/-- What is written if there are no failures. -/
def success (settings : Settings) (source : FilePath) : Text :=
  match settings.format with
  | .console => line (source.text ++ ": no dead ends".toList)
  | _ => []

/-- The exit code and the output for a text that is ready to parse. -/
def examine (settings : Settings) (source : FilePath) (g : Grammar) (text : Text) :
    Except Breakdown (Nat × Text) :=
  match g.failures settings.maxErrors text with
  | .error flaw => .error (.tables flaw)
  | .ok [] => .ok (0, success settings source)
  | .ok failures => ((written settings source text failures).map (1, ·)).mapError .report

/-- A run with settings, after its log is begun. It breaks down at a path that nothing can have;
whatever else keeps it from parsing is told. -/
def runWith (compile : GrammarCompiler) (w : Workspace) (settings : Settings) (start : Name)
    (grammar source : FilePath) (created : List FilePath) : Except Breakdown Outcome :=
  match prepare compile w settings start grammar source with
  | .error (.file .nullInPath) => .error (.file .nullInPath)
  | .error obstruction =>
    .ok { exit := 2, output := errorLine obstruction.message, created := created }
  | .ok (g, text) =>
    (examine settings source g text).map fun (exit, output) =>
      { exit := exit, output := output, created := created }

/-- A run. -/
def run (compile : GrammarCompiler) (w : Workspace) (r : Request) : Except Breakdown Outcome :=
  match r.grammar, r.source with
  | some grammar, some source =>
    match Settings.load r.given w.home w.workingSettings with
    | .error e => .ok { exit := 2, output := errorLine e.message }
    | .ok settings =>
      match Log.create w r settings with
      | .error fault => .error (.file fault)
      | .ok (w, created) =>
        runWith compile w settings r.start (.ofText grammar) (.ofText source) created
  | _, _ =>
    .ok { exit := 2, output := errorLine "a grammar file and a source file are required".toList }

/-- The name and the version of the program. -/
def versionText : Text := "deadends 0.1.0".toList

/-- How the program is used. -/
def usageText : Text :=
  "usage: deadends [options] [grammar] [source]".toList

/-- A run from a command line. -/
def runWords (compile : GrammarCompiler) (w : Workspace) (words : List Text) :
    Except Breakdown Outcome :=
  match CommandLine.read words with
  | .error e => .ok { exit := 2, complaint := e.message }
  | .ok .help => .ok { exit := 0, output := usageText ++ ['\n'] }
  | .ok .version => .ok { exit := 0, output := versionText ++ ['\n'] }
  | .ok (.run request) => run compile w request

end Session

end ParseReport
