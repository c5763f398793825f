import ParseReport.CommandLine
import ParseReport.Workspace

/-!
The log of a run, as far as it is written when the run reads its files: it is there to be read if
the log file is one of them.
-/

namespace ParseReport

/-- Settings as a message shows them. -/
def Settings.shown (s : Settings) : Text :=
  "Settings(context_lines=".toList ++ decimal s.contextLines ++
    ", format=".toList ++ Value.quotedText s.format.name ++
    ", parser=".toList ++ Value.quotedText s.parser.name ++
    ", max_errors=".toList ++ decimal s.maxErrors ++
    ", log_file=".toList ++ Value.quotedText s.logFile ++ [')']

namespace Log

/-- A message that helps to find errors, and which part of the program logs it. -/
structure Message where
  logger : Name
  text : Text
deriving DecidableEq, Repr

/-- The line of a message in the log. -/
def line (time : Text) (m : Message) : Text :=
  time ++ " - ".toList ++ m.logger ++ " - DEBUG - ".toList ++ m.text ++ ['\n']

/-- The lines of messages, each with the time at which it is written. -/
def lines : List Text → List Message → Text
  | _, [] => []
  | times, m :: later => line (times.headD []) m ++ lines times.tail later

/-- The messages of a run up to the one that it reads the grammar. -/
def opening (settings : Settings) (r : Request) : List Message :=
  [⟨"deadends.log".toList, "Debug logging enabled, writing to ".toList ++ settings.logFile⟩,
    ⟨"deadends.main".toList, "Effective settings: ".toList ++ settings.shown⟩,
    ⟨"deadends.main".toList,
      "Loading grammar from ".toList ++ (FilePath.ofText (r.grammar.getD [])).text ++ " (".toList ++
        settings.parser.name ++ ", start=".toList ++ r.start ++ [')']⟩]

/-- What the log holds when a run reads the grammar and the source, which is nothing unless the run
is verbose. -/
def begun (w : Workspace) (r : Request) (settings : Settings) : Text :=
  if r.verbose then lines w.times (opening settings r) else []

/-- The workspace of a run once its log is begun, and the log file if it is new. -/
def create (w : Workspace) (r : Request) (settings : Settings) :
    Except FileFault (Workspace × List FilePath) :=
  w.createFile (.ofText settings.logFile) (Utf8.encode (begun w r settings))

end Log

end ParseReport
