import ParseReport.Grammar.Prepared
import ParseReport.Session
import ParseReport.Value.Json

/-!
The program. Grammars are compiled by a program of their own, which leaves the tables of a grammar
in a file beside it, under the grammar's name with `.tables` behind it.
-/

namespace ParseReport.Program

/-- What stands at a path, as far as it can be read. -/
def contentAt (path : String) : IO (Option Content) := do
  try
    let bytes ← IO.FS.readBinFile path
    return some (.bytes bytes.toList)
  catch
    | .inappropriateType _ code _ => return if code = 21 then some .directory else none
    | _ => return none

/-- A path as the system takes it. -/
def systemPath (path : FilePath) : String :=
  String.ofList path.text

/-- What stands at a path and on the way to it. -/
def entriesFor (path : FilePath) : IO (List (FilePath × Content)) := do
  let path := path.settle
  (path.onTheWay.drop 1 ++ [path]).filterMapM fun place => do
    return (← contentAt (systemPath place)).map (place, ·)

/-- The files that a command line may need. -/
def workspaceFor (words : List Text) : IO Workspace := do
  let home ← match ← IO.getEnv "HOME" with
    | some directory => contentAt (directory ++ "/.deadends/config.toml")
    | none => pure none
  let working ← entriesFor (.ofText ".deadends/config.toml".toList)
  let known : Workspace := { entries := working, home := home }
  match CommandLine.read words with
  | .ok (.run request) =>
    let log := match Settings.load request.given home known.workingSettings with
      | .ok settings => [settings.logFile]
      | .error _ => []
    let paths := request.grammar.toList ++ request.source.toList ++ log
    let entries ← paths.mapM fun path => entriesFor (.ofText path)
    return { known with entries := working ++ entries.flatten }
  | _ => return known

/-- The tables beside the grammar of a command line. -/
def tablesFor (words : List Text) : IO (Option Value) := do
  match CommandLine.read words with
  | .ok (.run { grammar := some path, .. }) =>
    match ← contentAt (systemPath (.ofText (path ++ ".tables".toList))) with
    | some (.bytes bytes) => return (Utf8.decode bytes).toOption.bind Json.read?
    | _ => return none
  | _ => return none

/-- Takes the tables for granted, for the one algorithm that works by tables. -/
def compileWith (tables : Option Value) : GrammarCompiler :=
  fun _ algorithm _ =>
    let prepared := tables.bind fun v => do
      return { vocabulary := ← Prepared.vocabulary? v, engine := .table (← Prepared.table? v) }
    match algorithm, prepared with
    | .lalr, some g => .ok g
    | _, _ => .error "the grammar has not been compiled for this parser".toList

/-- Makes an empty file and the directories on the way to it. -/
def makeFile (path : FilePath) : IO Unit := do
  IO.FS.createDirAll (systemPath path.above)
  IO.FS.writeFile (systemPath path) ""

/-- Runs a command line and leaves its exit code. -/
def runCommand (args : List String) : IO UInt32 := do
  let words := args.map String.toList
  let w ← workspaceFor words
  let compile := compileWith (← tablesFor words)
  match Session.runWords compile w words with
  | .ok outcome =>
    outcome.created.forM makeFile
    IO.print (String.ofList outcome.output)
    unless outcome.complaint = [] do
      IO.eprintln (String.ofList outcome.complaint)
    return outcome.exit.toUInt32
  | .error breakdown =>
    IO.eprintln (String.ofList breakdown.message)
    return 1

end ParseReport.Program

/-- The program. -/
def main (args : List String) : IO UInt32 :=
  ParseReport.Program.runCommand args
