import ParseReport.Settings
import ParseReport.Text.Lines

/-!
What a run sees: the files below the working directory, by path, the settings file of the home
directory, and the clock.
-/

namespace ParseReport

/-- A path: the slashes that it begins with, and the names behind them without empty ones and
single dots. -/
structure FilePath where
  root : Text := []
  names : List Text := []
deriving DecidableEq, Repr

namespace FilePath

/-- Pieces of a text between slashes. -/
def pieces : Text → List Text
  | [] => [[]]
  | c :: t => if c = '/' then [] :: pieces t else extendFirst c (pieces t)

/-- The path that a text writes; just two slashes in front are a root of their own. -/
def ofText (t : Text) : FilePath where
  root :=
    let slashes := t.takeWhile (· = '/')
    if slashes.length ≤ 2 then slashes else ['/']
  names := (pieces t).filter fun name => name ≠ [] && name ≠ ['.']

/-- The text of a path; the empty path is a dot. -/
def text (p : FilePath) : Text :=
  match p.root ++ List.intercalate ['/'] p.names with
  | [] => ['.']
  | t => t

end FilePath

/-- The name of the directory above. -/
def aboveName : Text := ['.', '.']

/-- Why a file cannot be read as text or made. -/
inductive FileFault
  | missing (path : FilePath)
  | isDirectory (path : FilePath)
  | notDirectory (path : FilePath)
  | exists (path : FilePath)
  | nameTooLong (path : FilePath)
  | nullInPath
  | undecodable (e : Utf8.DecodeError)
deriving DecidableEq, Repr

/-- A fault of a file in words. -/
def FileFault.message : FileFault → Text
  | .missing path =>
    "[Errno 2] No such file or directory: ".toList ++ Value.quotedText path.text
  | .isDirectory path => "[Errno 21] Is a directory: ".toList ++ Value.quotedText path.text
  | .notDirectory path => "[Errno 20] Not a directory: ".toList ++ Value.quotedText path.text
  | .exists path => "[Errno 17] File exists: ".toList ++ Value.quotedText path.text
  | .nameTooLong path => "[Errno 36] File name too long: ".toList ++ Value.quotedText path.text
  | .nullInPath => "embedded null byte".toList
  | .undecodable e => e.message

/-- Files and directories by their paths, each once and without names of the directory above, the
settings file of the home directory, and the times at which lines of a log are written. -/
structure Workspace where
  entries : List (FilePath × Content) := []
  home : Option Content := none
  times : List Text := []
deriving DecidableEq, Repr

namespace FilePath

/-- The path of something in a directory. -/
def enter (p : FilePath) (name : Text) : FilePath :=
  { p with names := p.names ++ [name] }

/-- The path of the directory above; the root directory is above itself. -/
def above (p : FilePath) : FilePath :=
  { p with names := p.names.dropLast }

/-- Whether a path leads through a directory or to it. -/
def isBelow (p directory : FilePath) : Bool :=
  p.root = directory.root && directory.names.isPrefixOf p.names

/-- A path after going up wherever it says so. -/
def settle (p : FilePath) : FilePath :=
  p.names.foldl (fun here name => if name = aboveName then here.above else here.enter name)
    { p with names := [] }

/-- The directories on the way to a path, from the first one on. -/
def onTheWay (p : FilePath) : List FilePath :=
  (List.range p.names.length).map fun n => { p with names := p.names.take n }

/-- The number of bytes that a text takes in a path. -/
def byteCount (t : Text) : Nat :=
  t.foldr (fun c count => c.utf8Size + count) 0

/-- The most bytes that a name may have. -/
def longestName : Nat := 255

/-- The most bytes that a path may have. -/
def longestPath : Nat := 4095

/-- What keeps a path from being looked up at all. -/
def fault? (p : FilePath) : Option FileFault :=
  if p.text.contains '\x00' then some .nullInPath
  else if longestPath < byteCount p.text then some (.nameTooLong p)
  else none

end FilePath

namespace Workspace

/-- What stands at a path; a directory also stands where something lies below. -/
def find? (w : Workspace) (path : FilePath) : Option Content :=
  if path.names = [] then some .directory
  else
    match w.entries.lookup path with
    | some content => some content
    | none => if w.entries.any fun e => e.1.isBelow path then some .directory else none

/-- Follows names from a directory on, for the sake of a whole path. Nothing is known above the
working directory but that there are directories. -/
def follow (w : Workspace) (whole : FilePath) : FilePath → List Text → Except FileFault Content
  | here, [] =>
    match w.find? here with
    | some content => .ok content
    | none => .error (.missing whole)
  | here, name :: names =>
    match w.find? here with
    | none => .error (.missing whole)
    | some (.bytes _) => .error (.notDirectory whole)
    | some .directory =>
      if FilePath.longestName < FilePath.byteCount name then .error (.nameTooLong whole)
      else if name ≠ aboveName then follow w whole (here.enter name) names
      else if here.names = [] ∧ here.root = [] then
        if names.all (· = aboveName) then .ok .directory else .error (.missing whole)
      else follow w whole here.above names

/-- What a path leads to. -/
def look (w : Workspace) (path : FilePath) : Except FileFault Content :=
  match path.fault? with
  | some fault => .error fault
  | none => w.follow path { path with names := [] } path.names

/-- The text of a file, with every line break written as a line feed. -/
def readText (w : Workspace) (path : FilePath) : Except FileFault Text :=
  match w.look path with
  | .error fault => .error fault
  | .ok .directory => .error (.isDirectory path)
  | .ok (.bytes bytes) =>
    match Utf8.decode bytes with
    | .error e => .error (.undecodable e)
    | .ok t => .ok t.unifyBreaks

/-- The workspace with something at a path, in place of what was there. -/
def put (w : Workspace) (path : FilePath) (content : Content) : Workspace :=
  { w with entries := (path, content) :: w.entries.filter fun e => e.1 ≠ path }

/-- Follows names from a directory on and makes each one that is missing a directory, for the sake
of a whole path. A fault is one of the whole path, unless a directory was made before: then it is
one of the path so far. -/
def reach (w : Workspace) (whole : FilePath) (made : Bool) (soFar : FilePath) :
    FilePath → List Text → Except FileFault Workspace
  | here, [] =>
    match w.find? here with
    | some (.bytes _) => .error (.exists whole)
    | some .directory => .ok w
    | none => .ok (w.put here .directory)
  | here, name :: names =>
    match w.find? here with
    | some (.bytes _) => .error (if made then .exists soFar else .notDirectory whole)
    | found =>
      let w := if found = none then w.put here .directory else w
      let made := made || found = none
      let soFar := soFar.enter name
      if FilePath.longestName < FilePath.byteCount name then
        .error (.nameTooLong (if made then soFar else whole))
      else
        reach w whole made soFar (if name = aboveName then here.above else here.enter name) names

/-- Makes the directory of a path and the directories on the way to it. -/
def makeDirectory (w : Workspace) (path : FilePath) : Except FileFault Workspace :=
  match path.fault? with
  | some fault => .error fault
  | none =>
    let start := { path with names := [] }
    w.reach path false start start path.names

/-- The workspace with a file of some bytes at a path, and the path if the file is new. The
directory of the file is made first. The file itself stands where the path leads if going up undoes
the name in front of it. -/
def createFile (w : Workspace) (path : FilePath) (bytes : List UInt8) :
    Except FileFault (Workspace × List FilePath) := do
  let w ← w.makeDirectory path.above
  let path := path.settle
  match path.fault? with
  | some fault => .error fault
  | none =>
    if FilePath.longestName < FilePath.byteCount (path.names.getLastD []) then
      .error (.nameTooLong path)
    else
      match w.find? path with
      | some .directory => .error (.isDirectory path)
      | some (.bytes _) => .ok (w.put path (.bytes bytes), [])
      | none => .ok (w.put path (.bytes bytes), [path])

/-- The settings file of the working directory. -/
def workingSettings (w : Workspace) : Option Content :=
  w.find? { names := [".deadends".toList, "config.toml".toList] }

end Workspace

end ParseReport
