import ClassOutline.Config.VariableFile
import ClassOutline.Php.Source
import ClassOutline.Report.Metric
import ClassOutline.Service.CommandLine
import Std.Time

/-!
The command line as a program. Everything that the work may look at is read first: the variables, the files of
variables and what the path leads to. The rest is the work of `CommandLine.run`. Names of files are taken as the runtime
gives them, as characters.
-/
namespace ClassOutline.Main

open Catalog Config Files Service

/-- Files that the system does not give, with what it says. -/
abbrev Unreadable := List (Path × String)

def binding (entry : List Char) : String × String :=
  let name := entry.takeWhile (· ≠ '=')
  (String.ofList name, String.ofList (entry.drop (name.length + 1)))

/-- All variables of the process. -/
def readEnvironment : IO Environment := do
  let content ← IO.FS.readBinFile "/proc/self/environ"
  let entries := (Text.splitOn '\x00' (Text.decodeUtf8 content)).filter fun entry => !entry.isEmpty
  return ⟨entries.map binding⟩

def fileText (path : Path) : String :=
  path.text.shown

def systemMessage (path : Path) : IO.Error → String
  | .permissionDenied _ code details => s!"[Errno {code}] {details}: {path.text.quoted}"
  | other => toString other

/-- What stands at a path, with everything below it. A file that cannot be read is there, but has no content. -/
partial def snapshot (path : Path) : StateT Unreadable IO (Option Entry) := do
  let file := (← IO.currentDir) / fileText path
  if ← file.isDir then
    let mut entries : List (RawText × Entry) := []
    for entry in ← file.readDir do
      if let some e ← snapshot (path.extend [raw entry.fileName]) then
        entries := (raw entry.fileName, e) :: entries
    return some (.directory entries)
  else if ← file.pathExists then
    try
      return some (.file (← IO.FS.readBinFile file))
    catch problem =>
      modify ((path, systemMessage path problem) :: ·)
      return some (.file .empty)
  else
    return none

/-- Add what stands at a path to the files that are known. -/
def addPath (root : Entry) (path : Path) : StateT Unreadable IO Entry := do
  let mut root := root
  for n in [1 : path.parts.length] do
    let parts := path.parts.take n
    if ← ((← IO.currentDir) / fileText ⟨.root, parts⟩).isDir then
      root := Entry.makeDirectory (Path.place parts) root
  match ← snapshot path with
  | some e => return Entry.put e (Path.place path.parts) root
  | none => return root

/-- Add the file of variables of a directory to the files that are known. -/
def addVariables (root : Entry) (place : List RawText) : StateT Unreadable IO Entry := do
  let place := place ++ [raw ".env"]
  match ← snapshot ⟨.root, place⟩ with
  | some (.file content) => return Entry.put (.file content) place root
  | _ => return root

/-- The files that the work may look at. -/
def readFiles (workingDirectory packageRoot : List RawText) (args : List RawText) : StateT Unreadable IO Entry := do
  let mut root := Entry.makeDirectory workingDirectory .empty
  if let some request := CommandLine.parse? args then
    unless request.path.contains (.char '\x00') do
      root ← addPath root ((Path.ofText request.path).absolute workingDirectory)
  for place in Workspace.upwards workingDirectory ++ [packageRoot] do
    root ← addVariables root place
  return root

/-- Nanoseconds in the layout of durations. -/
def durationText (nanoseconds : Nat) : String :=
  Report.seconds (Decimal.Binary64.nearest false nanoseconds 1000000000)

/-- Read a file of the snapshot. -/
def readFile (unreadable : Unreadable) : Reader := fun path content =>
  match unreadable.lookup path with
  | some message => .error (.unreadable message)
  | none => (Php.syntaxTree content).mapError fun fault => .syntaxError fault.message

/-- The output takes what can be encoded. -/
def refusal (text : RawText) : Option String :=
  match text.utf8? with
  | .ok _ => none
  | .error message => some message

def writeEvent (event : Event) : IO Unit := do
  match event with
  | .recorded _ => return
  | .consulted _ => return
  | .written ⟨_, .output⟩ text => (← IO.getStdout).putStr text.shown
  | .written ⟨_, .errors⟩ text => (← IO.getStderr).putStr text.shown

/-- Run with arguments; the exit code. -/
def run (args : List String) : IO UInt32 := do
  let started ← IO.monoNanosNow
  let args := args.map raw
  let workingDirectory := (Path.ofText (← IO.currentDir).toString).parts
  let packageRoot := (Path.ofText (← IO.appDir).toString).parts
  let (root, unreadable) ← (readFiles workingDirectory packageRoot args).run []
  let environment ← readEnvironment
  let outputTerminal ← (← IO.getStdout).isTty
  let errorTerminal ← (← IO.getStderr).isTty
  let now ← Std.Time.PlainDateTime.now
  let host : Host :=
    { read := readFile unreadable
      variableReader := VariableFile.reader
      -- no request comes in by the command line
      framework := fun _ => .own ⟨404, none, none, ""⟩ "0"
      schedule := []
      process := 0
      terminal := fun
        | .output => some outputTerminal
        | .errors => some errorTerminal
      refusal := refusal
      room := USize.size
      time := now.format "uuuu-MM-dd HH:mm:ss"
      memory := (Report.megabytes 0).toOption.getD ""
      duration := durationText ((← IO.monoNanosNow) - started) }
  let result := CommandLine.run host args
    { root := root, workingDirectory := workingDirectory, packageRoot := packageRoot, environment := environment,
      memo := none, logging := ⟨Log.Level.warning.number, []⟩ }
  result.events.forM writeEvent
  match result.value with
  | .ok code => return code.toUInt32
  | .error fault =>
    (← IO.getStderr).putStrLn fault.message.shown
    return 1

end ClassOutline.Main

def main (args : List String) : IO UInt32 :=
  ClassOutline.Main.run args
