import AgentFeed.Account
import AgentFeed.Program
import AgentFeed.Timestamp

/-!
# The executable

Reads from the machine what a run depends on, runs the program as a function, and carries its changes
over to the disk. Of the disk only the paths that the run can ask for are read.
-/

namespace AgentFeed.Executable

open CommandLine

/-! ## 1. What the machine says -/

/-- The text of a file that may be missing. -/
def textOf (path : String) : IO String := do
  try IO.FS.readFile path
  catch _ => return ""

/-- The variables in the list that the system keeps of a process. -/
def entriesOf (list : String) : Table String String :=
  Table.ofPairs ((Account.split '\x00' list.toList).filterMap fun entry =>
    match entry.dropWhile (· ≠ '=') with
    | [] => none
    | _ :: value => some (String.ofList (entry.takeWhile (· ≠ '=')), String.ofList value))

/-- The environment of this process. -/
def environment : IO Environment := do
  let record ← textOf "/etc/passwd"
  let number := Account.number? (← textOf "/proc/self/status")
  return {
    entries := entriesOf (← textOf "/proc/self/environ")
    accountHome := number.bind (Account.home? record) }

/-- The time, which is that of the information kept about this process. -/
def now : IO String := do
  let status := (← IO.currentDir) / "/proc/self/status"
  let time := (← status.metadata).modified
  return Timestamp.text (time.sec.toNat * 1000 + time.nsec.toNat / 1000000)

/-! ## 2. The disk -/

/-- The disk with what is really at the end of a path, once the way to it is read. -/
def readStep (tree : FileTree) (path : String) : IO FileTree := do
  let real := (← IO.currentDir) / path
  match tree.place path with
  | .error _ => return tree
  | .ok place =>
    if ← real.isDir then return tree.put place .directory
    else
      try return tree.put place (.file (.ofBytes (← IO.FS.readBinFile real).toList))
      catch _ => return tree

/-- The disk with what is really at a path and at each step of the way to it. -/
def readPath (tree : FileTree) (path : String) : IO FileTree :=
  (List.range (Path.pieces path).length).foldlM (fun tree i => readStep tree (Path.upTo path i)) tree

/-- The disk with what is really at some paths. -/
def readPaths (tree : FileTree) (paths : List String) : IO FileTree :=
  paths.foldlM readPath tree

/-- The disk with nothing read but the way to the working directory. -/
def readWorkingDirectory : IO FileTree := do
  let path := (← IO.currentDir).toString
  let tree ← readPath {} path
  return { tree with workingDirectory := (Path.components path).map Prod.snd }

/-- The paths that a command asks for. -/
def pathsOf (l : Locations) (s : Settings) (command : Command) : List String :=
  let common := s.log.file.toList ++ [l.dataDirectory, l.transcriptDirectory]
  match command with
  | .replayThread threadId =>
    common ++ [Path.join l.transcriptDirectory (ThreadId.fileName threadId)]
  | .replayFile path => common ++ [path]
  | _ => common

/-- The disk with all that a run can ask for. -/
def readFor (e : Environment) (i : Invocation) : IO FileTree := do
  let tree ← readWorkingDirectory
  let tree ← readPaths tree (i.options.config.bind e.expand).toList
  match Locations.discover e tree i.options.config with
  | .error _ => return tree
  | .ok l =>
    let tree ← readPaths tree [l.configFile, l.configFile ++ ".toml"]
    match Settings.read e tree l.configFile with
    | .error _ => return tree
    | .ok s => readPaths tree (pathsOf ((l.override e s).toOption.getD l) s i.command)

/-- The bytes of a file. -/
def bytesOf : FileContent → ByteArray
  | .text s => s.toUTF8
  | .binary bytes => ⟨bytes.toArray⟩

/-- What has changed is carried over to the disk, directories before what is in them. -/
def writeChanges (before after : FileTree) : IO Unit := do
  for (place, node) in after.changedSince before do
    let path := "/" ++ String.intercalate "/" place
    match node with
    | .directory => IO.FS.createDirAll path
    | .file content => IO.FS.writeBinFile path (bytesOf content)

/-! ## 3. The end of a run -/

/-- How the program is called. -/
def usage : String :=
  "Usage: " ++ programName ++ " [OPTIONS] <COMMAND>\n\n"
    ++ "Commands:\n"
    ++ "  replay [THREAD_ID] [--file PATH]\n"
    ++ "  init [--force]\n"
    ++ "  config <show|path|reset>\n"
    ++ "  completions <SHELL>\n"
    ++ "  help\n"

/-- The version of the program. -/
def versionLine : String :=
  programName ++ " 0.1.0\n"

/-- A notice is shown; the exit code. -/
def showNotice : Notice → IO UInt32
  | .help => do
    IO.print usage
    return 0
  | .version => do
    IO.print versionLine
    return 0
  | _ => do
    IO.eprint usage
    return 2

/-- A report is shown after its changes were carried over; the exit code. -/
def showReport (before : FileTree) (r : Program.Report) : IO UInt32 := do
  writeChanges before r.tree
  IO.print r.output
  match r.error with
  | none => return 0
  | some e =>
    IO.eprintln e.message
    return 1

end AgentFeed.Executable

open AgentFeed in
/-- The program. -/
def main (words : List String) : IO UInt32 := do
  match CommandLine.parse words with
  | .error notice => Executable.showNotice notice
  | .ok invocation =>
    let environment ← Executable.environment
    let tree ← Executable.readFor environment invocation
    let clock := Supply.constant (← Executable.now)
    Executable.showReport tree (Program.carryOut { environment, tree, clock } invocation)
