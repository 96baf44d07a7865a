import AgentFeed.Disk.Tree
import AgentFeed.Expansion
import AgentFeed.Settings.Basic
import AgentFeed.Settings.Key
import AgentFeed.Toml.Document

/-!
# Where settings come from

Settings come in layers: the defaults, the configuration file, and variables of the environment, each
put over the one before. A variable counts when its name, in lower case, starts with the name of the
program and two underscores; what follows is the key, with two underscores for each dot.

A configuration file is also found with `.toml` behind its name. Where none is found there is no
layer; a file that is no TOML is an error.
-/

namespace AgentFeed

/-- The name of the program. -/
def programName : String := "threadfeed"

/-- Why settings cannot be loaded or their defaults written. -/
inductive SettingsError where
  /-- The configuration file is no TOML. -/
  | malformedFile (path : String)
  /-- A setting has a value of the wrong sort. -/
  | unfit
  /-- A path names a variable that is not set. -/
  | expansion
  /-- The directory of the configuration file cannot be made. -/
  | noDirectory (directory : String)
  /-- The configuration file cannot be written. -/
  | unwritable (path : String)
deriving DecidableEq

/-- What is said about an error in settings. -/
def SettingsError.message : SettingsError → String
  | .malformedFile path => "loading config from " ++ path
  | .unfit => "deserializing configuration"
  | .expansion => "expanding path"
  | .noDirectory directory => "creating config directory " ++ Text.quote directory
  | .unwritable path => "writing config file to " ++ path

namespace Settings

/-! ## 1. The layers -/

/-- The layer of defaults. -/
def defaultLayer : List (String × Setting) :=
  [("logging.level", .text "info"), ("feed.max_items", .integer 500),
    ("feed.unknown_preview_chars", .integer 200)]

/-- What the name of a variable starts with, in lower case, when it is a setting. -/
def variableStart : List Char :=
  programName.toList ++ ['_', '_']

/-- The name that variables for settings start with. -/
def variableStem : String :=
  String.ofList (programName.toList.map fun c => if c.isAlphanum then c.toUpper else '_')

/-- Characters with a dot for every two underscores. -/
def dotted : List Char → List Char
  | '_' :: '_' :: rest => '.' :: dotted rest
  | c :: rest => c :: dotted rest
  | [] => []

/-- The key that a variable sets. -/
def variableKey? (name : String) : Option String :=
  let lowered := (Text.lower name).toList
  if variableStart.isPrefixOf lowered then
    some (String.ofList (dotted (lowered.drop variableStart.length)))
  else none

/-- The layer of the environment. -/
def environmentLayer (e : Environment) : List (String × Setting) :=
  e.entries.filterMap fun (name, value) => (variableKey? name).map (·, .text value)

/-- The content of the configuration file at a path, if there is one. -/
def fileContent? (tree : FileTree) (path : String) : Option FileContent :=
  if tree.isFile path then (tree.read path).toOption
  else (Path.withSuffix? path ".toml").bind fun path => (tree.read path).toOption

/-- A text without a byte order mark at its start. -/
def withoutMark (text : String) : String :=
  match text.toList with
  | '\uFEFF' :: rest => String.ofList rest
  | _ => text

/-- The layer of the configuration file. -/
def fileLayer (tree : FileTree) (path : String) : Except SettingsError (List (String × Setting)) :=
  match fileContent? tree path with
  | none => .ok []
  | some content =>
    match Toml.parse? (withoutMark content.lossyText) with
    | some members => .ok members
    | none => .error (.malformedFile path)

/-! ## 2. The default file -/

/-- The content of a configuration file with the defaults. -/
def defaultFile (path : String) : String :=
  "# Configuration for " ++ programName ++ "\n# File: " ++ path ++ "\n\n"
    ++ "[logging]\nlevel = \"info\"\n\n"
    ++ "[feed]\nmax_items = 500\nunknown_preview_chars = 200\n\n"
    ++ "[paths]\n\n[transcripts]\n"

/-- A configuration file with the defaults is written. -/
def writeDefault (tree : FileTree) (path : String) : Except SettingsError Unit × FileTree :=
  let directory := (Path.parent? path).getD ""
  match tree.createDirectories directory with
  | (.error _, tree) => (.error (.noDirectory directory), tree)
  | (.ok (), tree) =>
    match tree.write path (.text (defaultFile path)) with
    | .ok tree => (.ok (), tree)
    | .error _ => (.error (.unwritable path), tree)

/-! ## 3. Loading -/

/-- The settings with the path of the log file expanded. -/
def expandLogFile (e : Environment) (s : Settings) : Except SettingsError Settings :=
  match s.log.file with
  | none => .ok s
  | some file =>
    match e.expand file with
    | none => .error .expansion
    | some file => .ok { s with log := { s.log with file := some file } }

/-- The settings that the environment and the configuration file at a path give. -/
def read (e : Environment) (tree : FileTree) (path : String) : Except SettingsError Settings := do
  let entries ← fileLayer tree path
  let layered :=
    (((Setting.group []).layer defaultLayer).layer entries).layer (environmentLayer e)
  match ofSetting? layered with
  | none => .error .unfit
  | some s => s.expandLogFile e

/-- The same, after the defaults were written to the path if there is nothing and they are wanted. -/
def load (e : Environment) (tree : FileTree) (path : String) (createMissing : Bool) :
    Except SettingsError Settings × FileTree :=
  if createMissing && !tree.pathExists path then
    match writeDefault tree path with
    | (.error error, tree) => (.error error, tree)
    | (.ok (), tree) => (read e tree path, tree)
  else (read e tree path, tree)

end Settings

end AgentFeed
