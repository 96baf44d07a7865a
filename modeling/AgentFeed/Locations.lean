import AgentFeed.Settings.Load

/-!
# Locations

Where the program keeps its files: the configuration file, the data, and the transcripts, which are
below the data unless a setting says otherwise. The defaults follow the base directories that the
environment names, or else the home directory.
-/

namespace AgentFeed

/-- Where the program keeps its files. -/
structure Locations where
  /-- The configuration file. -/
  configFile : String
  /-- The directory for data. -/
  dataDirectory : String
  /-- The directory for transcripts. -/
  transcriptDirectory : String
deriving DecidableEq

/-- Why the locations cannot be told. -/
inductive LocationError where
  /-- A path names a variable that is not set. -/
  | expansion
  /-- The path of the configuration file names no file. -/
  | noFile (path : String)
  /-- There is no home directory for the configuration. -/
  | noConfigHome
  /-- There is no home directory for the data. -/
  | noDataHome
deriving DecidableEq

/-- What is said about an error in locations. -/
def LocationError.message : LocationError → String
  | .expansion => "expanding path"
  | .noFile path => "invalid config file path: " ++ Text.quote path
  | .noConfigHome => "unable to determine configuration directory"
  | .noDataHome => "unable to determine data directory"

namespace Locations

/-- The directory of the program below a base directory. -/
def below (base : String) : String :=
  Path.join base programName

/-- The directory for transcripts below one for data. -/
def transcriptsBelow (dataDirectory : String) : String :=
  Path.join dataDirectory "transcripts"

/-- The name of the configuration file. -/
def configFileName : String := "config.toml"

/-- The default directory for the configuration. -/
def configHome? (e : Environment) : Option String :=
  ((e.nonempty? "XDG_CONFIG_HOME").or (e.home?.map (Path.join · ".config"))).map below

/-- The default directory for data. -/
def dataHome? (e : Environment) : Option String :=
  ((e.nonempty? "XDG_DATA_HOME").or (e.home?.map (Path.join · ".local/share"))).map below

/-- The configuration file, given the path that was asked for, if any. A directory stands for the
file of the usual name in it. -/
def findConfigFile (e : Environment) (tree : FileTree) :
    Option String → Except LocationError String
  | some text =>
    match e.expand text with
    | none => .error .expansion
    | some path => .ok (if tree.isDirectory path then Path.join path configFileName else path)
  | none =>
    match configHome? e with
    | none => .error .noConfigHome
    | some directory => .ok (Path.join directory configFileName)

/-- The locations before any setting is known. -/
def discover (e : Environment) (tree : FileTree) (asked : Option String) :
    Except LocationError Locations := do
  let configFile ← findConfigFile e tree asked
  if (Path.parent? configFile).isNone then .error (.noFile configFile)
  else
    match dataHome? e with
    | none => .error .noDataHome
    | some dataDirectory =>
      return { configFile, dataDirectory, transcriptDirectory := transcriptsBelow dataDirectory }

/-- A path of a setting. -/
def expanded (e : Environment) (text : String) : Except LocationError String :=
  match e.expand text with
  | none => .error .expansion
  | some path => .ok path

/-- The locations that settings give. -/
def override (l : Locations) (e : Environment) (s : Settings) : Except LocationError Locations := do
  let l ←
    match s.dataDirectory with
    | none => pure l
    | some text =>
      -- The transcripts move along with the data.
      let dataDirectory ← expanded e text
      pure { l with dataDirectory, transcriptDirectory := transcriptsBelow dataDirectory }
  match s.transcriptDirectory with
  | none => return l
  | some text => return { l with transcriptDirectory := ← expanded e text }

/-- The locations on one line. -/
def line (l : Locations) : String :=
  "config: " ++ l.configFile ++ ", data: " ++ l.dataDirectory ++ ", transcripts: "
    ++ l.transcriptDirectory

end Locations

end AgentFeed
