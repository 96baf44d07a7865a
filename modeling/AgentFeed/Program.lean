import AgentFeed.CommandLine.Command
import AgentFeed.CommandLine.LogLevel
import AgentFeed.Locations
import AgentFeed.Registry
import AgentFeed.Transcript.Directory
import AgentFeed.Yaml.Printer

/-!
# The program

A run of the program as a function: from the environment, a disk, a clock and the words of a command
line to what is written and how the disk is left.

A run finds its locations, loads the settings, opens its log, and then carries out the command. The
first thing that fails ends it, and what was done before stays.
-/

namespace AgentFeed

open CommandLine

/-- What a run finds around it. -/
structure Surroundings where
  /-- The environment. -/
  environment : Environment
  /-- The disk. -/
  tree : FileTree
  /-- The clock. -/
  clock : Supply

/-- Why a run fails. -/
inductive ProgramError where
  /-- The locations cannot be told. -/
  | location (e : LocationError)
  /-- The settings cannot be loaded or written. -/
  | settings (e : SettingsError)
  /-- The directory of the log file cannot be made. -/
  | noLogDirectory (path : String)
  /-- The log file cannot be opened. -/
  | noLogFile (path : String)
  /-- A transcript file cannot be read. -/
  | unreadableFile (path : String) (e : TranscriptError)
  /-- The transcript of a thread cannot be read. -/
  | unreadableThread (threadId : String) (e : TranscriptError)
  /-- There is a configuration file already. -/
  | configExists (path : String)
  /-- A directory cannot be made. -/
  | noDirectory (path : String)

/-- What is said about an error. -/
def ProgramError.message : ProgramError → String
  | .location e => e.message
  | .settings e => e.message
  | .noLogDirectory path => "creating log directory " ++ path
  | .noLogFile path => "opening log file " ++ path
  | .unreadableFile path _ => "reading transcript file " ++ path
  | .unreadableThread threadId _ => "opening thread " ++ threadId
  | .configExists path => "config already exists at " ++ path ++ " (use --force to overwrite)"
  | .noDirectory path => "creating directory " ++ path

/-- What a run knows when it carries out its command. -/
structure Context where
  /-- The common options. -/
  options : CommonOptions
  /-- Where files are kept. -/
  locations : Locations
  /-- The settings. -/
  settings : Settings
  /-- The clock. -/
  clock : Supply

/-- How a step of a run ends, and how it leaves the disk. -/
abbrev Outcome (α : Type) := Except ProgramError α × FileTree

namespace Context

/-- The least severity that is logged: what the options ask for, else what the settings say. -/
def logLevel (c : Context) : LogLevel :=
  if c.options.trace then .trace
  else if c.options.debug then .debug
  else
    match c.options.verbosity with
    | 0 => (LogLevel.ofName? c.settings.log.level).getD .info
    | 1 => .debug
    | _ => .trace

/-! ## 1. The log file -/

/-- The log file is opened, and created when it is missing. -/
def openLogFile (tree : FileTree) (path : String) : Outcome Unit :=
  let directory := (Path.parent? path).getD ""
  match tree.createDirectories directory with
  | (.error _, tree) => (.error (.noLogDirectory directory), tree)
  | (.ok (), tree) =>
    match tree.appendText path "" with
    | .error _ => (.error (.noLogFile path), tree)
    | .ok tree => (.ok (), tree)

/-- The log is opened, unless none is wanted. -/
def openLog (c : Context) (tree : FileTree) : Outcome Unit :=
  match c.options.quiet, c.settings.log.file with
  | false, some path => openLogFile tree path
  | _, _ => (.ok (), tree)

/-! ## 2. Replay -/

/-- What is lent to a replay: numbered ids, so that two replays agree, and the clock. -/
def host (c : Context) : Host :=
  { ids := Supply.numbered "item", clock := c.clock }

/-- The items of a transcript file. -/
def itemsOfFile (c : Context) (tree : FileTree) (path : String) :
    Except ProgramError (List FeedItem) :=
  match DirectoryStore.entriesAt { directory := "", tree } path with
  | .error e => .error (.unreadableFile path e)
  | .ok entries =>
    .ok (replay c.settings.feed.previewLimit c.host (TranscriptEntry.payloads entries)).sink.items

/-- The items of a stored thread, as many as a live feed keeps. -/
def itemsOfThread (c : Context) (tree : FileTree) (threadId : String) :
    Except ProgramError (List FeedItem) :=
  let registry : Registry DirectoryStore :=
    { store := { directory := c.locations.transcriptDirectory, tree }
      maxItems := c.settings.feed.maxItems
      previewLimit := c.settings.feed.previewLimit
      host := c.host }
  match (registry.openThread threadId).1 with
  | .error e => .error (.unreadableThread threadId e)
  | .ok s => .ok s.feed.items

/-- Items in the format that is wanted. -/
def writeItems (c : Context) (items : List FeedItem) : String :=
  match c.options.format with
  | .json => (Json.array (items.map FeedItem.toJson)).pretty
  | .yaml => (Json.array (items.map FeedItem.toJson)).yaml
  | .plain => String.intercalate "\n" (items.map FeedItem.render)

/-! ## 3. Configuration -/

/-- Directories are made one after the other. -/
def makeDirectories (tree : FileTree) : List String → Outcome Unit
  | [] => (.ok (), tree)
  | path :: rest =>
    match tree.createDirectories path with
    | (.error _, tree) => (.error (.noDirectory path), tree)
    | (.ok (), tree) => makeDirectories tree rest

/-- The default configuration file is written. -/
def writeDefaultConfig (c : Context) (tree : FileTree) : Outcome Unit :=
  let (result, tree) := Settings.writeDefault tree c.locations.configFile
  (result.mapError .settings, tree)

/-- Directories and the configuration file are made, unless there is such a file already. -/
def setUp (c : Context) (tree : FileTree) (overwrite : Bool) : Outcome Unit :=
  if tree.pathExists c.locations.configFile && !overwrite then
    (.error (.configExists c.locations.configFile), tree)
  else if c.options.dryRun then (.ok (), tree)
  else
    match makeDirectories tree [c.locations.dataDirectory, c.locations.transcriptDirectory] with
    | (.error e, tree) => (.error e, tree)
    | (.ok (), tree) => c.writeDefaultConfig tree

/-- The settings in the format that is wanted. -/
def writeSettings (c : Context) : String :=
  match c.options.format with
  | .json => c.settings.toJson.pretty
  | .yaml => c.settings.toJson.yaml
  | .plain => c.settings.outline

/-! ## 4. All commands -/

/-- A text on the output, with a line end. -/
def printed (tree : FileTree) : Except ProgramError String → Outcome String
  | .ok text => (.ok (text ++ "\n"), tree)
  | .error e => (.error e, tree)

/-- Nothing on the output. -/
def silent (outcome : Outcome Unit) : Outcome String :=
  (outcome.1.map fun _ => "", outcome.2)

/-- A command is carried out; what it writes. -/
def perform (c : Context) (tree : FileTree) : Command → Outcome String
  | .replayFile path => printed tree ((c.itemsOfFile tree path).map c.writeItems)
  | .replayThread threadId => printed tree ((c.itemsOfThread tree threadId).map c.writeItems)
  | .init overwrite => silent (c.setUp tree (overwrite || c.options.assumeYes))
  | .showConfig => printed tree (.ok c.writeSettings)
  | .showConfigPath => printed tree (.ok c.locations.configFile)
  | .resetConfig =>
    silent (if c.options.dryRun then (.ok (), tree) else c.writeDefaultConfig tree)
  | .completions _ => (.ok "", tree)

end Context

/-! ## A run -/

namespace Program

/-- What a run learns before it carries out its command. -/
def context (s : Surroundings) (options : CommonOptions) : Except ProgramError Context := do
  let locations ← (Locations.discover s.environment s.tree options.config).mapError .location
  -- Only the settings can move the data, and only the locations tell where the settings are.
  let settings ← (Settings.read s.environment s.tree locations.configFile).mapError .settings
  let locations ← (locations.override s.environment settings).mapError .location
  return { options, locations, settings, clock := s.clock }

/-- How a run ends. -/
structure Report where
  /-- The error that ended it, if any. -/
  error : Option ProgramError
  /-- The least severity that was logged, once it was known. -/
  level : Option LogLevel
  /-- What was written to the output. -/
  output : String
  /-- The disk as it is left. -/
  tree : FileTree

/-- A command is carried out with all that goes before it. -/
def carryOut (s : Surroundings) (i : Invocation) : Report :=
  match context s i.options with
  | .error e => { error := some e, level := none, output := "", tree := s.tree }
  | .ok c =>
    match c.openLog s.tree with
    | (.error e, tree) => { error := some e, level := some c.logLevel, output := "", tree }
    | (.ok (), tree) =>
      match c.perform tree i.command with
      | (.error e, tree) => { error := some e, level := some c.logLevel, output := "", tree }
      | (.ok output, tree) => { error := none, level := some c.logLevel, output, tree }

/-- A run of the program: a notice about the command line, or a report. -/
def run (s : Surroundings) (words : List String) : Except Notice Report :=
  (parse words).map (carryOut s)

end Program

end AgentFeed
