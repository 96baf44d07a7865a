/-!
# What can be on a command line

The commands of the program and their options. Options that are common to all commands may stand
before or after the name of the command, or between two names.
-/

namespace AgentFeed.CommandLine

/-- An option. -/
inductive Flag where
  /-- Another configuration file. -/
  | config
  /-- No log. -/
  | quiet
  /-- More log; counts. -/
  | verbose
  /-- A log for debugging. -/
  | debug
  /-- The most detailed log. -/
  | trace
  /-- JSON on the output. -/
  | json
  /-- YAML on the output. -/
  | yaml
  /-- A log without colours. -/
  | noColor
  /-- When the log has colours. -/
  | color
  /-- No change on the disk. -/
  | dryRun
  /-- Yes to every question. -/
  | yes
  /-- A log with the place of each message. -/
  | diagnostics
  /-- A transcript file to replay. -/
  | file
  /-- A new configuration file in place of an old one. -/
  | overwrite
  /-- Help. -/
  | help
  /-- The version. -/
  | version
deriving DecidableEq, Repr

/-- Whether an option is followed by a value. -/
def Flag.takesValue : Flag → Bool
  | .config | .color | .file => true
  | _ => false

/-- A word that is read on its way to a command. -/
inductive Level where
  /-- The name of the program. -/
  | program
  /-- The command `replay`. -/
  | replay
  /-- The command `init`. -/
  | init
  /-- The command `config`. -/
  | config
  /-- The command `config show`. -/
  | configShow
  /-- The command `config path`. -/
  | configPath
  /-- The command `config reset`. -/
  | configReset
  /-- The command `completions`. -/
  | completions
deriving DecidableEq, Repr

namespace Level

/-- The names that can follow a level, other than `help`. -/
def subcommands : Level → List (String × Level)
  | .program =>
    [("replay", .replay), ("init", .init), ("config", .config), ("completions", .completions)]
  | .config => [("show", .configShow), ("path", .configPath), ("reset", .configReset)]
  | _ => []

/-- Whether a name has to follow a level. -/
def hasSubcommands (l : Level) : Bool :=
  !l.subcommands.isEmpty

/-- The level that a name leads to. -/
def subcommand? (l : Level) (name : String) : Option Level :=
  l.subcommands.lookup name

/-- Whether a name is a command at a level, `help` included. -/
def knows (l : Level) (name : String) : Bool :=
  (l.subcommand? name).isSome || (l.hasSubcommands && name = "help")

/-- Whether a level takes one word that is no option. -/
def takesOperand : Level → Bool
  | .replay | .completions => true
  | _ => false

/-- The options with long names that only one level has. -/
def ownFlags : Level → List (String × Flag)
  | .replay => [("file", .file)]
  | .init => [("force", .overwrite)]
  | _ => []

/-- The options with long names that all levels have. -/
def commonFlags : List (String × Flag) :=
  [("config", .config), ("quiet", .quiet), ("verbose", .verbose), ("debug", .debug),
    ("trace", .trace), ("json", .json), ("yaml", .yaml), ("no-color", .noColor),
    ("color", .color), ("dry-run", .dryRun), ("yes", .yes), ("force", .yes),
    ("diagnostics", .diagnostics), ("help", .help), ("version", .version)]

/-- The option with a long name at a level. What a level has of its own goes before what is common. -/
def longFlag? (l : Level) (name : String) : Option Flag :=
  (l.ownFlags ++ commonFlags).lookup name

end Level

/-- The option with a short name. -/
def shortFlag? : Char → Option Flag
  | 'q' => some .quiet
  | 'v' => some .verbose
  | 'y' => some .yes
  | 'h' => some .help
  | 'V' => some .version
  | _ => none

/-- The values of the option for colours. -/
def colorChoices : List String :=
  ["auto", "always", "never"]

/-- The shells that completions can be made for. -/
def shells : List String :=
  ["bash", "elvish", "fish", "powershell", "zsh"]

end AgentFeed.CommandLine
