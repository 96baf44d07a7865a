import AgentFeed.CommandLine.Reader

/-!
# Commands

What a command line asks for: the command, and the options common to all commands. Where a common
option has values at several levels, the innermost one counts.
-/

namespace AgentFeed.CommandLine

/-- How results are written. -/
inductive OutputFormat where
  /-- For people. -/
  | plain
  | json
  | yaml
deriving DecidableEq, Repr

/-- What the program is asked to do. -/
inductive Command where
  /-- Show the feed of a thread. -/
  | replayThread (threadId : String)
  /-- Show the feed of a transcript file. -/
  | replayFile (path : String)
  /-- Make directories and the configuration file. -/
  | init (overwrite : Bool)
  /-- Show the settings. -/
  | showConfig
  /-- Show the path of the configuration file. -/
  | showConfigPath
  /-- Write the default configuration file. -/
  | resetConfig
  /-- Completions for a shell. -/
  | completions (shell : String)
deriving DecidableEq, Repr

/-- The options common to all commands, as far as they decide what a command does. -/
structure CommonOptions where
  /-- Another configuration file. -/
  config : Option String
  /-- No log. -/
  quiet : Bool
  /-- How often more log was asked for. -/
  verbosity : Nat
  /-- A log for debugging. -/
  debug : Bool
  /-- The most detailed log. -/
  trace : Bool
  /-- How results are written. -/
  format : OutputFormat
  /-- No change on the disk. -/
  dryRun : Bool
  /-- Yes to every question. -/
  assumeYes : Bool
deriving DecidableEq, Repr

/-- What a command line asks for. -/
structure Invocation where
  /-- The command. -/
  command : Command
  /-- The options common to all commands. -/
  options : CommonOptions
deriving DecidableEq, Repr

namespace Invocation

/-- Whether an option is given at some level. -/
def has (levels : List (Level × Given)) (flag : Flag) : Bool :=
  levels.any fun (_, g) => g.flags.contains flag

/-- The value of an option at the innermost level that has one. -/
def value? (levels : List (Level × Given)) (flag : Flag) : Option String :=
  levels.reverse.findSome? fun (_, g) => g.values.lookup flag

/-- How often a counting option occurs at the innermost level that has it. -/
def count (levels : List (Level × Given)) (flag : Flag) : Nat :=
  ((levels.reverse.map fun (_, g) => g.flags.count flag).find? (· ≠ 0)).getD 0

/-- The common options. -/
def commonOptions (levels : List (Level × Given)) : CommonOptions where
  config := value? levels .config
  quiet := has levels .quiet
  verbosity := count levels .verbose
  debug := has levels .debug
  trace := has levels .trace
  format := if has levels .json then .json else if has levels .yaml then .yaml else .plain
  dryRun := has levels .dryRun
  assumeYes := has levels .yes

/-- The command of the innermost level. -/
def command? (l : Level) (g : Given) : Option Command :=
  match l with
  | .program => none
  | .config => none
  | .replay =>
    match g.values.lookup .file, g.operand with
    | some path, _ => some (.replayFile path)
    | none, some threadId => some (.replayThread threadId)
    | none, none => none
  | .init => some (.init (g.flags.contains .overwrite))
  | .configShow => some .showConfig
  | .configPath => some .showConfigPath
  | .configReset => some .resetConfig
  | .completions => g.operand.map .completions

end Invocation

/-- What a command line asks for, or the notice with which the program ends instead. -/
def parse (words : List String) : Except Notice Invocation := do
  let levels ← read? words
  match levels.getLast?.bind fun (l, g) => Invocation.command? l g with
  | some command => return { command, options := Invocation.commonOptions levels }
  | none => .error .noCommand

end AgentFeed.CommandLine
