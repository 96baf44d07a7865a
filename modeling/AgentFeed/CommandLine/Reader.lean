import AgentFeed.CommandLine.Grammar

/-!
# Reading a command line

Words are read one by one, level by level: `CommandLine.read?` gives what was found at each level from
the program's name to the command, or the notice with which the program ends instead.

A value is checked when something else follows it, or at the end; so of two faults the one that shows
first is noticed. A level is checked as a whole after the levels below it.
-/

namespace AgentFeed.CommandLine

/-- Why a command line is not carried out. -/
inductive Notice where
  /-- Help is wanted. -/
  | help
  /-- The version is wanted. -/
  | version
  /-- There is nothing where a command has to be, so help is shown. -/
  | helpForNothing
  /-- There are options, but no command. -/
  | noCommand
  /-- A word that has to be there is missing. -/
  | missingOperand
  /-- An option is not known, or there is a word too many. -/
  | unknownWord
  /-- Two options exclude each other, or one is there twice. -/
  | conflict
  /-- An option has no value, or one that it does not take. -/
  | badValue
  /-- A command is not known. -/
  | unknownCommand
  /-- An option that takes no value has one. -/
  | superfluousValue
deriving DecidableEq, Repr

/-- What is given at one level. -/
structure Given where
  /-- The options, a counting one as often as it occurs. -/
  flags : List Flag := []
  /-- The values of those that take one. -/
  values : List (Flag × String) := []
  /-- The word that is no option. -/
  operand : Option String := none
deriving DecidableEq

/-- A value that has not been checked yet. -/
inductive Pending where
  /-- Nothing is pending. -/
  | none
  /-- An option waits for its value. -/
  | awaited (flag : Flag)
  /-- An option has its value. -/
  | value (flag : Flag) (text : String)
  /-- There is a word that is no option. -/
  | operand (text : String)
deriving DecidableEq

/-- What a level reads with. -/
structure Scan where
  /-- What was accepted so far. -/
  given : Given := {}
  /-- What is not checked yet. -/
  pending : Pending := .none
  /-- Whether two hyphens were read, after which no word is an option. -/
  trailing : Bool := false

namespace Scan

/-- Whether an option is already there. -/
def has (s : Scan) (flag : Flag) : Bool :=
  s.given.flags.contains flag

/-- Whether a value suits an option. -/
def suits : Flag → String → Bool
  | .color, text => colorChoices.contains text
  | _, text => text ≠ ""

/-- An option with a value is accepted. -/
def acceptValue (s : Scan) (flag : Flag) (text : String) : Except Notice Scan :=
  if s.has flag then .error .conflict
  else if suits flag text then
    .ok { s with
      given := { s.given with
        flags := flag :: s.given.flags
        values := (flag, text) :: s.given.values } }
  else .error .badValue

/-- A word that is no option is accepted. -/
def acceptOperand (l : Level) (s : Scan) (text : String) : Except Notice Scan :=
  if l = .completions && !shells.contains text then .error .badValue
  else .ok { s with given := { s.given with operand := some text } }

/-- What is pending is checked. -/
def settle (l : Level) (s : Scan) : Except Notice Scan :=
  let settled := { s with pending := .none }
  match s.pending with
  | .none => .ok settled
  | .awaited _ => .error .badValue
  | .value flag text => settled.acceptValue flag text
  | .operand text => acceptOperand l settled text

/-- An option without a value is read. -/
def flag (l : Level) (s : Scan) (flag : Flag) : Except Notice Scan := do
  let s ← s.settle l
  match flag with
  | .help => .error .help
  | .version => .error .version
  | .verbose => return { s with given := { s.given with flags := .verbose :: s.given.flags } }
  | flag =>
    if s.has flag then .error .conflict
    else return { s with given := { s.given with flags := flag :: s.given.flags } }

/-- An option with a long name is read, with what stands behind an equals sign. -/
def longWord (l : Level) (s : Scan) (name : String) (attached : Option String) :
    Except Notice Scan :=
  match l.longFlag? name with
  | none => .error .unknownWord
  | some flag =>
    match flag.takesValue, attached with
    | false, none => s.flag l flag
    | false, some _ => .error .superfluousValue
    | true, none => (s.settle l).map fun s => { s with pending := .awaited flag }
    | true, some text => (s.settle l).bind fun s => s.acceptValue flag text

/-- Options with short names are read. -/
def shortWord (l : Level) (s : Scan) : List Char → Except Notice Scan
  | [] => .ok s
  | c :: rest =>
    match shortFlag? c with
    | none => .error .unknownWord
    | some flag => (s.flag l flag).bind fun s => shortWord l s rest

/-- A word that is no option is read. -/
def plainWord (l : Level) (s : Scan) (text : String) : Except Notice Scan :=
  match s.pending, s.trailing with
  | .awaited flag, false => .ok { s with pending := .value flag text }
  | _, _ =>
    -- A word that waits to be checked takes the place just as one that was accepted.
    if l.takesOperand && s.given.operand.isNone && !(s.pending matches .operand _) then
      (s.settle l).map fun s => { s with pending := .operand text }
    else if l.hasSubcommands && !(s.trailing && l.knows text) then .error .unknownCommand
    else .error .unknownWord

/-- The name and the attached value of a word that starts with two hyphens. -/
def splitLong (cs : List Char) : String × Option String :=
  let name := String.ofList (cs.takeWhile (· ≠ '='))
  match cs.dropWhile (· ≠ '=') with
  | [] => (name, none)
  | _ :: value => (name, some (String.ofList value))

/-- A word that leads to no other level is read. -/
def word (l : Level) (s : Scan) (text : String) : Except Notice Scan :=
  if s.trailing then s.plainWord l text
  else
    match text.toList with
    | ['-', '-'] => .ok { s with trailing := true }
    | '-' :: '-' :: rest =>
      let (name, attached) := splitLong rest
      s.longWord l name attached
    | '-' :: c :: rest => s.shortWord l (c :: rest)
    | _ => s.plainWord l text

end Scan

/-! ## Checking a level -/

/-- Whether two options that exclude each other are given. -/
def hasConflict (l : Level) (g : Given) : Bool :=
  (g.flags.contains .json && g.flags.contains .yaml)
    || (g.flags.contains .noColor && g.flags.contains .color)
    || (l = .replay && g.flags.contains .file && g.operand.isSome)

/-- Whether a word that has to be there is missing. -/
def lacksOperand (l : Level) (g : Given) : Bool :=
  l.takesOperand && g.operand.isNone && !g.flags.contains .file

/-- A level at the end of the line, or before the level that follows it. -/
def checkLevel (l : Level) (isLast : Bool) (s : Scan) : Except Notice Given := do
  let s ← s.settle l
  -- A missing command is noticed before options that exclude each other.
  if isLast && l.hasSubcommands then
    .error (if s.given = {} then .helpForNothing else .noCommand)
  else if hasConflict l s.given then .error .conflict
  else if lacksOperand l s.given then .error .missingOperand
  else return s.given

/-- The notice for the words after `help`, which have to be names of commands. -/
def helpNotice (l : Level) : List String → Notice
  | [] => .help
  | name :: rest =>
    match l.subcommand? name with
    | some next => helpNotice next rest
    | none =>
      if l.hasSubcommands && name = "help" && rest = [] then .help else .unknownCommand

/-! ## All levels -/

/-- What is given at a level and those below it, outermost first. -/
def readLevel (l : Level) (s : Scan) : List String → Except Notice (List (Level × Given))
  | [] => (checkLevel l true s).map fun g => [(l, g)]
  | text :: rest =>
    -- The value that an option waits for may look like a command.
    let next :=
      if s.trailing || s.pending matches .awaited _ then none else l.subcommand? text
    match next with
    | some next => do
      let below ← readLevel next {} rest
      let g ← checkLevel l false s
      return (l, g) :: below
    | none =>
      if l.knows text && !s.trailing && !(s.pending matches .awaited _) then
        .error (helpNotice l rest)
      else
        match s.word l text with
        | .error notice => .error notice
        | .ok s => readLevel l s rest

/-- What is given on a command line, at each level from the program's name on. -/
def read? (words : List String) : Except Notice (List (Level × Given)) :=
  readLevel .program {} words

end AgentFeed.CommandLine
