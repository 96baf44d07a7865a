import AgentFeed.Settings.Value

/-!
# Tables in TOML

A document builds its tables bit by bit, and what may still be added to a table depends on how it
came to be: one that a heading names is complete with its section, and one that only appears inside a
longer heading may get a heading of its own later, unless a dotted key has put something into it. A
table made or taken over by dotted keys goes on growing by them. A value, which includes inline tables
and plain arrays, never grows.
-/

namespace AgentFeed.Toml

/-- How a table came to be. -/
inductive TableOrigin where
  /-- A heading names it. -/
  | heading
  /-- It is on the way to a table that a heading names. -/
  | passed
  /-- A dotted key made it, or has put something into it. -/
  | dotted
deriving DecidableEq

/-- A node of a document under construction. -/
inductive TreeNode where
  /-- A finished value. -/
  | value (v : Setting)
  /-- A table. -/
  | table (origin : TableOrigin) (members : List (String × TreeNode))
  /-- The tables of an array that headings fill, the newest first. -/
  | tables (newestFirst : List (List (String × TreeNode)))

/-- The members of a table under construction. -/
abbrev Members := Table String TreeNode

namespace Members

/-- The members with a value under a key, which must be new; dots in the key make tables. Of an array
of tables the newest is meant, but a value goes only into tables below it. -/
def put (v : Setting) : List String → Members → Option Members
  | [], _ => none
  | [key], ms => if Table.contains ms key then none else some (Table.insert ms key (.value v))
  | key :: next :: rest, ms =>
    match Table.get? ms key with
    | none => (put v (next :: rest) []).map fun sub => Table.insert ms key (.table .dotted sub)
    | some (.table .dotted sub) =>
      (put v (next :: rest) sub).map fun sub => Table.insert ms key (.table .dotted sub)
    | some (.table .passed sub) =>
      let origin := if rest = [] then .dotted else .passed
      (put v (next :: rest) sub).map fun sub => Table.insert ms key (.table origin sub)
    | some (.tables (newest :: older)) =>
      if rest = [] then none
      else (put v (next :: rest) newest).map fun sub => Table.insert ms key (.tables (sub :: older))
    | some _ => none

/-- The members after a change of the table that a heading leads to. Missing tables on the way are
made; of an array of tables the newest is meant. -/
def changeAt (change : Members → Option Members) : List String → Members → Option Members
  | [], ms => change ms
  | key :: rest, ms =>
    match Table.get? ms key with
    | none => (changeAt change rest []).map fun sub => Table.insert ms key (.table .passed sub)
    | some (.table origin sub) =>
      (changeAt change rest sub).map fun sub => Table.insert ms key (.table origin sub)
    | some (.tables (newest :: older)) =>
      (changeAt change rest newest).map fun sub => Table.insert ms key (.tables (sub :: older))
    | some _ => none

/-- The members after the last part of a heading for a table. -/
def openTable (key : String) (ms : Members) : Option Members :=
  match Table.get? ms key with
  | none => some (Table.insert ms key (.table .heading []))
  | some (.table .passed sub) => some (Table.insert ms key (.table .heading sub))
  | some _ => none

/-- The members after the last part of a heading for one more table of an array. -/
def openItem (key : String) (ms : Members) : Option Members :=
  match Table.get? ms key with
  | none => some (Table.insert ms key (.tables [[]]))
  | some (.tables items) => some (Table.insert ms key (.tables ([] :: items)))
  | some _ => none

end Members

mutual

/-- The setting that a node stands for. -/
def TreeNode.setting : TreeNode → Setting
  | .value v => v
  | .table _ members => .group (memberSettings members)
  | .tables newestFirst => .list (itemSettings newestFirst).reverse

/-- The settings of members. -/
def memberSettings : List (String × TreeNode) → List (String × Setting)
  | [] => []
  | (key, node) :: rest => (key, node.setting) :: memberSettings rest

/-- The settings of the tables of an array. -/
def itemSettings : List (List (String × TreeNode)) → List Setting
  | [] => []
  | members :: rest => .group (memberSettings members) :: itemSettings rest

end

end AgentFeed.Toml
