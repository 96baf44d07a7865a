import AgentFeed.Toml.Scalar
import AgentFeed.Toml.Tree

/-!
# TOML documents

A document is a list of lines: headings `[a.b]`, headings `[[a.b]]` for one more table of an array,
assignments `a.b = value`, and comments. `Toml.parse?` gives the table that a document describes.

A line end is a line feed, with or without a carriage return before it. Inside the brackets of an
array or an inline table, line ends and comments count as blanks.

Keys have at most `depthLimit` parts, and as many arrays and inline tables may be inside one another.
-/

namespace AgentFeed.Toml

/-! ## 1. Between values -/

/-- The text after a comment, which ends before the line end. -/
def skipComment : List Char → Option (List Char)
  | [] => some []
  | '\n' :: rest => some ('\n' :: rest)
  | '\r' :: '\n' :: rest => some ('\n' :: rest)
  | c :: rest => if isPlain c then skipComment rest else none

/-- The text after blanks, line ends and comments; at most `fuel` of them. -/
def skipSpace : Nat → List Char → Option (List Char)
  | 0, cs => some cs
  | fuel + 1, cs =>
    match cs with
    | ' ' :: rest => skipSpace fuel rest
    | '\t' :: rest => skipSpace fuel rest
    | '\n' :: rest => skipSpace fuel rest
    | '\r' :: '\n' :: rest => skipSpace fuel rest
    | '#' :: rest => (skipComment rest).bind (skipSpace fuel)
    | cs => some cs

/-- The text after the end of a line, a comment before it being allowed. -/
def endLine (cs : List Char) : Option (List Char) :=
  let fromComment :=
    match skipBlanks cs with
    | '#' :: rest => skipComment rest
    | rest => some rest
  match fromComment with
  | some [] => some []
  | some ('\n' :: rest) => some rest
  | some ('\r' :: '\n' :: rest) => some rest
  | _ => none

/-- A key and the equals sign after it; `skip` passes over what may stand on either side of the sign. -/
def keyAndEquals? (skip : List Char → Option (List Char)) (cs : List Char) :
    Option (List String × List Char) := do
  let (key, rest) ← key? cs
  match ← skip rest with
  | '=' :: rest => return (key, ← skip rest)
  | _ => none

/-! ## 2. Values

Every reader here takes a bound on the steps that are left, for which twice the number of characters
is always enough, and the number of arrays and inline tables that may still be opened inside one
another. -/

mutual

/-- The value that a text starts with. -/
def value? : (fuel room : Nat) → List Char → Option (Setting × List Char)
  | 0, _, _ => none
  | fuel + 1, room, cs =>
    match room, cs with
    | 0, '[' :: _ => none
    | 0, '{' :: _ => none
    | room + 1, '[' :: rest => do
      let (items, rest) ← items? fuel room [] (← skipSpace fuel rest)
      return (.list items, rest)
    | room + 1, '{' :: rest => do
      let (members, rest) ← inlineMembers? fuel room [] (← skipSpace fuel rest)
      return (.group (memberSettings members), rest)
    | _, cs =>
      if cs.head? = some '"' ∨ cs.head? = some '\x27' then
        (string? cs).map fun (s, rest) => (.text s, rest)
      else scalar? cs

/-- The items of an array, after those already read, in reverse. -/
def items? : (fuel room : Nat) → List Setting → List Char → Option (List Setting × List Char)
  | 0, _, _, _ => none
  | fuel + 1, room, read, cs =>
    match cs with
    | ']' :: rest => some (read.reverse, rest)
    | cs => do
      let (item, rest) ← value? fuel room cs
      match ← skipSpace fuel rest with
      | ',' :: rest => items? fuel room (item :: read) (← skipSpace fuel rest)
      | ']' :: rest => return ((item :: read).reverse, rest)
      | _ => none

/-- The members of an inline table, after those already read. -/
def inlineMembers? : (fuel room : Nat) → Members → List Char → Option (Members × List Char)
  | 0, _, _, _ => none
  | fuel + 1, room, read, cs =>
    match cs with
    | '}' :: rest => some (read, rest)
    | cs => do
      let (key, rest) ← keyAndEquals? (skipSpace fuel) cs
      let (v, rest) ← value? fuel room rest
      let read ← read.put v key
      match ← skipSpace fuel rest with
      | ',' :: rest => inlineMembers? fuel room read (← skipSpace fuel rest)
      | '}' :: rest => return (read, rest)
      | _ => none

end

/-! ## 3. Lines -/

/-- A document under construction. -/
structure Draft where
  /-- The tables so far. -/
  root : Members := []
  /-- The table that the last heading named. -/
  current : List String := []

namespace Draft

/-- The draft after a heading for a table. -/
def openTable (d : Draft) (path : List String) : Option Draft := do
  let key ← path.getLast?
  let root ← d.root.changeAt (·.openTable key) path.dropLast
  return { root, current := path }

/-- The draft after a heading for one more table of an array. -/
def openItem (d : Draft) (path : List String) : Option Draft := do
  let key ← path.getLast?
  let root ← d.root.changeAt (·.openItem key) path.dropLast
  return { root, current := path }

/-- The draft after an assignment. -/
def assign (d : Draft) (key : List String) (v : Setting) : Option Draft := do
  let root ← d.root.changeAt (·.put v key) d.current
  return { d with root }

/-- The draft after the line that a text starts with, and the text after that line. -/
def line? (d : Draft) (cs : List Char) : Option (Draft × List Char) :=
  match skipBlanks cs with
  | '[' :: '[' :: rest => do
    match ← key? rest with
    | (path, ']' :: ']' :: rest) => return (← d.openItem path, ← endLine rest)
    | _ => none
  | '[' :: rest => do
    match ← key? rest with
    | (path, ']' :: rest) => return (← d.openTable path, ← endLine rest)
    | _ => none
  | rest =>
    if rest = [] ∨ rest.head? = some '#' ∨ rest.head? = some '\n' ∨ rest.head? = some '\r' then
      (endLine rest).map (d, ·)
    else do
      let (key, rest) ← keyAndEquals? (some <| skipBlanks ·) rest
      let (v, rest) ← value? (2 * rest.length + 2) depthLimit rest
      return (← d.assign key v, ← endLine rest)

/-- The draft after at most `fuel` lines. -/
def lines? : Nat → Draft → List Char → Option Draft
  | 0, _, _ => none
  | _ + 1, d, [] => some d
  | fuel + 1, d, cs => do
    let (d, rest) ← d.line? cs
    lines? fuel d rest

end Draft

/-- The table that a document describes. A byte order mark in front of it does not count. -/
def parse? (text : String) : Option (Table String Setting) :=
  let cs :=
    match text.toList with
    | '\uFEFF' :: rest => rest
    | cs => cs
  (Draft.lines? (cs.length + 1) {} cs).map fun d => memberSettings d.root

end AgentFeed.Toml
