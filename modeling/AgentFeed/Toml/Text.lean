import AgentFeed.Number.Integer

/-!
# Strings in TOML

The four kinds of string: in double quotes with escapes, in apostrophes without, and both again
between three quotes, where they may span lines. A reader takes the characters after the opening
quotes and returns the string with what follows the closing ones.

A line end is a line feed, with or without a carriage return before it, and stays as it is. One right
after three opening quotes does not belong to the string, and a backslash at the end of a line joins
it to the next character that is no blank.
-/

namespace AgentFeed.Toml

/-- A blank within a line. -/
def isLineBlank (c : Char) : Bool :=
  c = ' ' || c = '\t'

/-- A character that may stand for itself in strings and comments. -/
def isPlain (c : Char) : Bool :=
  c = '\t' || (0x20 ≤ c.toNat && c.toNat ≠ 0x7F)

/-- A text without the blanks at its start. -/
def skipBlanks (cs : List Char) : List Char :=
  cs.dropWhile isLineBlank

/-- The character with a code point, if there is one. -/
def charAt? (code : Nat) : Option Char :=
  if code.isValidChar then some (Char.ofNat code) else none

/-- The character that hexadecimal digits name. -/
def hexChar? (digits : List Char) : Option Char :=
  (Digits.nat? 16 digits).bind charAt?

/-- The character that a one-letter escape stands for. -/
def shortEscape? : Char → Option Char
  | 'b' => some '\x08'
  | 't' => some '\t'
  | 'n' => some '\n'
  | 'f' => some '\x0c'
  | 'r' => some '\r'
  | 'e' => some '\x1b'
  | '"' => some '"'
  | '\\' => some '\\'
  | _ => none

/-! ## 1. On one line -/

/-- The rest of a string in double quotes, after the characters already read, in reverse. -/
def basic? (read : List Char) : List Char → Option (String × List Char)
  | [] => none
  | '"' :: rest => some (String.ofList read.reverse, rest)
  | '\\' :: 'x' :: a :: b :: rest =>
    match hexChar? [a, b] with
    | some c => basic? (c :: read) rest
    | none => none
  | '\\' :: 'u' :: a :: b :: c :: d :: rest =>
    match hexChar? [a, b, c, d] with
    | some c => basic? (c :: read) rest
    | none => none
  | '\\' :: 'U' :: a :: b :: c :: d :: e :: f :: g :: h :: rest =>
    match hexChar? [a, b, c, d, e, f, g, h] with
    | some c => basic? (c :: read) rest
    | none => none
  | '\\' :: e :: rest =>
    match shortEscape? e with
    | some c => basic? (c :: read) rest
    | none => none
  | c :: rest => if isPlain c then basic? (c :: read) rest else none

/-- The rest of a string in apostrophes. -/
def literal? (read : List Char) : List Char → Option (String × List Char)
  | [] => none
  | c :: rest =>
    if c = '\x27' then some (String.ofList read.reverse, rest)
    else if isPlain c then literal? (c :: read) rest
    else none

/-! ## 2. On several lines -/

/-- A text without a line end at its start. -/
def skipLineEnd : List Char → List Char
  | '\n' :: rest => rest
  | '\r' :: '\n' :: rest => rest
  | cs => cs

/-- What the reader of a string on several lines is doing. -/
inductive JoinMode where
  /-- It reads characters. -/
  | reading
  /-- After a backslash it expects the end of the line. -/
  | lineEnd
  /-- It skips blanks and line ends. -/
  | joining
deriving DecidableEq

/-- The rest of a string between three double quotes. -/
def longBasic? (mode : JoinMode) (read : List Char) :
    List Char → Option (String × List Char)
  | [] => none
  | '\r' :: '\n' :: rest =>
    match mode with
    | .reading => longBasic? .reading ('\n' :: '\r' :: read) rest
    | _ => longBasic? .joining read rest
  | '\n' :: rest =>
    match mode with
    | .reading => longBasic? .reading ('\n' :: read) rest
    | _ => longBasic? .joining read rest
  | ' ' :: rest => longBasic? mode (if mode = .reading then ' ' :: read else read) rest
  | '\t' :: rest => longBasic? mode (if mode = .reading then '\t' :: read else read) rest
  | '"' :: '"' :: '"' :: '"' :: '"' :: rest =>
    if mode = .lineEnd then none else some (String.ofList ('"' :: '"' :: read).reverse, rest)
  | '"' :: '"' :: '"' :: '"' :: rest =>
    if mode = .lineEnd then none else some (String.ofList ('"' :: read).reverse, rest)
  | '"' :: '"' :: '"' :: rest =>
    if mode = .lineEnd then none else some (String.ofList read.reverse, rest)
  | '\\' :: 'x' :: a :: b :: rest =>
    match hexChar? [a, b] with
    | some c => if mode = .lineEnd then none else longBasic? .reading (c :: read) rest
    | none => none
  | '\\' :: 'u' :: a :: b :: c :: d :: rest =>
    match hexChar? [a, b, c, d] with
    | some c => if mode = .lineEnd then none else longBasic? .reading (c :: read) rest
    | none => none
  | '\\' :: 'U' :: a :: b :: c :: d :: e :: f :: g :: h :: rest =>
    match hexChar? [a, b, c, d, e, f, g, h] with
    | some c => if mode = .lineEnd then none else longBasic? .reading (c :: read) rest
    | none => none
  | '\\' :: e :: rest =>
    if mode = .lineEnd then none
    else if e = '\n' then longBasic? .joining read rest
    else if e = ' ' ∨ e = '\t' ∨ e = '\r' then longBasic? .lineEnd read (e :: rest)
    else
      match shortEscape? e with
      | some c => longBasic? .reading (c :: read) rest
      | none => none
  | c :: rest =>
    if mode ≠ .lineEnd ∧ isPlain c then longBasic? .reading (c :: read) rest else none
termination_by cs => cs.length

/-- The rest of a string between three apostrophes. -/
def longLiteral? (read : List Char) : List Char → Option (String × List Char)
  | [] => none
  | '\r' :: '\n' :: rest => longLiteral? ('\n' :: '\r' :: read) rest
  | '\n' :: rest => longLiteral? ('\n' :: read) rest
  | '\x27' :: '\x27' :: '\x27' :: '\x27' :: '\x27' :: rest =>
    some (String.ofList ('\x27' :: '\x27' :: read).reverse, rest)
  | '\x27' :: '\x27' :: '\x27' :: '\x27' :: rest => some (String.ofList ('\x27' :: read).reverse, rest)
  | '\x27' :: '\x27' :: '\x27' :: rest => some (String.ofList read.reverse, rest)
  | c :: rest => if isPlain c then longLiteral? (c :: read) rest else none

/-! ## 3. Any string -/

/-- The string that a text starts with. -/
def string? : List Char → Option (String × List Char)
  | '"' :: '"' :: '"' :: rest => longBasic? .reading [] (skipLineEnd rest)
  | '"' :: rest => basic? [] rest
  | '\x27' :: '\x27' :: '\x27' :: rest => longLiteral? [] (skipLineEnd rest)
  | '\x27' :: rest => literal? [] rest
  | _ => none

/-! ## 4. Keys -/

/-- A character of a key without quotes. -/
def isBareKeyChar (c : Char) : Bool :=
  c.isAlphanum || c = '_' || c = '-'

/-- The key, without dots, that a text starts with. -/
def simpleKey? : List Char → Option (String × List Char)
  | '"' :: rest => basic? [] rest
  | '\x27' :: rest => literal? [] rest
  | cs =>
    let bare := cs.takeWhile isBareKeyChar
    if bare = [] then none else some (String.ofList bare, cs.dropWhile isBareKeyChar)

/-- The key of at most `room` parts that a text starts with; its parts have dots between them. -/
def keyParts? : (room : Nat) → List Char → Option (List String × List Char)
  | 0, _ => none
  | room + 1, cs => do
    let (part, rest) ← simpleKey? (skipBlanks cs)
    match skipBlanks rest with
    | '.' :: more =>
      let (parts, rest) ← keyParts? room more
      return (part :: parts, rest)
    | rest => return ([part], rest)

/-- The greatest number of parts of a key, and of arrays and inline tables inside one another. -/
def depthLimit : Nat := 80

/-- The key that a text starts with, and what follows it and any blanks. -/
def key? (cs : List Char) : Option (List String × List Char) :=
  keyParts? depthLimit cs

end AgentFeed.Toml
