import AgentFeed.Json.Basic
import AgentFeed.Number.Integer
import AgentFeed.Number.Shortest

/-!
# JSON text

The two written forms of a value. The compact form has no blanks at all. The laid-out form puts
every item and member on a line of its own, two spaces deeper than its container; an empty
container stays on one line. Members are written in the order in which the value lists them.

A string escapes the quote, the backslash and the control characters below U+0020, and nothing
else.
-/

namespace AgentFeed

/-- Doubles in JSON are positional for exponents from -5 to 15, whole ones end in `.0`, and a
positive exponent has its sign. -/
def JsonNumber.doubleStyle : DecimalStyle :=
  { positional := some (-5, 15), keepsPoint := true, plusSign := true }

/-- The text of a number. -/
def JsonNumber.chars : JsonNumber → List Char
  | .integer n => intChars n
  | .double d => JsonNumber.doubleStyle.write d

namespace Json

/-! ## 1. Strings -/

/-- One character inside a string. -/
def escapeChar (c : Char) : List Char :=
  if c = '"' then ['\\', '"']
  else if c = '\\' then ['\\', '\\']
  else if c = '\x08' then ['\\', 'b']
  else if c = '\t' then ['\\', 't']
  else if c = '\n' then ['\\', 'n']
  else if c = '\x0c' then ['\\', 'f']
  else if c = '\r' then ['\\', 'r']
  else if c.toNat < 0x20 then
    ['\\', 'u', '0', '0', Nat.digitChar (c.toNat / 16), Nat.digitChar (c.toNat % 16)]
  else [c]

/-- A string with its quotes. -/
def quoted (s : String) : List Char :=
  '"' :: s.toList.flatMap escapeChar ++ ['"']

/-! ## 2. The compact form -/

mutual

/-- The compact form of a value. -/
def chars : Json → List Char
  | .null => ['n', 'u', 'l', 'l']
  | .bool true => ['t', 'r', 'u', 'e']
  | .bool false => ['f', 'a', 'l', 's', 'e']
  | .number n => n.chars
  | .string s => quoted s
  | .array items => '[' :: itemsChars items ++ [']']
  | .object members => '{' :: membersChars members ++ ['}']

/-- Items, a comma between two of them. -/
def itemsChars : List Json → List Char
  | [] => []
  | [v] => chars v
  | v :: rest => chars v ++ ',' :: itemsChars rest

/-- Members, a comma between two of them. -/
def membersChars : List (String × Json) → List Char
  | [] => []
  | [(k, v)] => quoted k ++ ':' :: chars v
  | (k, v) :: rest => quoted k ++ ':' :: chars v ++ ',' :: membersChars rest

end

/-- The compact form of a value as a string. -/
def compact (value : Json) : String :=
  String.ofList value.chars

/-- The value as a reader sees it in a line of text: a string without quotes, anything else in
compact form. -/
def plainText : Json → String
  | .string s => s
  | other => other.compact

/-! ## 3. The laid-out form -/

/-- A new line, indented to a depth. -/
def newline (depth : Nat) : List Char :=
  '\n' :: List.replicate (2 * depth) ' '

mutual

/-- The laid-out form of a value that starts at a depth. -/
def layout (depth : Nat) : Json → List Char
  | .array [] => ['[', ']']
  | .array (v :: rest) =>
    '[' :: newline (depth + 1) ++ layout (depth + 1) v ++ layoutItems (depth + 1) rest
      ++ newline depth ++ [']']
  | .object [] => ['{', '}']
  | .object ((k, v) :: rest) =>
    '{' :: newline (depth + 1) ++ quoted k ++ ':' :: ' ' :: layout (depth + 1) v
      ++ layoutMembers (depth + 1) rest ++ newline depth ++ ['}']
  | .null => chars .null
  | .bool b => chars (.bool b)
  | .number n => chars (.number n)
  | .string s => chars (.string s)

/-- The items after the first. -/
def layoutItems (depth : Nat) : List Json → List Char
  | [] => []
  | v :: rest => ',' :: newline depth ++ layout depth v ++ layoutItems depth rest

/-- The members after the first. -/
def layoutMembers (depth : Nat) : List (String × Json) → List Char
  | [] => []
  | (k, v) :: rest =>
    ',' :: newline depth ++ quoted k ++ ':' :: ' ' :: layout depth v ++ layoutMembers depth rest

end

/-- The laid-out form of a value as a string. -/
def pretty (value : Json) : String :=
  String.ofList (value.layout 0)

end Json

end AgentFeed
