import AgentFeed.Json.Printer
import AgentFeed.Yaml.Scalar

/-!
# YAML text

A value written in block style, two columns for each level. The items of a list stand below its key
without further indentation; a list or record that is itself an item starts on the line of its
hyphen. Empty containers are written as in JSON. A key that is too long for one line, or has several,
gets a question mark, and its value a colon, each on a line of its own.
-/

namespace AgentFeed.Yaml

/-- Doubles in YAML are written as in JSON, but a positive exponent has no sign. -/
def doubleStyle : DecimalStyle :=
  { JsonNumber.doubleStyle with plusSign := false }

/-- The text of a number. -/
def numberChars : JsonNumber → List Char
  | .integer n => intChars n
  | .double d => doubleStyle.write d

/-- A value without parts, and the end of its line. -/
def scalar (indent : Nat) : Json → List Char
  | .string s => string indent s
  | .number n => numberChars n ++ ['\n']
  | other => other.chars ++ ['\n']

mutual

/-- A value after its key, which starts at a column. -/
def afterKey (indent : Nat) : Json → List Char
  | .array (v :: rest) => '\n' :: items indent (v :: rest)
  | .object (m :: rest) => '\n' :: members (indent + 2) (m :: rest)
  | .array [] => ' ' :: scalar (indent + 2) (.array [])
  | .object [] => ' ' :: scalar (indent + 2) (.object [])
  | .null => ' ' :: scalar (indent + 2) .null
  | .bool b => ' ' :: scalar (indent + 2) (.bool b)
  | .number n => ' ' :: scalar (indent + 2) (.number n)
  | .string s => ' ' :: scalar (indent + 2) (.string s)

/-- A value after a mark of one character at a column. -/
def afterMark (indent : Nat) : Json → List Char
  | .array (v :: rest) => (items (indent + 2) (v :: rest)).drop (indent + 1)
  | .object (m :: rest) => (members (indent + 2) (m :: rest)).drop (indent + 1)
  | .array [] => ' ' :: scalar (indent + 2) (.array [])
  | .object [] => ' ' :: scalar (indent + 2) (.object [])
  | .null => ' ' :: scalar (indent + 2) .null
  | .bool b => ' ' :: scalar (indent + 2) (.bool b)
  | .number n => ' ' :: scalar (indent + 2) (.number n)
  | .string s => ' ' :: scalar (indent + 2) (.string s)

/-- The items of a list that starts at a column. -/
def items (indent : Nat) : List Json → List Char
  | [] => []
  | v :: rest => pad indent ++ '-' :: afterMark indent v ++ items indent rest

/-- The members of a record that starts at a column. -/
def members (indent : Nat) : List (String × Json) → List Char
  | [] => []
  | (k, v) :: rest =>
    match simpleKey? k with
    | some key => pad indent ++ key ++ ':' :: afterKey indent v ++ members indent rest
    | none =>
      pad indent ++ '?' :: ' ' :: string (indent + 2) k ++ pad indent ++ ':' :: afterMark indent v
        ++ members indent rest

end

/-- A value as a document. -/
def document : Json → List Char
  | .array (v :: rest) => items 0 (v :: rest)
  | .object (m :: rest) => members 0 (m :: rest)
  | other => scalar 2 other

end AgentFeed.Yaml

/-- The YAML text of a value. -/
def AgentFeed.Json.yaml (value : Json) : String :=
  String.ofList (Yaml.document value)
