import AgentFeed.Json.Document
import AgentFeed.Text.Blank

/-!
# Tool arguments

The arguments of a tool call arrive as pieces of text, and after each piece the whole text so far is
read again. `structured` finds the arguments in a text: the text itself if it is JSON, else the
part from its first opening brace to its last closing one, else the part between the outermost
brackets. A text without readable arguments is itself shown, under the key `input`, beside the
fields that were known before.
-/

namespace AgentFeed.ToolArguments

/-- The key under which a text without readable arguments is kept. -/
def rawKey : String := "input"

/-- The JSON value that a text is, blanks around it aside. -/
def readWhole? (cs : List Char) : Option Json :=
  Json.parse? (String.ofList (Text.trimChars cs))

/-- The part of a text from the first of one character to the last of another, when that comes
later. -/
def outermost? (opening closing : Char) (cs : List Char) : Option (List Char) :=
  let fromOpening := cs.dropWhile (· ≠ opening)
  let upToClosing := (fromOpening.reverse.dropWhile (· ≠ closing)).reverse
  if 2 ≤ upToClosing.length then some upToClosing else none

/-- The arguments that a text holds, if it holds any. -/
def read? (cs : List Char) : Option Json :=
  (readWhole? cs).or <|
    ((outermost? '{' '}' cs).bind readWhole?).or <|
      (outermost? '[' ']' cs).bind readWhole?

/-- The fields that stay when a text has to be shown as it is. -/
def keptFields : Option Json → Table String Json
  | some (.object members) => members.filter fun (key, _) => key ≠ rawKey
  | _ => []

/-- The arguments that a text stands for, given those known before. -/
def structured (raw : String) (previous : Option Json) : Json :=
  match read? raw.toList with
  | some value => value
  | none => .object ((keptFields previous).insert rawKey (.string raw))

/-- New arguments over old ones: two objects field by field, otherwise the new ones alone. -/
def merged : Option Json → Json → Json
  | some (.object base), .object extra => .object (Table.union base extra)
  | _, incoming => incoming

end AgentFeed.ToolArguments
