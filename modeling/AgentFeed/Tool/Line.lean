import AgentFeed.Json.Document
import AgentFeed.Text.Blank

/-!
# Tool lines in a log

Older servers report tool calls as lines of a log. A line `tool> name payload` starts a call, a line
`tool< name payload` ends one. `ToolLine.parse?` recognizes them: after the mark come blanks, then
the name, which goes up to the next blank, brace or bracket, then any blanks, and then the payload,
in which no line feed may occur.

Some lines are the provider talking to itself (`LogLine.isNoise`); nobody needs to see them.
-/

namespace AgentFeed

/-- Which half of a call a tool line reports. -/
inductive ToolLineMark where
  /-- The call starts. -/
  | start
  /-- The call ends. -/
  | finish
deriving DecidableEq, Repr

/-- A tool call reported by a log line. -/
structure ToolLine where
  /-- Which half of the call the line reports. -/
  mark : ToolLineMark
  /-- The name of the tool. -/
  name : String
  /-- What follows the name: its value if it is JSON, the text itself otherwise. -/
  payload : Option Json

namespace ToolLineMark

/-- The character after the word `tool`. -/
def char : ToolLineMark → Char
  | .start => '>'
  | .finish => '<'

/-- The mark that a character is. -/
def ofChar? (c : Char) : Option ToolLineMark :=
  if c = '>' then some .start
  else if c = '<' then some .finish
  else none

end ToolLineMark

namespace ToolLine

/-- A character that can stand in the name of a tool. -/
def isNameChar (c : Char) : Bool :=
  !Text.isBlank c && c ≠ '{' && c ≠ '['

/-- The payload that a rest of a line is. -/
def payload? (rest : List Char) : Option Json :=
  match Text.trimChars rest with
  | [] => none
  | cs =>
    let text := String.ofList cs
    some ((Json.parse? text).getD (.string text))

/-- What the characters after the mark say: blanks, a name, blanks, a payload. -/
def afterMark? (mark : ToolLineMark) (cs : List Char) : Option ToolLine :=
  let fromName := cs.dropWhile Text.isBlank
  let name := fromName.takeWhile isNameChar
  let rest := (fromName.dropWhile isNameChar).dropWhile Text.isBlank
  if fromName.length < cs.length ∧ name ≠ [] ∧ '\n' ∉ rest then
    some { mark, name := String.ofList name, payload := payload? rest }
  else none

/-- The call that trimmed characters report. -/
def ofTrimmed? : List Char → Option ToolLine
  | 't' :: 'o' :: 'o' :: 'l' :: c :: rest => (ToolLineMark.ofChar? c).bind (afterMark? · rest)
  | _ => none

/-- The call that a line reports, if it is a tool line. -/
def parse? (line : String) : Option ToolLine :=
  ofTrimmed? (Text.trimChars line.toList)

/-- Whether the payload reports a failure: an error that is not `null`, a true `isError`, or a false
`ok`. -/
def isError (line : ToolLine) : Bool :=
  match line.payload with
  | none => false
  | some payload =>
    ((payload.member? "error").any fun e => !e.isNull)
      || (payload.member? "isError").bind Json.bool? == some true
      || (payload.member? "ok").bind Json.bool? == some false

end ToolLine

namespace LogLine

/-- Whether a text occurs in another. -/
def occursIn (part : List Char) : List Char → Bool
  | [] => part.isEmpty
  | c :: rest => part.isPrefixOf (c :: rest) || occursIn part rest

/-- The beginning of a line that echoes a stream part. -/
def echoStart : String := "raw stream part:"

/-- Texts that occur in no line meant for people. -/
def noiseMarkers : List String :=
  ["response.function_call_arguments.", "response.reasoning", "obfuscation"]

/-- Whether a line is the provider talking to itself. -/
def isNoise (line : String) : Bool :=
  let cs := Text.trimLeft line.toList
  echoStart.toList.isPrefixOf cs || noiseMarkers.any fun marker => occursIn marker.toList cs

end LogLine

end AgentFeed
