import AgentFeed.Json.Record
import AgentFeed.Text.Blank
import AgentFeed.Text.LowerCase

/-!
# Transcript entries

A transcript is the log of the traffic of one thread: an entry for each message, with the time, the
thread, the side that sent it, and the payload just as it was sent.
-/

namespace AgentFeed

/-- The side that sent a message. -/
inductive Direction where
  /-- Received from the server. -/
  | server
  /-- Sent by the client. -/
  | client
deriving DecidableEq, Repr

namespace Direction

/-- The name of a direction. -/
def name : Direction → String
  | .server => "server"
  | .client => "client"

/-- The direction with a name. -/
def ofName? (name : String) : Option Direction :=
  if name = "server" then some .server
  else if name = "client" then some .client
  else none

/-- The direction that a text names, whatever its case and the blanks around it; otherwise the text
in lower case and without those blanks. -/
def read (text : String) : Except String Direction :=
  let lowered := Text.lower (Text.trim text)
  match ofName? lowered with
  | some direction => .ok direction
  | none => .error lowered

/-- What is said about a text that names no direction. -/
def unknownMessage (lowered : String) : String :=
  "direction must be 'server' or 'client', got '" ++ lowered ++ "'"

/-- The direction that a field names exactly. -/
def ofJson? (value : Json) : Option Direction :=
  (Json.constantName? false value).bind ofName?

end Direction

/-- One message of a transcript. -/
structure TranscriptEntry where
  /-- When the message was sent or received. -/
  ts : String
  /-- The thread it belongs to. -/
  threadId : String
  /-- The side that sent it. -/
  direction : Direction
  /-- The message as sent. -/
  payload : Json

namespace TranscriptEntry

/-- The names of the fields, in order. -/
def fieldNames : List String :=
  ["ts", "threadId", "direction", "payload"]

/-- The entry as a record. -/
def toJson (e : TranscriptEntry) : Json :=
  .object [("ts", .string e.ts), ("threadId", .string e.threadId),
    ("direction", .string e.direction.name), ("payload", e.payload)]

/-- An entry from a record in either form. -/
def ofJson? (value : Json) : Option TranscriptEntry := do
  let fields ← value.fields? fieldNames
  return {
    ts := ← fields.need? "ts" Json.string?
    threadId := ← fields.need? "threadId" Json.string?
    direction := ← fields.need? "direction" Direction.ofJson?
    payload := ← fields.need? "payload" Json.any? }

/-- The payloads of entries. -/
def payloads (entries : List TranscriptEntry) : List Json :=
  entries.map (·.payload)

end TranscriptEntry

end AgentFeed
