import AgentFeed.Json.Document
import AgentFeed.Transcript.Error

/-!
# Transcript text

A transcript is kept as text, one entry a line. `TranscriptText.encode` writes an entry as its
compact record and a line feed. `TranscriptText.parse` reads lines back: blank ones are skipped, and
the first line that is no entry, or names no direction, is the error.

A line is read as a record in either form. Its four fields must be there, each once; other members
are skipped whatever they hold, so not even their strings and numbers need to mean anything.
-/

namespace AgentFeed

/-- An entry as it is stored, its direction not yet read. -/
structure StoredEntry where
  /-- The time. -/
  ts : String
  /-- The thread. -/
  threadId : String
  /-- The text that should name a direction. -/
  direction : String
  /-- The payload. -/
  payload : Json

namespace StoredEntry

/-- The text of a document that is a string. -/
def text? : JsonDocument → Option String
  | .text units => TextUnit.string? units
  | _ => none

/-- The payload of a document inside an entry. -/
def payload? (document : JsonDocument) : Option Json :=
  document.value? (Json.depthLimit - 1)

/-- A stored entry from the documents of its fields. -/
def ofParts? (ts threadId direction payload : JsonDocument) : Option StoredEntry := do
  return {
    ts := ← text? ts
    threadId := ← text? threadId
    direction := ← text? direction
    payload := ← payload? payload }

/-- The value of the member with a key, which must be there once. -/
def once? (members : List (Option String × JsonDocument)) (key : String) : Option JsonDocument :=
  match members.filter fun (k, _) => k = some key with
  | [(_, v)] => some v
  | _ => none

/-- A stored entry from a document. -/
def ofDocument? : JsonDocument → Option StoredEntry
  | .array [ts, threadId, direction, payload] => ofParts? ts threadId direction payload
  | .object members => do
    -- Every key has to be a text, also those of members that are skipped.
    let named := members.map fun (k, v) => (TextUnit.string? k, v)
    if named.all fun (k, _) => k.isSome then
      ofParts? (← once? named "ts") (← once? named "threadId") (← once? named "direction")
        (← once? named "payload")
    else none
  | _ => none

/-- The entry, unless its direction is none. -/
def toEntry (e : StoredEntry) : Except String TranscriptEntry := do
  let direction ← Direction.read e.direction
  return { ts := e.ts, threadId := e.threadId, direction, payload := e.payload }

end StoredEntry

namespace TranscriptText

/-! ## 1. Writing -/

/-- The line of an entry. -/
def encodeEntry (e : TranscriptEntry) : String :=
  e.toJson.compact ++ "\n"

/-- The lines of entries. -/
def encode (entries : List TranscriptEntry) : String :=
  entries.foldr (fun e text => encodeEntry e ++ text) ""

/-! ## 2. Reading -/

/-- The entry on a line that is not blank. -/
def parseLine (path : String) (number : Nat) (line : List Char) :
    Except TranscriptError TranscriptEntry :=
  match (JsonDocument.parse? (String.ofList line)).bind StoredEntry.ofDocument? with
  | none => .error (.malformedLine path number)
  | some stored => stored.toEntry.mapError .invalidDirection

/-- The entries on lines, the first of which has a number. -/
def parseLines (path : String) (number : Nat) :
    List (List Char) → Except TranscriptError (List TranscriptEntry)
  | [] => .ok []
  | line :: rest =>
    match Text.trimChars line with
    | [] => parseLines path (number + 1) rest
    | trimmed => do
      let entry ← parseLine path number trimmed
      let entries ← parseLines path (number + 1) rest
      return entry :: entries

/-- The entries in a text. The path is named in errors. -/
def parse (path text : String) : Except TranscriptError (List TranscriptEntry) :=
  parseLines path 1 (Text.lines text)

end TranscriptText

end AgentFeed
