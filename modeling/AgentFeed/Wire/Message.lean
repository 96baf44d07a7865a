import AgentFeed.Json.Printer
import AgentFeed.Stream.Chunk

/-!
# Wire messages

The messages that pass between server and client. A payload is any JSON value; decoding it never
fails, since a payload that is none of the eight known messages becomes `other`, with nothing left
of it but the type it declares.

A known message is an object with its type under `type`, or an array that starts with the type and
goes on with the fields in order. Members of an object that are no field of the message do not
matter.
-/

namespace AgentFeed

/-- A decoded message. -/
inductive WireMessage where
  /-- A piece of model output. -/
  | modelStreamChunk (chunk : RawChunk)
  /-- A prompt of the user, sent by the client or sent back by the server. -/
  | userMessage (text : String) (clientMessageId : Option String)
  /-- A whole message of the assistant. -/
  | assistantMessage (text : String)
  /-- A whole block of reasoning. -/
  | reasoning (kind : Option String) (text : String)
  /-- A list of things to do. -/
  | todos (items : List Json)
  /-- A line of a log. -/
  | log (line : String)
  /-- An error of the server. -/
  | error (message : String) (code : Option String) (source : Option String)
  /-- The server session became busy or idle. -/
  | sessionBusy (busy : Bool)
  /-- Any other message, known by its type alone. -/
  | other (messageType : String)

namespace WireMessage

/-! ## 1. The envelope -/

/-- The type that a payload declares. -/
def declaredType? (payload : Json) : Option String :=
  payload.stringMember? "type"

/-- The session that a payload says it belongs to. -/
def sessionId? (payload : Json) : Option String :=
  payload.stringMember? "sessionId"

/-- The type of a message. -/
def messageType : WireMessage → String
  | .modelStreamChunk _ => "model_stream_chunk"
  | .userMessage _ _ => "user_message"
  | .assistantMessage _ => "assistant_message"
  | .reasoning _ _ => "reasoning"
  | .todos _ => "todos"
  | .log _ => "log"
  | .error _ _ _ => "error"
  | .sessionBusy _ => "session_busy"
  | .other messageType => messageType

/-! ## 2. Decoding -/

/-- The fields of a known message, in order. -/
def fieldNames? : String → Option (List String)
  | "model_stream_chunk" => some RawChunk.fieldNames
  | "user_message" => some ["text", "clientMessageId"]
  | "assistant_message" => some ["text"]
  | "reasoning" => some ["kind", "text"]
  | "todos" => some ["items"]
  | "log" => some ["line"]
  | "error" => some ["message", "code", "source"]
  | "session_busy" => some ["busy"]
  | _ => none

/-- The message with a type, from its fields. -/
def ofFields? (type : String) (fields : Table String Json) : Option WireMessage :=
  match type with
  | "model_stream_chunk" => (RawChunk.ofFields? fields).map .modelStreamChunk
  | "user_message" =>
    return .userMessage (← fields.need? "text" Json.string?)
      (← fields.option? "clientMessageId" Json.string?)
  | "assistant_message" => return .assistantMessage (← fields.need? "text" Json.string?)
  | "reasoning" =>
    return .reasoning (← fields.option? "kind" Json.string?) (← fields.need? "text" Json.string?)
  | "todos" => return .todos (← fields.needOr? "items" [] Json.array?)
  | "log" => return .log (← fields.need? "line" Json.string?)
  | "error" =>
    return .error (← fields.need? "message" Json.string?)
      ((← fields.option? "code" Json.any?).map Json.plainText)
      (← fields.option? "source" Json.string?)
  | "session_busy" => return .sessionBusy (← fields.need? "busy" Json.bool?)
  | _ => none

/-- The type and the fields of a payload in either form. -/
def envelope? : Json → Option (String × Table String Json)
  | .object members => do
    let type ← (Table.get? members "type").bind Json.string?
    return (type, members)
  | .array (.string type :: items) => do
    let names ← fieldNames? type
    let fields ← (Json.array items).fields? names
    return (type, fields)
  | _ => none

/-- The known message that a payload is. -/
def known? (payload : Json) : Option WireMessage := do
  let (type, fields) ← envelope? payload
  ofFields? type fields

/-- The message that a payload carries. -/
def decode (payload : Json) : WireMessage :=
  (known? payload).getD (.other ((declaredType? payload).getD "unknown"))

/-! ## 3. Encoding -/

/-- The payload of a prompt that the client sends, to a session if it has one. -/
def userPayload (text clientMessageId : String) (sessionId : Option String) : Json :=
  Json.ofMembers
    ([("type", .string "user_message"), ("text", .string text),
      ("clientMessageId", .string clientMessageId)]
      ++ Json.optional "sessionId" (sessionId.map .string))

end WireMessage

end AgentFeed
