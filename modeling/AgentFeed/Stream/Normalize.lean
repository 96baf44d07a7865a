import AgentFeed.Json.Printer
import AgentFeed.Stream.Chunk
import AgentFeed.Stream.Update
import AgentFeed.Text.Blank

/-!
# From chunks to updates

`RawChunk.normalize` reads the meaning of a chunk from its untyped part. Blanks around the type name
do not count, and an underscore in it is as good as a hyphen.

A known type whose part has the fields that the type requires becomes the update of that type. A
known type that requires a field and comes with no part at all says nothing. Everything else, that
is an unknown type or a part without the required field, becomes an `unknown` update that carries
type name and part unchanged, so no content is lost.
-/

namespace AgentFeed

/-! ## 1. Part types -/

/-- The known types of chunk. -/
inductive PartType where
  | start
  | finish
  | abort
  | error
  | startStep
  | finishStep
  | textStart
  | textDelta
  | textEnd
  | reasoningStart
  | reasoningDelta
  | reasoningEnd
  | toolInputStart
  | toolInputDelta
  | toolInputEnd
  | toolCall
  | toolResult
  | toolError
  | toolOutputDenied
  | toolApprovalRequest
  | source
  | file
  | raw
deriving DecidableEq, Repr

namespace PartType

/-- The name of a type. -/
def name : PartType → String
  | .start => "start"
  | .finish => "finish"
  | .abort => "abort"
  | .error => "error"
  | .startStep => "start-step"
  | .finishStep => "finish-step"
  | .textStart => "text-start"
  | .textDelta => "text-delta"
  | .textEnd => "text-end"
  | .reasoningStart => "reasoning-start"
  | .reasoningDelta => "reasoning-delta"
  | .reasoningEnd => "reasoning-end"
  | .toolInputStart => "tool-input-start"
  | .toolInputDelta => "tool-input-delta"
  | .toolInputEnd => "tool-input-end"
  | .toolCall => "tool-call"
  | .toolResult => "tool-result"
  | .toolError => "tool-error"
  | .toolOutputDenied => "tool-output-denied"
  | .toolApprovalRequest => "tool-approval-request"
  | .source => "source"
  | .file => "file"
  | .raw => "raw"

/-- All known types. -/
def all : List PartType :=
  [.start, .finish, .abort, .error, .startStep, .finishStep, .textStart, .textDelta, .textEnd,
    .reasoningStart, .reasoningDelta, .reasoningEnd, .toolInputStart, .toolInputDelta,
    .toolInputEnd, .toolCall, .toolResult, .toolError, .toolOutputDenied, .toolApprovalRequest,
    .source, .file, .raw]

/-- The known type with a name. -/
def ofName? (name : String) : Option PartType :=
  all.find? fun t => t.name == name

/-- A type name without blanks around it and with hyphens for underscores. -/
def canonicalName (name : String) : String :=
  String.ofList ((Text.trimChars name.toList).map fun c => if c = '_' then '-' else c)

end PartType

/-! ## 2. Fields of a part -/

namespace Part

/-- The first of some fields that holds a string. -/
def text? (part : Json) (names : List String) : Option String :=
  names.findSome? part.stringMember?

/-- The first of some fields that is there, whatever it holds. -/
def present? (part : Json) (names : List String) : Option Json :=
  names.findSome? part.member?

/-- The first of some fields that holds something other than `null`. -/
def value? (part : Json) (names : List String) : Option Json :=
  names.findSome? fun name => (part.member? name).filter fun v => !v.isNull

/-- What a field value says when it is used as an identifier: a text that is not empty, or the
digits of a number. -/
def identifierText? : Json → Option String
  | .string s => if s = "" then none else some s
  | .number n => some (String.ofList n.chars)
  | _ => none

/-- The first of some fields that can serve as an identifier. -/
def identifier? (part : Json) (names : List String) : Option String :=
  names.findSome? fun name => (part.member? name).bind identifierText?

/-- The stream that a text or reasoning part belongs to; `0` when it names none. -/
def streamId (part : Json) : String :=
  (identifier? part ["id"]).getD "0"

/-- The flavour of a reasoning part. -/
def reasoningMode (part : Json) : ReasoningMode :=
  ReasoningMode.ofLabel (text? part ["mode", "kind"])

/-- The name of a tool that is not named. -/
def unnamedTool : String := "tool"

/-- The name of the tool that a part is about. -/
def toolName (part : Json) : String :=
  (text? part ["toolName"]).getD unnamedTool

end Part

/-! ## 3. The meaning of a chunk -/

namespace RawChunk

/-- What ties the updates of one tool call together: the identifier of the call, else the name of
the tool, else the place of the chunk. -/
def toolKey (c : RawChunk) : String :=
  (Part.identifier? c.part ["toolCallId", "id", "toolName"]).getD
    (c.turnId ++ ":" ++ toString c.index)

/-- What a chunk says if it has a given type; nothing when the part lacks a required field. -/
def kindAs? (c : RawChunk) : PartType → Option UpdateKind
  | .start => some .turnStart
  | .finish =>
    some (.turnFinish (Part.text? c.part ["finishReason"])
      (Part.value? c.part ["totalUsage", "usage"]))
  | .abort => some (.turnAbort (Part.text? c.part ["reason"]))
  | .error => (Part.present? c.part ["error"]).map .turnError
  | .startStep => some (.stepStart c.part)
  | .finishStep => some (.stepFinish c.part)
  | .textStart => some (.textStart (Part.streamId c.part))
  | .textDelta =>
    (Part.text? c.part ["text", "delta", "textDelta"]).map (.textDelta (Part.streamId c.part))
  | .textEnd => some (.textEnd (Part.streamId c.part))
  | .reasoningStart =>
    some (.reasoningStart (Part.streamId c.part) (Part.reasoningMode c.part))
  | .reasoningDelta =>
    (Part.text? c.part ["text", "delta"]).map
      (.reasoningDelta (Part.streamId c.part) (Part.reasoningMode c.part))
  | .reasoningEnd => some (.reasoningEnd (Part.streamId c.part) (Part.reasoningMode c.part))
  | .toolInputStart =>
    some (.toolInputStart c.toolKey (Part.toolName c.part) (Part.value? c.part ["input", "args"]))
  | .toolInputDelta =>
    (Part.text? c.part ["delta", "inputTextDelta"]).map (.toolInputDelta c.toolKey)
  | .toolInputEnd => some (.toolInputEnd c.toolKey (Part.toolName c.part))
  | .toolCall =>
    some (.toolCall c.toolKey (Part.toolName c.part) (Part.value? c.part ["input", "args"]))
  | .toolResult =>
    (Part.present? c.part ["output", "result"]).map (.toolResult c.toolKey (Part.toolName c.part))
  | .toolError => (Part.present? c.part ["error"]).map (.toolError c.toolKey (Part.toolName c.part))
  | .toolOutputDenied =>
    some (.toolOutputDenied c.toolKey (Part.toolName c.part) (Part.text? c.part ["reason"]))
  | .toolApprovalRequest =>
    (Part.present? c.part ["toolCall"]).map
      (.toolApprovalRequest ((Part.text? c.part ["approvalId"]).getD ""))
  | .source => if c.part.isNull then none else some (.source c.part)
  | .file => (Part.present? c.part ["file"]).map .file
  | .raw => (Part.present? c.part ["rawValue", "raw"]).map .raw

/-- The type of a chunk, when it is known. -/
def knownType? (c : RawChunk) : Option PartType :=
  PartType.ofName? (PartType.canonicalName c.partType)

/-- The update that a chunk stands for; nothing when it lacks its part altogether. -/
def normalize (c : RawChunk) : Option StreamUpdate :=
  match c.knownType? with
  | none => some ⟨c.turnId, .unknown c.partType c.part⟩
  | some t =>
    match c.kindAs? t with
    | some kind => some ⟨c.turnId, kind⟩
    | none => if c.part.isNull then none else some ⟨c.turnId, .unknown c.partType c.part⟩

end RawChunk

end AgentFeed
