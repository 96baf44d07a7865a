import AgentFeed.Json.Record

/-!
# Stream updates

What a chunk means: the closed set of things that can happen in a stream of model output, each in
some turn. An update is written as one flat record: the turn, the tag `type`, and the fields of its
kind.
-/

namespace AgentFeed

/-! ## 1. Types -/

/-- The flavour of a block of reasoning. -/
inductive ReasoningMode where
  | reasoning
  | summary
deriving DecidableEq, Repr

namespace ReasoningMode

/-- The mode that a label asks for: a summary only by its exact name. -/
def ofLabel (label : Option String) : ReasoningMode :=
  if label = some "summary" then .summary else .reasoning

/-- The name of a mode. -/
def name : ReasoningMode → String
  | .reasoning => "reasoning"
  | .summary => "summary"

/-- The mode with a name. -/
def ofName? (name : String) : Option ReasoningMode :=
  if name = "reasoning" then some .reasoning
  else if name = "summary" then some .summary
  else none

end ReasoningMode

/-- What an update says. -/
inductive UpdateKind where
  /-- A turn begins. -/
  | turnStart
  /-- A turn ends. -/
  | turnFinish (reason : Option String) (usage : Option Json)
  /-- A turn was given up. -/
  | turnAbort (reason : Option String)
  /-- A turn failed. -/
  | turnError (error : Json)
  /-- A step of the provider begins. -/
  | stepStart (part : Json)
  /-- A step of the provider ends. -/
  | stepFinish (part : Json)
  /-- Assistant text begins. -/
  | textStart (streamId : String)
  /-- More assistant text. -/
  | textDelta (streamId text : String)
  /-- Assistant text ends. -/
  | textEnd (streamId : String)
  /-- Reasoning begins. -/
  | reasoningStart (streamId : String) (mode : ReasoningMode)
  /-- More reasoning. -/
  | reasoningDelta (streamId : String) (mode : ReasoningMode) (text : String)
  /-- Reasoning ends. -/
  | reasoningEnd (streamId : String) (mode : ReasoningMode)
  /-- The input of a tool call begins to arrive. -/
  | toolInputStart (key name : String) (args : Option Json)
  /-- More input text of a tool call. -/
  | toolInputDelta (key delta : String)
  /-- The input of a tool call is complete. -/
  | toolInputEnd (key name : String)
  /-- A tool is called. -/
  | toolCall (key name : String) (args : Option Json)
  /-- A tool call gave a result. -/
  | toolResult (key name : String) (result : Json)
  /-- A tool call failed. -/
  | toolError (key name : String) (error : Json)
  /-- The output of a tool call was withheld. -/
  | toolOutputDenied (key name : String) (reason : Option String)
  /-- Leave is asked for a tool call. -/
  | toolApprovalRequest (approvalId : String) (call : Json)
  /-- A source is cited. -/
  | source (source : Json)
  /-- A file is delivered. -/
  | file (file : Json)
  /-- A value passed through from the provider. -/
  | raw (raw : Json)
  /-- A chunk that is none of the above. -/
  | unknown (partType : String) (payload : Json)

/-- An update and the turn it belongs to. -/
structure StreamUpdate where
  /-- The turn. -/
  turnId : String
  /-- What the update says. -/
  kind : UpdateKind

/-! ## 2. Writing -/

namespace UpdateKind

/-- The tags of the kinds, in order. -/
def tags : List String :=
  ["turn_start", "turn_finish", "turn_abort", "turn_error", "step_start", "step_finish",
    "assistant_text_start", "assistant_delta", "assistant_text_end", "reasoning_start",
    "reasoning_delta", "reasoning_end", "tool_input_start", "tool_input_delta", "tool_input_end",
    "tool_call", "tool_result", "tool_error", "tool_output_denied", "tool_approval_request",
    "source", "file", "raw", "unknown"]

/-- The tag of a kind. -/
def tag : UpdateKind → String
  | .turnStart => "turn_start"
  | .turnFinish _ _ => "turn_finish"
  | .turnAbort _ => "turn_abort"
  | .turnError _ => "turn_error"
  | .stepStart _ => "step_start"
  | .stepFinish _ => "step_finish"
  | .textStart _ => "assistant_text_start"
  | .textDelta _ _ => "assistant_delta"
  | .textEnd _ => "assistant_text_end"
  | .reasoningStart _ _ => "reasoning_start"
  | .reasoningDelta _ _ _ => "reasoning_delta"
  | .reasoningEnd _ _ => "reasoning_end"
  | .toolInputStart _ _ _ => "tool_input_start"
  | .toolInputDelta _ _ => "tool_input_delta"
  | .toolInputEnd _ _ => "tool_input_end"
  | .toolCall _ _ _ => "tool_call"
  | .toolResult _ _ _ => "tool_result"
  | .toolError _ _ _ => "tool_error"
  | .toolOutputDenied _ _ _ => "tool_output_denied"
  | .toolApprovalRequest _ _ => "tool_approval_request"
  | .source _ => "source"
  | .file _ => "file"
  | .raw _ => "raw"
  | .unknown _ _ => "unknown"

/-- The fields of a kind, in order; an option that is absent is left out. -/
def fields : UpdateKind → List (String × Json)
  | .turnStart => []
  | .turnFinish reason usage =>
    Json.optional "finish_reason" (reason.map .string) ++ Json.optional "usage" usage
  | .turnAbort reason => Json.optional "reason" (reason.map .string)
  | .turnError error => [("error", error)]
  | .stepStart part => [("part", part)]
  | .stepFinish part => [("part", part)]
  | .textStart streamId => [("stream_id", .string streamId)]
  | .textDelta streamId text => [("stream_id", .string streamId), ("text", .string text)]
  | .textEnd streamId => [("stream_id", .string streamId)]
  | .reasoningStart streamId mode => [("stream_id", .string streamId), ("mode", .string mode.name)]
  | .reasoningDelta streamId mode text =>
    [("stream_id", .string streamId), ("mode", .string mode.name), ("text", .string text)]
  | .reasoningEnd streamId mode => [("stream_id", .string streamId), ("mode", .string mode.name)]
  | .toolInputStart key name args =>
    [("key", .string key), ("name", .string name)] ++ Json.optional "args" args
  | .toolInputDelta key delta => [("key", .string key), ("delta", .string delta)]
  | .toolInputEnd key name => [("key", .string key), ("name", .string name)]
  | .toolCall key name args =>
    [("key", .string key), ("name", .string name)] ++ Json.optional "args" args
  | .toolResult key name result =>
    [("key", .string key), ("name", .string name), ("result", result)]
  | .toolError key name error => [("key", .string key), ("name", .string name), ("error", error)]
  | .toolOutputDenied key name reason =>
    [("key", .string key), ("name", .string name)] ++ Json.optional "reason" (reason.map .string)
  | .toolApprovalRequest approvalId call =>
    [("approval_id", .string approvalId), ("tool_call", call)]
  | .source value => [("source", value)]
  | .file value => [("file", value)]
  | .raw value => [("raw", value)]
  | .unknown partType payload => [("part_type", .string partType), ("payload", payload)]

end UpdateKind

/-- The update as one flat record. -/
def StreamUpdate.toJson (u : StreamUpdate) : Json :=
  .object (("turn_id", .string u.turnId) :: ("type", .string u.kind.tag) :: u.kind.fields)

/-! ## 3. Reading -/

/-- The mode that a field names. -/
def ReasoningMode.ofJson? (value : Json) : Option ReasoningMode :=
  (Json.constantName? true value).bind ReasoningMode.ofName?

namespace UpdateKind

/-- The kind with a tag, from the fields of a record. -/
def ofFields? (tag : String) (fields : Table String Json) : Option UpdateKind :=
  let text (name : String) := fields.need? name Json.string?
  let value (name : String) := fields.need? name Json.any?
  let textOption (name : String) := fields.option? name Json.string?
  let valueOption (name : String) := fields.option? name Json.any?
  let mode := fields.need? "mode" ReasoningMode.ofJson?
  match tag with
  | "turn_start" => some .turnStart
  | "turn_finish" => return .turnFinish (← textOption "finish_reason") (← valueOption "usage")
  | "turn_abort" => return .turnAbort (← textOption "reason")
  | "turn_error" => return .turnError (← value "error")
  | "step_start" => return .stepStart (← value "part")
  | "step_finish" => return .stepFinish (← value "part")
  | "assistant_text_start" => return .textStart (← text "stream_id")
  | "assistant_delta" => return .textDelta (← text "stream_id") (← text "text")
  | "assistant_text_end" => return .textEnd (← text "stream_id")
  | "reasoning_start" => return .reasoningStart (← text "stream_id") (← mode)
  | "reasoning_delta" => return .reasoningDelta (← text "stream_id") (← mode) (← text "text")
  | "reasoning_end" => return .reasoningEnd (← text "stream_id") (← mode)
  | "tool_input_start" =>
    return .toolInputStart (← text "key") (← text "name") (← valueOption "args")
  | "tool_input_delta" => return .toolInputDelta (← text "key") (← text "delta")
  | "tool_input_end" => return .toolInputEnd (← text "key") (← text "name")
  | "tool_call" => return .toolCall (← text "key") (← text "name") (← valueOption "args")
  | "tool_result" => return .toolResult (← text "key") (← text "name") (← value "result")
  | "tool_error" => return .toolError (← text "key") (← text "name") (← value "error")
  | "tool_output_denied" =>
    return .toolOutputDenied (← text "key") (← text "name") (← textOption "reason")
  | "tool_approval_request" =>
    return .toolApprovalRequest (← text "approval_id") (← value "tool_call")
  | "source" => return .source (← value "source")
  | "file" => return .file (← value "file")
  | "raw" => return .raw (← value "raw")
  | "unknown" => return .unknown (← text "part_type") (← value "payload")
  | _ => none

end UpdateKind

/-- An update from a flat record. -/
def StreamUpdate.ofJson? : Json → Option StreamUpdate
  | .object fields => do
    let turnId ← Table.need? fields "turn_id" Json.string?
    let tag ← Table.need? fields "type" (Json.tagName? UpdateKind.tags)
    return { turnId, kind := ← UpdateKind.ofFields? tag fields }
  | _ => none

end AgentFeed
