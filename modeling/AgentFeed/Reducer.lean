import AgentFeed.Accumulation
import AgentFeed.Feed.Edit

/-!
# The reducer

One update at a time is folded into the accumulation state, and each asks at most one edit of the
feed:

* the start of a turn forgets everything and shows nothing;
* a delta appends to the text of its turn (assistant) or of its stream (reasoning), and gives that
  text to its item, which the first delta creates;
* an update of a tool call creates the item of its key or patches it, and the first update that ends
  a call announces it;
* the remaining kinds show one remark or nothing.

A new item takes the id that the caller offers. The reducer does not touch a feed, so the live feed
and the replay share it.
-/

namespace AgentFeed

/-- The announcement that a tool call has ended. -/
structure ToolSettled where
  /-- The key of the call. -/
  key : String
  /-- The name of the tool, as last reported. -/
  name : String
  /-- The item that shows the call. -/
  itemId : String
  /-- The status that the item got. -/
  status : ToolStatus
deriving DecidableEq

/-- What one message does. -/
structure Step where
  /-- The accumulation state afterwards. -/
  state : Accumulation
  /-- What it asks of the feed. -/
  edit : Option FeedEdit := none
  /-- The call that it ends. -/
  settled : Option ToolSettled := none

namespace Reducer

/-! ## 1. Texts for people -/

/-- The first `limit` characters of a text, with an ellipsis when some are left out. -/
def shorten (limit : Nat) (text : String) : String :=
  if text.toList.length ≤ limit then text else String.ofList (text.toList.take limit ++ ['…'])

/-- A short form of a value. -/
def preview (limit : Nat) (value : Json) : String :=
  shorten limit value.plainText

/-- What an error value says: its message if it has one. -/
def describe (error : Json) : String :=
  (error.stringMember? "message").getD error.plainText

/-- A remark of the feed. -/
def remark (line : String) : Option FeedEdit :=
  some (.append (.system line))

/-- How a value is called: the first of some fields that holds a text, else a short form of the
value. -/
def label (limit : Nat) (value : Json) (names : List String) : String :=
  (Part.text? value names).getD (preview limit value)

/-! ## 2. Streamed text -/

/-- More assistant text in a turn. -/
def assistantDelta (s : Accumulation) (freshId turnId delta : String) : Step :=
  let full := (s.assistantTexts.get? turnId).getD "" ++ delta
  let state :=
    { s with
      assistantTexts := s.assistantTexts.insert turnId full
      lastAssistantTurn := some turnId }
  match s.assistantItems.get? turnId with
  | some id => { state, edit := some (.amend id (.text full)) }
  | none =>
    { state := { state with assistantItems := s.assistantItems.insert turnId freshId }
      edit := some (.append (.message .assistant delta)) }

/-- More reasoning in a stream of a turn. -/
def reasoningDelta (s : Accumulation) (freshId turnId streamId : String) (mode : ReasoningMode)
    (delta : String) : Step :=
  let key := Accumulation.reasoningKey turnId streamId
  let full := (s.reasoningTexts.get? key).getD "" ++ delta
  let state :=
    { s with
      reasoningTexts := s.reasoningTexts.insert key full
      reasoningTurns := s.reasoningTurns.insert turnId
      lastReasoningTurn := some turnId }
  match s.reasoningItems.get? key with
  | some id => { state, edit := some (.amend id (.text full)) }
  | none =>
    { state := { state with reasoningItems := s.reasoningItems.insert key freshId }
      edit := some (.append (.reasoning mode delta)) }

/-! ## 3. Tool calls -/

/-- The item of a tool call, which is a new one when the call has none yet. -/
def toolItem (s : Accumulation) (freshId key : String) : String :=
  (s.toolItems.get? key).getD freshId

/-- A patch of the tool call with a key, or its beginning. -/
def patchTool (s : Accumulation) (freshId key : String) (patch : ToolPatch) : Step :=
  match s.toolItems.get? key with
  | some id => { state := s, edit := some (.amend id (.patch patch)) }
  | none =>
    { state := { s with toolItems := s.toolItems.insert key freshId }
      edit := some (.append patch.newBody) }

/-- More input text of a tool call. -/
def toolInput (s : Accumulation) (freshId key delta : String) : Step :=
  let full := (s.toolInputs.get? key).getD "" ++ delta
  patchTool { s with toolInputs := s.toolInputs.insert key full } freshId key
    { args := .restructure full }

/-- The input of a tool call is complete; news only for a call that is known. -/
def toolInputEnd (s : Accumulation) (freshId key name : String) : Step :=
  match s.toolInputs.get? key with
  | some full => patchTool s freshId key { name := some name, args := .restructure full }
  | none =>
    if s.toolItems.contains key then patchTool s freshId key { name := some name }
    else { state := s }

/-- A tool call ends with a result. Only its first end is announced. -/
def settleTool (s : Accumulation) (freshId key name : String) (result : Json) : Step :=
  let step :=
    patchTool s freshId key { name := some name, status := some .done, result := some result }
  if s.settledTools.contains key then step
  else
    { step with
      state := { step.state with settledTools := step.state.settledTools.insert key }
      settled := some { key, name, itemId := toolItem s freshId key, status := .done } }

/-! ## 4. One update -/

/-- One update of a turn. `limit` is the length of previews, and `freshId` the id of a new item. -/
def reduceKind (limit : Nat) (freshId : String) (s : Accumulation) (turnId : String) :
    UpdateKind → Step
  | .turnStart => { state := .empty }
  | .turnFinish _ _ => { state := s }
  | .turnAbort reason =>
    let line :=
      match reason with
      | none => "Turn aborted"
      | some reason => if reason = "" then "Turn aborted" else "Turn aborted: " ++ reason
    { state := s, edit := remark line }
  | .turnError error => { state := s, edit := remark ("Turn error: " ++ describe error) }
  | .stepStart _ => { state := s }
  | .stepFinish _ => { state := s }
  | .textStart _ => { state := s }
  | .textDelta _ text => assistantDelta s freshId turnId text
  | .textEnd _ => { state := s }
  | .reasoningStart _ _ => { state := s }
  | .reasoningDelta streamId mode text => reasoningDelta s freshId turnId streamId mode text
  | .reasoningEnd _ _ => { state := s }
  | .toolInputStart key name args =>
    patchTool s freshId key
      { name := some name, status := some .running, args := args.elim .keep .merge }
  | .toolInputDelta key delta => toolInput s freshId key delta
  | .toolInputEnd key name => toolInputEnd s freshId key name
  | .toolCall key name args =>
    patchTool s freshId key
      { name := some name, status := some .running, args := args.elim .keep .replace }
  | .toolResult key name result => settleTool s freshId key name result
  | .toolError key name error => settleTool s freshId key name (.object [("error", error)])
  | .toolOutputDenied key name reason =>
    -- A call that was denied has ended too, so its status is the same.
    settleTool s freshId key name
      (.object [("denied", .bool true), ("reason", (reason.map Json.string).getD .null)])
  | .toolApprovalRequest _ call =>
    { state := s
      edit := remark ("Tool approval requested: " ++
        (call.stringMember? "toolName").getD Part.unnamedTool) }
  | .source value =>
    { state := s, edit := remark ("Source: " ++ label limit value ["url", "title", "id"]) }
  | .file value =>
    { state := s, edit := remark ("File: " ++ label limit value ["name", "filename", "mediaType"]) }
  | .raw _ => { state := s }
  | .unknown partType payload =>
    { state := s
      edit := remark ("Unhandled stream part (" ++ partType ++ "): " ++ preview limit payload) }

/-- One update. -/
def reduce (limit : Nat) (freshId : String) (s : Accumulation) (u : StreamUpdate) : Step :=
  reduceKind limit freshId s u.turnId u.kind

end Reducer

end AgentFeed
