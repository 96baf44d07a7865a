import AgentFeed.Dispatcher

/-!
# What a message asks for

The dispatcher and the reducer tell three dozen kinds of message and update apart, and do eight
different things. `Action` names the eight, `Dispatcher.action` says which of them a message asks
for, and `Dispatcher.apply_eq` says that the dispatcher does just that. Everything about single
steps is proved by cases on an action from here on.

Which action a message asks for depends on the memory of the thread in three places only: a whole
assistant message and a whole block of reasoning may be echoes, and a prompt may have been seen.
None of the three looks at an id of an item.
-/

namespace AgentFeed

/-! ## 1. Actions -/

/-- What is said about one tool call. -/
inductive ToolChange where
  /-- The call is patched, and begins if it has not begun. -/
  | patch (patch : ToolPatch)
  /-- More of its input text. -/
  | input (delta : String)
  /-- Its input text is complete. -/
  | inputEnd (name : String)
  /-- It ends. -/
  | settle (name : String) (result : Json)

/-- What a message asks for. -/
inductive Action where
  /-- Nothing. -/
  | idle
  /-- Everything remembered is forgotten. -/
  | reset
  /-- An item that is not looked at again. -/
  | note (body : FeedBody)
  /-- More assistant text in a turn. -/
  | assistant (turnId delta : String)
  /-- More reasoning in a stream of a turn. -/
  | reasoning (turnId streamId : String) (mode : ReasoningMode) (delta : String)
  /-- A change of a tool call. -/
  | tool (key : String) (change : ToolChange)
  /-- A log line starts a call. -/
  | callStart (name : String) (payload : Option Json)
  /-- A log line ends a call. -/
  | callFinish (status : ToolStatus) (name : String) (payload : Option Json)

/-- What a change of a tool call does. -/
def ToolChange.step (freshId : String) (s : Accumulation) (key : String) : ToolChange → Step
  | .patch p => Reducer.patchTool s freshId key p
  | .input delta => Reducer.toolInput s freshId key delta
  | .inputEnd name => Reducer.toolInputEnd s freshId key name
  | .settle name result => Reducer.settleTool s freshId key name result

/-- What an action does. -/
def Action.step (freshId : String) (s : Accumulation) : Action → Step
  | .idle => { state := s }
  | .reset => { state := .empty }
  | .note body => { state := s, edit := some (.append body) }
  | .assistant turnId delta => Reducer.assistantDelta s freshId turnId delta
  | .reasoning turnId streamId mode delta =>
    Reducer.reasoningDelta s freshId turnId streamId mode delta
  | .tool key change => change.step freshId s key
  | .callStart name payload => WholeMessage.toolStart s freshId name payload
  | .callFinish status name payload => WholeMessage.toolFinish s status name payload

/-! ## 2. The action of an update -/

/-- The tool call that an update is about, and what it says about it. -/
def UpdateKind.toolChange? : UpdateKind → Option (String × ToolChange)
  | .toolInputStart key name args =>
    some (key, .patch
      { name := some name, status := some .running, args := args.elim .keep .merge })
  | .toolInputDelta key delta => some (key, .input delta)
  | .toolInputEnd key name => some (key, .inputEnd name)
  | .toolCall key name args =>
    some (key, .patch
      { name := some name, status := some .running, args := args.elim .keep .replace })
  | .toolResult key name result => some (key, .settle name result)
  | .toolError key name error => some (key, .settle name (.object [("error", error)]))
  | .toolOutputDenied key name reason =>
    some (key, .settle name
      (.object [("denied", .bool true), ("reason", (reason.map Json.string).getD .null)]))
  | _ => none

/-- The line that an update is shown as, if it is shown as one. -/
def UpdateKind.remark? (limit : Nat) : UpdateKind → Option String
  | .turnAbort none => some "Turn aborted"
  | .turnAbort (some reason) =>
    some (if reason = "" then "Turn aborted" else "Turn aborted: " ++ reason)
  | .turnError error => some ("Turn error: " ++ Reducer.describe error)
  | .toolApprovalRequest _ call =>
    some ("Tool approval requested: " ++ (call.stringMember? "toolName").getD Part.unnamedTool)
  | .source value => some ("Source: " ++ Reducer.label limit value ["url", "title", "id"])
  | .file value => some ("File: " ++ Reducer.label limit value ["name", "filename", "mediaType"])
  | .unknown partType payload =>
    some ("Unhandled stream part (" ++ partType ++ "): " ++ Reducer.preview limit payload)
  | _ => none

/-- The action that an update asks for. It depends on nothing that is remembered. -/
def UpdateKind.action (limit : Nat) (turnId : String) (kind : UpdateKind) : Action :=
  match kind with
  | .turnStart => .reset
  | .textDelta _ text => .assistant turnId text
  | .reasoningDelta streamId mode text => .reasoning turnId streamId mode text
  | other =>
    match other.toolChange? with
    | some (key, change) => .tool key change
    | none => (other.remark? limit).elim .idle fun line => .note (.system line)

theorem Reducer.reduceKind_eq (limit : Nat) (freshId : String) (s : Accumulation)
    (turnId : String) (kind : UpdateKind) :
    reduceKind limit freshId s turnId kind = (kind.action limit turnId).step freshId s := by
  cases kind with
  | turnAbort reason => cases reason <;> rfl
  | _ => rfl

/-! ## 3. The action of a message -/

/-- The action that a line of a log asks for. -/
def LogLine.action (line : String) : Action :=
  if isNoise line then .idle
  else
    match ToolLine.parse? line with
    | none => .note (.log line)
    | some call =>
      match call.mark with
      | .start => .callStart call.name call.payload
      | .finish => .callFinish (if call.isError then .error else .done) call.name call.payload

theorem WholeMessage.logLine_eq (s : Accumulation) (freshId line : String) :
    logLine s freshId line = (LogLine.action line).step freshId s := by
  rw [logLine, LogLine.action]
  split
  · rfl
  · cases ToolLine.parse? line with
    | none => rfl
    | some call =>
      obtain ⟨mark, name, payload⟩ := call
      cases mark <;> rfl

/-- The action that a piece of model output asks for. -/
def RawChunk.action (limit : Nat) (c : RawChunk) : Action :=
  match c.normalize with
  | none => .idle
  | some u =>
    match u.kind with
    | .raw value => (Dispatcher.rawLine? value).elim .idle LogLine.action
    | kind => kind.action limit u.turnId

theorem Dispatcher.chunk_eq (limit : Nat) (freshId : String) (s : Accumulation) (c : RawChunk) :
    chunk limit freshId s c = (c.action limit).step freshId s := by
  rw [chunk, RawChunk.action]
  cases c.normalize with
  | none => rfl
  | some u =>
    obtain ⟨turnId, kind⟩ := u
    cases kind with
    | raw value =>
      dsimp only
      cases rawLine? value with
      | none => rfl
      | some line => exact WholeMessage.logLine_eq s freshId line
    | _ => exact Reducer.reduceKind_eq limit freshId s turnId _

namespace Dispatcher

/-- Whether a prompt was seen before. -/
def hasSeen (d : Dispatcher) (id : Option String) : Bool :=
  id.any d.seen.contains

/-- The action that a message asks for. -/
def action (d : Dispatcher) (s : Accumulation) : WireMessage → Action
  | .modelStreamChunk c => c.action d.previewLimit
  | .userMessage text id => if d.hasSeen id then .idle else .note (.message .user text)
  | .assistantMessage text =>
    if s.lastAssistantText?.any (WholeMessage.sameText · text) then .idle
    else .note (.message .assistant text)
  | .reasoning kind text =>
    if s.lastReasoningStreamed then .idle
    else .note (.reasoning (ReasoningMode.ofLabel kind) text)
  | .todos items => .note (.todos items)
  | .log line => LogLine.action line
  | .error message code source => .note (.error message code source)
  | .sessionBusy busy => if busy then .idle else .reset
  | .other messageType => .note (.system ("[" ++ messageType ++ "]"))

/-- The dispatcher after a message: only prompts leave something behind. -/
def after (d : Dispatcher) : WireMessage → Dispatcher
  | .userMessage _ (some id) =>
    if d.seen.contains id then d else { d with seen := d.seen.insert id }
  | _ => d

/-- **One step of the dispatcher.** A message does what its action does, and is remembered if it is
a prompt. -/
theorem apply_eq (d : Dispatcher) (freshId : String) (s : Accumulation) (m : WireMessage) :
    d.apply freshId s m = (d.after m, (d.action s m).step freshId s) := by
  cases m with
  | modelStreamChunk c => exact congrArg (d, ·) (chunk_eq d.previewLimit freshId s c)
  | userMessage text id =>
    cases id with
    | none => rfl
    | some id =>
      simp only [apply, userMessage, action, after]
      by_cases h : d.seen.contains id = true
      · rw [if_pos h, if_pos h, if_pos (show d.hasSeen (some id) = true from h)]
        rfl
      · rw [if_neg h, if_neg h, if_neg (show ¬d.hasSeen (some id) = true from h)]
        rfl
  | assistantMessage text =>
    simp only [apply, WholeMessage.assistant, action, after]
    split <;> rfl
  | reasoning kind text =>
    simp only [apply, WholeMessage.reasoning, action, after]
    split <;> rfl
  | log line => exact congrArg (d, ·) (WholeMessage.logLine_eq s freshId line)
  | sessionBusy busy => cases busy <;> rfl
  | todos items => rfl
  | error message code source => rfl
  | other messageType => rfl

end Dispatcher

end AgentFeed
