import AgentFeed.Reducer
import AgentFeed.Tool.Line
import AgentFeed.Wire.Message

/-!
# The dispatcher

The one place where a message becomes an edit of a feed, for live traffic and replay alike. Chunks
go through the reducer. Messages that arrive whole are shown unless they repeat what was streamed:

* a whole assistant message is dropped when it says what was streamed in the turn that assistant
  text came for last, blanks at the ends aside;
* whole reasoning is dropped when reasoning was streamed in the turn it came for last;
* log lines that report tool calls become tool items, an end being paired with the oldest start of
  its tool that has not ended; noise is dropped, and every other line is shown;
* a prompt with a client message id is shown once.

A server that goes idle ends the turn, so everything remembered is forgotten.
-/

namespace AgentFeed

/-! ## 1. Whole messages -/

namespace WholeMessage

/-- Whether two texts are the same, blanks at the ends aside. -/
def sameText (a b : String) : Bool :=
  Text.trim a == Text.trim b

/-- A whole assistant message. -/
def assistant (s : Accumulation) (text : String) : Step :=
  if s.lastAssistantText?.any (sameText · text) then { state := s }
  else { state := s, edit := some (.append (.message .assistant text)) }

/-- A whole block of reasoning. -/
def reasoning (s : Accumulation) (kind : Option String) (text : String) : Step :=
  if s.lastReasoningStreamed then { state := s }
  else { state := s, edit := some (.append (.reasoning (ReasoningMode.ofLabel kind) text)) }

/-- The start of a tool call, from a log line. -/
def toolStart (s : Accumulation) (freshId name : String) (payload : Option Json) : Step :=
  { state := s.openCall name freshId
    edit := some (.append (.tool .running name payload none)) }

/-- The end of a tool call, from a log line. -/
def toolFinish (s : Accumulation) (status : ToolStatus) (name : String) (payload : Option Json) :
    Step :=
  match s.oldestCall? name with
  | some id => { state := s.closeOldestCall name, edit := some (.amend id (.finish status payload)) }
  | none =>
    { state := s.closeOldestCall name, edit := some (.append (.tool status name none payload)) }

/-- A line of a log. -/
def logLine (s : Accumulation) (freshId line : String) : Step :=
  if LogLine.isNoise line then { state := s }
  else
    match ToolLine.parse? line with
    | none => { state := s, edit := some (.append (.log line)) }
    | some call =>
      match call.mark with
      | .start => toolStart s freshId call.name call.payload
      | .finish => toolFinish s (if call.isError then .error else .done) call.name call.payload

end WholeMessage

/-! ## 2. The dispatcher -/

/-- What decides how messages of one thread are shown. -/
structure Dispatcher where
  /-- The length of previews. -/
  previewLimit : Nat := 200
  /-- The client message ids of the prompts seen so far. -/
  seen : List String := []

namespace Dispatcher

/-- The log line that a value passed through from the provider carries. -/
def rawLine? : Json → Option String
  | .string line => some line
  | other => other.stringMember? "line"

/-- A piece of model output. -/
def chunk (limit : Nat) (freshId : String) (s : Accumulation) (c : RawChunk) : Step :=
  match c.normalize with
  | none => { state := s }
  | some u =>
    match u.kind with
    -- Such a value is only shown when it carries a line of a log.
    | .raw value =>
      match rawLine? value with
      | some line => WholeMessage.logLine s freshId line
      | none => Reducer.reduce limit freshId s u
    | _ => Reducer.reduce limit freshId s u

/-- A prompt of the user. -/
def userMessage (d : Dispatcher) (s : Accumulation) (text : String) (id : Option String) :
    Dispatcher × Step :=
  let shown : Step := { state := s, edit := some (.append (.message .user text)) }
  match id with
  | none => (d, shown)
  | some id =>
    if d.seen.contains id then (d, { state := s })
    else ({ d with seen := d.seen.insert id }, shown)

/-- One message: the dispatcher afterwards, and what the message does. -/
def apply (d : Dispatcher) (freshId : String) (s : Accumulation) : WireMessage → Dispatcher × Step
  | .modelStreamChunk c => (d, chunk d.previewLimit freshId s c)
  | .userMessage text id => userMessage d s text id
  | .assistantMessage text => (d, WholeMessage.assistant s text)
  | .reasoning kind text => (d, WholeMessage.reasoning s kind text)
  | .todos items => (d, { state := s, edit := some (.append (.todos items)) })
  | .log line => (d, WholeMessage.logLine s freshId line)
  | .error message code source =>
    (d, { state := s, edit := some (.append (.error message code source)) })
  | .sessionBusy busy => (d, { state := if busy then s else .empty })
  | .other messageType =>
    (d, { state := s, edit := some (.append (.system ("[" ++ messageType ++ "]"))) })

end Dispatcher

end AgentFeed
