import AgentFeed.Table

/-!
# Accumulation state

What has to be remembered of a thread between two messages, so that the later one finds the item
of the earlier one: the items and the texts of the streams that are under way, the items and raw
input of the tool calls, and the calls from log lines that have not ended. All of it is forgotten at
the start of a turn, when the server goes idle, and when a session is attached.
-/

namespace AgentFeed

/-- What is remembered of a thread between two messages. -/
structure Accumulation where
  /-- The item of the assistant text of each turn. -/
  assistantItems : Table String String := []
  /-- The assistant text of each turn so far. -/
  assistantTexts : Table String String := []
  /-- The item of each stream of reasoning. -/
  reasoningItems : Table String String := []
  /-- The text of each stream of reasoning so far. -/
  reasoningTexts : Table String String := []
  /-- The turns in which reasoning was streamed. -/
  reasoningTurns : List String := []
  /-- The item of each tool call. -/
  toolItems : Table String String := []
  /-- The raw input text of each tool call so far. -/
  toolInputs : Table String String := []
  /-- The tool calls whose end was announced. -/
  settledTools : List String := []
  /-- For each tool name, the items of calls from log lines that have not ended, oldest first. -/
  openCalls : Table String (List String) := []
  /-- The turn that assistant text came for last. -/
  lastAssistantTurn : Option String := none
  /-- The turn that reasoning came for last. -/
  lastReasoningTurn : Option String := none

namespace Accumulation

/-- Nothing is remembered. -/
def empty : Accumulation := {}

/-- Whether nothing is remembered. -/
def isEmpty (s : Accumulation) : Bool :=
  s.assistantItems.isEmpty && s.assistantTexts.isEmpty && s.reasoningItems.isEmpty
    && s.reasoningTexts.isEmpty && s.reasoningTurns.isEmpty && s.toolItems.isEmpty
    && s.toolInputs.isEmpty && s.settledTools.isEmpty && s.openCalls.isEmpty
    && s.lastAssistantTurn.isNone && s.lastReasoningTurn.isNone

/-- The text streamed so far in the turn that assistant text came for last. -/
def lastAssistantText? (s : Accumulation) : Option String :=
  s.lastAssistantTurn.bind s.assistantTexts.get?

/-- Whether reasoning was streamed in the turn that reasoning came for last. -/
def lastReasoningStreamed (s : Accumulation) : Bool :=
  match s.lastReasoningTurn with
  | none => false
  | some turn => s.reasoningTurns.contains turn

/-- The key of a stream of reasoning. -/
def reasoningKey (turnId streamId : String) : String :=
  turnId ++ ":" ++ streamId

/-! ## Calls from log lines -/

/-- A call from a log line has started. -/
def openCall (s : Accumulation) (name id : String) : Accumulation :=
  { s with openCalls := s.openCalls.insert name ((s.openCalls.get? name).getD [] ++ [id]) }

/-- The oldest call with a name that has not ended. -/
def oldestCall? (s : Accumulation) (name : String) : Option String :=
  (s.openCalls.get? name).bind List.head?

/-- The oldest call with a name has ended. -/
def closeOldestCall (s : Accumulation) (name : String) : Accumulation :=
  match (s.openCalls.get? name).getD [] with
  | _ :: id :: later => { s with openCalls := s.openCalls.insert name (id :: later) }
  | _ => { s with openCalls := s.openCalls.erase name }

end Accumulation

end AgentFeed
