import AgentFeed.Proofs.Action
import AgentFeed.Replay
import Mathlib.Data.List.DropRight

/-!
# Stretches between resets

The start of a turn and an idle server make a thread forget what it remembers. Between two such
messages lies a *stretch*, and most of what holds of a conversation holds stretch by stretch.
`Traffic.stretch` is the part of the traffic after its last reset, `Traffic.upToReset` the part that
ends with it.

Whether a message resets, which stream of reasoning it continues and which tool call it is about can
be read off its payload, and does not depend on the thread it reaches. The second half of the file
says so of actions: `isReset_action`, `reasoningStream?_action` and `toolChange?_action`.
-/

namespace AgentFeed

/-! ## 1. What a payload says -/

/-- Whether an update begins a turn. -/
def UpdateKind.startsTurn : UpdateKind → Bool
  | .turnStart => true
  | _ => false

/-- The stream of reasoning that an update continues, without its turn. -/
def UpdateKind.reasoningStream? : UpdateKind → Option String
  | .reasoningDelta streamId _ _ => some streamId
  | _ => none

namespace WireMessage

/-- The update that a message carries. -/
def update? : WireMessage → Option StreamUpdate
  | .modelStreamChunk c => c.normalize
  | _ => none

/-- Whether a message makes a thread forget: the start of a turn, or the server going idle. -/
def resets : WireMessage → Bool
  | .sessionBusy busy => !busy
  | m => m.update?.any (·.kind.startsTurn)

/-- The turn and the stream of the reasoning that a message continues. -/
def reasoningStream? (m : WireMessage) : Option (String × String) :=
  m.update?.bind fun u => u.kind.reasoningStream?.map (u.turnId, ·)

/-- The tool call that a message is about, and what it says about it. -/
def toolChange? (m : WireMessage) : Option (String × ToolChange) :=
  m.update?.bind (·.kind.toolChange?)

end WireMessage

namespace Traffic

/-- Whether a payload makes a thread forget. -/
def resets (payload : Json) : Bool :=
  (WireMessage.decode payload).resets

/-- The payloads after the last one that resets. -/
def stretch (payloads : List Json) : List Json :=
  payloads.rtakeWhile fun p => !resets p

/-- The payloads up to the last one that resets, which is the last of them. -/
def upToReset (payloads : List Json) : List Json :=
  payloads.rdropWhile fun p => !resets p

theorem upToReset_append_stretch (payloads : List Json) :
    upToReset payloads ++ stretch payloads = payloads := by
  rw [upToReset, stretch, List.rdropWhile, List.rtakeWhile, ← List.reverse_append,
    List.takeWhile_append_dropWhile, List.reverse_reverse]

theorem stretch_concat (payloads : List Json) (p : Json) :
    stretch (payloads ++ [p]) = if resets p then [] else stretch payloads ++ [p] := by
  rw [stretch, List.rtakeWhile_concat]
  cases resets p <;> rfl

/-- What a view sees in payloads, and then in one more. -/
theorem filterMap_concat {β : Type} (view : Json → Option β) (payloads : List Json) (p : Json) :
    (payloads ++ [p]).filterMap view = payloads.filterMap view ++ (view p).toList := by
  rw [List.filterMap_append, List.filterMap_cons, List.filterMap_nil]
  cases view p <;> rfl

/-- The turns and streams of the reasoning since the last reset, in order. -/
def reasoningStreams (payloads : List Json) : List (String × String) :=
  (stretch payloads).filterMap fun p => (WireMessage.decode p).reasoningStream?

theorem reasoningStreams_concat (payloads : List Json) (p : Json) :
    reasoningStreams (payloads ++ [p])
      = if resets p then []
        else reasoningStreams payloads ++ (WireMessage.decode p).reasoningStream?.toList := by
  rw [reasoningStreams, stretch_concat]
  split
  · rfl
  · exact filterMap_concat _ _ _

theorem not_resets_of_mem_stretch {payloads : List Json} {p : Json} (h : p ∈ stretch payloads) :
    resets p = false := by
  have hp := List.mem_rtakeWhile_imp h
  simpa using hp

/-- The payload of a piece of model output. -/
def chunkPayload (turnId partType : String) (part : List (String × Json)) : Json :=
  Json.ofMembers [("type", .string "model_stream_chunk"), ("turnId", .string turnId),
    ("partType", .string partType), ("part", Json.ofMembers part)]

/-- The payload of a line of a log. -/
def logPayload (line : String) : Json :=
  Json.ofMembers [("type", .string "log"), ("line", .string line)]

end Traffic

/-! ## 2. What an action says -/

namespace Action

/-- Whether everything is forgotten. -/
def isReset : Action → Bool
  | .reset => true
  | _ => false

/-- The turn and the stream of the reasoning that an action continues. -/
def reasoningStream? : Action → Option (String × String)
  | .reasoning turnId streamId _ _ => some (turnId, streamId)
  | _ => none

/-- The tool call that an action is about, and what it does to it. -/
def toolChange? : Action → Option (String × ToolChange)
  | .tool key change => some (key, change)
  | _ => none

/-- The actions of messages that carry no update of a stream. -/
def IsWhole : Action → Prop
  | .idle => True
  | .note _ => True
  | .callStart _ _ => True
  | .callFinish _ _ _ => True
  | _ => False

theorem IsWhole.isReset {a : Action} (h : a.IsWhole) : a.isReset = false := by
  cases a <;> first | rfl | exact h.elim

theorem IsWhole.reasoningStream? {a : Action} (h : a.IsWhole) : a.reasoningStream? = none := by
  cases a <;> first | rfl | exact h.elim

theorem IsWhole.toolChange? {a : Action} (h : a.IsWhole) : a.toolChange? = none := by
  cases a <;> first | rfl | exact h.elim

end Action

theorem LogLine.action_isWhole (line : String) : (LogLine.action line).IsWhole := by
  rw [LogLine.action]
  split
  · trivial
  · split
    · trivial
    · split <;> trivial

/-- What an update asks for, as far as the three questions go. A value that is passed through asks
for nothing by itself. -/
theorem UpdateKind.action_views (limit : Nat) (turnId : String) (kind : UpdateKind) :
    (kind.action limit turnId).isReset = kind.startsTurn ∧
      (kind.action limit turnId).reasoningStream? = kind.reasoningStream?.map (turnId, ·) ∧
      (kind.action limit turnId).toolChange? = kind.toolChange? := by
  cases kind with
  | turnAbort reason => cases reason <;> exact ⟨rfl, rfl, rfl⟩
  | _ => exact ⟨rfl, rfl, rfl⟩

/-- A message that carries no update and does not say that the server is idle is a whole one. -/
theorem Dispatcher.action_isWhole (d : Dispatcher) (s : Accumulation) {m : WireMessage}
    (hupdate : m.update? = none) (hbusy : m ≠ .sessionBusy false) : (d.action s m).IsWhole := by
  cases m with
  | modelStreamChunk c =>
    simp only [WireMessage.update?] at hupdate
    simp only [action, RawChunk.action, hupdate]
    trivial
  | userMessage text id =>
    rw [action]
    split <;> trivial
  | assistantMessage text =>
    rw [action]
    split <;> trivial
  | reasoning kind text =>
    rw [action]
    split <;> trivial
  | log line => exact LogLine.action_isWhole line
  | sessionBusy busy =>
    cases busy with
    | true => trivial
    | false => exact absurd rfl hbusy
  | todos items => trivial
  | error message code source => trivial
  | other messageType => trivial

/-- The action of a message that carries an update: that of the update, unless a value is passed
through, which may hold a line of a log. -/
theorem Dispatcher.action_of_update (d : Dispatcher) (s : Accumulation) {m : WireMessage}
    {u : StreamUpdate} (hupdate : m.update? = some u) :
    d.action s m = u.kind.action d.previewLimit u.turnId ∨
      (∃ value, u.kind = .raw value) ∧ (d.action s m).IsWhole := by
  cases m with
  | modelStreamChunk c =>
    simp only [WireMessage.update?] at hupdate
    obtain ⟨turnId, kind⟩ := u
    simp only [action, RawChunk.action, hupdate]
    cases kind with
    | raw value =>
      refine .inr ⟨⟨value, rfl⟩, ?_⟩
      dsimp only
      cases rawLine? value with
      | none => trivial
      | some line => exact LogLine.action_isWhole line
    | _ => exact .inl rfl
  | _ => exact absurd hupdate (by simp [WireMessage.update?])

namespace Dispatcher

variable (d : Dispatcher) (s : Accumulation) (m : WireMessage)

theorem isReset_action : (d.action s m).isReset = m.resets := by
  cases hupdate : m.update? with
  | none =>
    by_cases hbusy : m = .sessionBusy false
    · rw [hbusy]
      rfl
    · rw [(d.action_isWhole s hupdate hbusy).isReset]
      cases m with
      | sessionBusy busy => cases busy <;> first | rfl | exact absurd rfl hbusy
      | _ => simp only [WireMessage.resets, hupdate, Option.any_none]
  | some u =>
    have hresets : m.resets = u.kind.startsTurn := by
      cases m with
      | modelStreamChunk c => simp only [WireMessage.resets, hupdate, Option.any_some]
      | _ => exact absurd hupdate (by simp [WireMessage.update?])
    rw [hresets]
    rcases d.action_of_update s hupdate with haction | ⟨⟨value, hraw⟩, hwhole⟩
    · rw [haction]
      exact (u.kind.action_views _ _).1
    · rw [hwhole.isReset, hraw]
      rfl

/-- Only prompts leave something behind, and no prompt resets. -/
theorem after_of_resets {m : WireMessage} (h : m.resets = true) : d.after m = d := by
  cases m with
  | userMessage text id => exact absurd h (by simp [WireMessage.resets, WireMessage.update?])
  | _ => rfl

/-- A view of actions that sees nothing in whole messages and resets sees in a message what it sees
in the update that the message carries. -/
theorem view_action {β : Type} (view : Action → Option β)
    (hwhole : ∀ a : Action, a.IsWhole → view a = none) (hreset : view .reset = none) :
    view (d.action s m)
      = m.update?.bind fun u => view (u.kind.action d.previewLimit u.turnId) := by
  cases hupdate : m.update? with
  | none =>
    by_cases hbusy : m = .sessionBusy false
    · rw [hbusy]
      exact hreset
    · exact hwhole _ (d.action_isWhole s hupdate hbusy)
  | some u =>
    rw [Option.bind_some]
    rcases d.action_of_update s hupdate with haction | ⟨⟨value, hraw⟩, haction⟩
    · rw [haction]
    · rw [hwhole _ haction, hraw]
      exact (hwhole .idle trivial).symm

theorem reasoningStream?_action : (d.action s m).reasoningStream? = m.reasoningStream? := by
  rw [d.view_action s m _ (fun _ h => h.reasoningStream?) rfl, WireMessage.reasoningStream?]
  exact Option.bind_congr fun u _ => (u.kind.action_views _ _).2.1

theorem toolChange?_action : (d.action s m).toolChange? = m.toolChange? := by
  rw [d.view_action s m _ (fun _ h => h.toolChange?) rfl, WireMessage.toolChange?]
  exact Option.bind_congr fun u _ => (u.kind.action_views _ _).2.2

end Dispatcher

end AgentFeed
