import AgentFeed.Proofs.Ownership
import AgentFeed.Proofs.Stretch

/-!
# The tables of the state

Eleven tables and lists make up the accumulation state, and separate paths through the reducer write
them. `Accumulation.Consistent` says how they have to agree with one another, and one step keeps it
(`Action.consistent_step`).

The key of a stream of reasoning does not say where the turn ends and the stream begins, so which
turns a key stands for is not in the state. `Accumulation.Records` says it relative to the streams
that were continued since the last reset, and one step keeps up with them (`Action.records_step`).

A message leaves alone what it is not about: `Action.reasoning_frame` for reasoning and
`Action.tool_frame` for the call with a key.
-/

namespace AgentFeed

/-! ## 1. Tables that belong together -/

namespace Accumulation

/-- The tables and lists of the state agree with one another. -/
structure Consistent (s : Accumulation) : Prop where
  /-- A turn has an assistant item exactly when it has assistant text. -/
  assistant_keys : ∀ turn,
    s.assistantItems.contains turn = true ↔ s.assistantTexts.contains turn = true
  /-- A stream of reasoning has an item exactly when it has text. -/
  reasoning_keys : ∀ key,
    s.reasoningItems.contains key = true ↔ s.reasoningTexts.contains key = true
  /-- Only known tool calls have input text. -/
  inputs_known : ∀ key, s.toolInputs.contains key = true → s.toolItems.contains key = true
  /-- Only known tool calls have been announced. -/
  settled_known : ∀ key ∈ s.settledTools, s.toolItems.contains key = true
  /-- A queue of calls is removed with its last call. -/
  queues_filled : ∀ name, s.openCalls.get? name ≠ some []
  /-- The turn that assistant text came for last has some. -/
  lastAssistant_known : ∀ turn,
    s.lastAssistantTurn = some turn → s.assistantTexts.contains turn = true
  /-- The turn that reasoning came for last has some. -/
  lastReasoning_known : ∀ turn, s.lastReasoningTurn = some turn → turn ∈ s.reasoningTurns

/-- The reasoning in the state is that of the given turns and streams. -/
structure Records (s : Accumulation) (streams : List (String × String)) : Prop where
  /-- The turns are those of the streams. -/
  turns : ∀ turn, turn ∈ s.reasoningTurns ↔ ∃ stream, (turn, stream) ∈ streams
  /-- The keys are those of the streams. -/
  keys : ∀ key, s.reasoningItems.contains key = true ↔
    ∃ turn stream, (turn, stream) ∈ streams ∧ reasoningKey turn stream = key

theorem consistent_empty : empty.Consistent where
  assistant_keys _ := Iff.rfl
  reasoning_keys _ := Iff.rfl
  inputs_known _ h := h
  settled_known _ h := absurd h List.not_mem_nil
  queues_filled _ h := absurd h (by simp [empty])
  lastAssistant_known _ h := absurd h (by simp [empty])
  lastReasoning_known _ h := absurd h (by simp [empty])

theorem records_empty : empty.Records [] where
  turns turn := by simp [empty]
  keys key := by simp [empty, Table.contains]

/-- A call without an item has no input text either. -/
theorem Consistent.toolInputs_eq_none {s : Accumulation} (h : s.Consistent) {key : String}
    (hitem : s.toolItems.get? key = none) : s.toolInputs.get? key = none := by
  rw [← Table.contains_eq_false_iff, ← Bool.not_eq_true]
  intro hinput
  have hknown := h.inputs_known key hinput
  rw [Table.contains_eq_false_iff.2 hitem] at hknown
  cases hknown

theorem Consistent.openCall {s : Accumulation} (h : s.Consistent) (name id : String) :
    (s.openCall name id).Consistent := by
  refine { h with queues_filled := fun other => ?_ }
  simp only [Accumulation.openCall, Table.get?_insert]
  split
  · simp
  · exact h.queues_filled other

theorem Consistent.closeOldestCall {s : Accumulation} (h : s.Consistent) (name : String) :
    (s.closeOldestCall name).Consistent := by
  rw [Accumulation.closeOldestCall]
  split
  · refine { h with queues_filled := fun other => ?_ }
    simp only [Table.get?_insert]
    split
    · simp
    · exact h.queues_filled other
  · refine { h with queues_filled := fun other => ?_ }
    simp only [Table.get?_erase]
    split
    · simp
    · exact h.queues_filled other

end Accumulation

/-! ## 2. One step -/

namespace Reducer

open Accumulation

theorem assistantDelta_consistent {s : Accumulation} (h : s.Consistent)
    (freshId turnId delta : String) : (assistantDelta s freshId turnId delta).state.Consistent := by
  have hlast : ∀ (texts : Table String String) (full turn : String), some turnId = some turn →
      (texts.insert turnId full).contains turn = true :=
    fun _ _ _ heq => Table.contains_insert.2 (.inl (Option.some.inj heq))
  rw [assistantDelta]
  cases hitem : s.assistantItems.get? turnId with
  | some id =>
    refine { h with assistant_keys := fun turn => ?_, lastAssistant_known := hlast _ _ }
    rw [Table.contains_insert, h.assistant_keys]
    refine ⟨.inr, fun hor => hor.elim (fun heq => ?_) fun hor => hor⟩
    rw [← heq, ← h.assistant_keys]
    exact Table.contains_iff.2 ⟨id, hitem⟩
  | none =>
    refine { h with assistant_keys := fun turn => ?_, lastAssistant_known := hlast _ _ }
    rw [Table.contains_insert, Table.contains_insert, h.assistant_keys]

theorem reasoningDelta_consistent {s : Accumulation} (h : s.Consistent)
    (freshId turnId streamId : String) (mode : ReasoningMode) (delta : String) :
    (reasoningDelta s freshId turnId streamId mode delta).state.Consistent := by
  have hlast : ∀ turn, some turnId = some turn → turn ∈ s.reasoningTurns.insert turnId :=
    fun _ heq => List.mem_insert_iff.2 (.inl (Option.some.inj heq).symm)
  rw [reasoningDelta]
  cases hitem : s.reasoningItems.get? (reasoningKey turnId streamId) with
  | some id =>
    refine { h with reasoning_keys := fun key => ?_, lastReasoning_known := hlast }
    rw [Table.contains_insert, h.reasoning_keys]
    refine ⟨.inr, fun hor => hor.elim (fun heq => ?_) fun hor => hor⟩
    rw [← heq, ← h.reasoning_keys]
    exact Table.contains_iff.2 ⟨id, hitem⟩
  | none =>
    refine { h with reasoning_keys := fun key => ?_, lastReasoning_known := hlast }
    rw [Table.contains_insert, Table.contains_insert, h.reasoning_keys]

end Reducer

/-- The tool items after a call became known. -/
def Accumulation.toolItemsWith (s : Accumulation) (freshId key : String) : Table String String :=
  match s.toolItems.get? key with
  | some _ => s.toolItems
  | none => s.toolItems.insert key freshId

theorem Accumulation.contains_toolItemsWith {s : Accumulation} {freshId key other : String} :
    (s.toolItemsWith freshId key).contains other = true ↔
      key = other ∨ s.toolItems.contains other = true := by
  rw [toolItemsWith]
  cases hitem : s.toolItems.get? key with
  | some id =>
    refine ⟨.inr, fun hor => hor.elim (fun heq => ?_) fun hother => hother⟩
    exact Table.contains_iff.2 ⟨id, heq ▸ hitem⟩
  | none => exact Table.contains_insert

theorem Reducer.patchTool_state (s : Accumulation) (freshId key : String) (patch : ToolPatch) :
    (patchTool s freshId key patch).state
      = { s with toolItems := s.toolItemsWith freshId key } := by
  rw [patchTool, Accumulation.toolItemsWith]
  cases s.toolItems.get? key <;> rfl

/-- What a change of a tool call leaves behind: nothing, or a call that is known, perhaps with input
text or announced. -/
theorem ToolChange.state_cases (freshId : String) (s : Accumulation) (key : String)
    (change : ToolChange) :
    (change.step freshId s key).state = s ∨ ∃ inputs settled,
      (change.step freshId s key).state
          = { s with
              toolItems := s.toolItemsWith freshId key
              toolInputs := inputs
              settledTools := settled } ∧
        (∀ other, key ≠ other → inputs.get? other = s.toolInputs.get? other) ∧
        ∀ other ∈ settled, key = other ∨ other ∈ s.settledTools := by
  have hpatch : ∀ patch, ∃ inputs settled,
      (Reducer.patchTool s freshId key patch).state
          = { s with
              toolItems := s.toolItemsWith freshId key
              toolInputs := inputs
              settledTools := settled } ∧
        (∀ other, key ≠ other → inputs.get? other = s.toolInputs.get? other) ∧
        ∀ other ∈ settled, key = other ∨ other ∈ s.settledTools :=
    fun patch => ⟨s.toolInputs, s.settledTools, Reducer.patchTool_state s freshId key patch,
      fun _ _ => rfl, fun _ h => .inr h⟩
  cases change with
  | patch p => exact .inr (hpatch p)
  | input delta =>
    refine .inr ⟨s.toolInputs.insert key ((s.toolInputs.get? key).getD "" ++ delta),
      s.settledTools, Reducer.patchTool_state _ freshId key _, ?_, fun _ h => .inr h⟩
    exact fun _ hne => Table.get?_insert_of_ne _ _ hne
  | inputEnd name =>
    simp only [step, Reducer.toolInputEnd]
    split
    · exact .inr (hpatch _)
    · split
      · exact .inr (hpatch _)
      · exact .inl rfl
  | settle name result =>
    simp only [step, Reducer.settleTool]
    split
    · exact .inr (hpatch _)
    · rw [Reducer.patchTool_state]
      refine .inr ⟨s.toolInputs, s.settledTools.insert key, rfl, fun _ _ => rfl, ?_⟩
      exact fun _ h => (List.mem_insert_iff.1 h).imp_left Eq.symm

/-- Only a reset and reasoning touch what is on record of reasoning. -/
theorem Action.reasoning_frame (freshId : String) (s : Accumulation) (a : Action)
    (hreset : a.isReset = false) (hother : a.reasoningStream? = none) :
    (a.step freshId s).state.reasoningTurns = s.reasoningTurns ∧
      (a.step freshId s).state.reasoningItems = s.reasoningItems := by
  cases a with
  | reset => exact absurd hreset (by decide)
  | reasoning turnId streamId mode delta => exact absurd hother (by simp [reasoningStream?])
  | idle => exact ⟨rfl, rfl⟩
  | note body => exact ⟨rfl, rfl⟩
  | assistant turnId delta =>
    simp only [step, Reducer.assistantDelta]
    split
    · exact ⟨rfl, rfl⟩
    · exact ⟨rfl, rfl⟩
  | tool key change =>
    simp only [step]
    rcases change.state_cases freshId s key with hstate | ⟨inputs, settled, hstate, -, -⟩
    · rw [hstate]
      exact ⟨rfl, rfl⟩
    · rw [hstate]
      exact ⟨rfl, rfl⟩
  | callStart name payload => exact ⟨rfl, rfl⟩
  | callFinish status name payload =>
    rw [step, WholeMessage.toolFinish_state, Accumulation.closeOldestCall]
    split
    · exact ⟨rfl, rfl⟩
    · exact ⟨rfl, rfl⟩

/-- Only a reset and a change of the call touch the item and the input text of a tool call. -/
theorem Action.tool_frame (freshId : String) (s : Accumulation) (a : Action) {key : String}
    (hreset : a.isReset = false) (hother : a.owner? ≠ some (.tool key)) :
    (a.step freshId s).state.toolItems.get? key = s.toolItems.get? key ∧
      (a.step freshId s).state.toolInputs.get? key = s.toolInputs.get? key := by
  cases a with
  | reset => exact absurd hreset (by decide)
  | idle => exact ⟨rfl, rfl⟩
  | note body => exact ⟨rfl, rfl⟩
  | assistant turnId delta =>
    simp only [step, Reducer.assistantDelta]
    split
    · exact ⟨rfl, rfl⟩
    · exact ⟨rfl, rfl⟩
  | reasoning turnId streamId mode delta =>
    simp only [step, Reducer.reasoningDelta]
    split
    · exact ⟨rfl, rfl⟩
    · exact ⟨rfl, rfl⟩
  | tool other change =>
    have hne : other ≠ key := fun heq => hother (heq ▸ rfl)
    simp only [step]
    rcases change.state_cases freshId s other with hstate | ⟨inputs, settled, hstate, hinputs, -⟩
    · rw [hstate]
      exact ⟨rfl, rfl⟩
    · rw [hstate]
      refine ⟨?_, hinputs key hne⟩
      simp only [Accumulation.toolItemsWith]
      split
      · rfl
      · exact Table.get?_insert_of_ne _ _ hne
  | callStart name payload => exact ⟨rfl, rfl⟩
  | callFinish status name payload =>
    rw [step, WholeMessage.toolFinish_state, Accumulation.closeOldestCall]
    split
    · exact ⟨rfl, rfl⟩
    · exact ⟨rfl, rfl⟩

theorem ToolChange.consistent_step {s : Accumulation} (h : s.Consistent) (freshId key : String)
    (change : ToolChange) : (change.step freshId s key).state.Consistent := by
  rcases change.state_cases freshId s key with hstate | ⟨inputs, settled, hstate, hin, hset⟩
  · rw [hstate]
    exact h
  · rw [hstate]
    refine { h with
      inputs_known := fun other hother => ?_
      settled_known := fun other hother => ?_ }
    · rw [Accumulation.contains_toolItemsWith]
      by_cases hkey : key = other
      · exact .inl hkey
      · rw [Table.contains, hin other hkey] at hother
        exact .inr (h.inputs_known other hother)
    · exact Accumulation.contains_toolItemsWith.2
        ((hset other hother).imp_right (h.settled_known other))

/-- **One step keeps the tables in agreement.** -/
theorem Action.consistent_step {s : Accumulation} (h : s.Consistent) (freshId : String)
    (a : Action) : (a.step freshId s).state.Consistent := by
  cases a with
  | idle => exact h
  | reset => exact Accumulation.consistent_empty
  | note body => exact h
  | assistant turnId delta => exact Reducer.assistantDelta_consistent h freshId turnId delta
  | reasoning turnId streamId mode delta =>
    exact Reducer.reasoningDelta_consistent h freshId turnId streamId mode delta
  | tool key change => exact change.consistent_step h freshId key
  | callStart name payload => exact h.openCall name freshId
  | callFinish status name payload =>
    rw [Action.step, WholeMessage.toolFinish_state]
    exact h.closeOldestCall name

/-! ## 3. The streams of reasoning that are recorded -/

/-- The turns and streams on record after an action. -/
def Action.streamsAfter (streams : List (String × String)) (a : Action) : List (String × String) :=
  if a.isReset then [] else streams ++ a.reasoningStream?.toList

theorem Reducer.reasoningDelta_records {s : Accumulation} {streams : List (String × String)}
    (h : s.Records streams) (freshId turnId streamId : String) (mode : ReasoningMode)
    (delta : String) :
    (reasoningDelta s freshId turnId streamId mode delta).state.Records
      (streams ++ [(turnId, streamId)]) := by
  have hturns : ∀ turn, turn ∈ s.reasoningTurns.insert turnId ↔
      ∃ stream, (turn, stream) ∈ streams ++ [(turnId, streamId)] := by
    intro turn
    simp only [List.mem_insert_iff, h.turns, List.mem_append, List.mem_singleton, Prod.mk.injEq]
    constructor
    · rintro (rfl | ⟨stream, hmem⟩)
      · exact ⟨streamId, .inr ⟨rfl, rfl⟩⟩
      · exact ⟨stream, .inl hmem⟩
    · rintro ⟨stream, hmem | ⟨rfl, -⟩⟩
      · exact .inr ⟨stream, hmem⟩
      · exact .inl rfl
  have hkeys : ∀ key, (Accumulation.reasoningKey turnId streamId = key ∨
      s.reasoningItems.contains key = true) ↔ ∃ turn stream,
        (turn, stream) ∈ streams ++ [(turnId, streamId)] ∧
          Accumulation.reasoningKey turn stream = key := by
    intro key
    simp only [h.keys, List.mem_append, List.mem_singleton, Prod.mk.injEq]
    constructor
    · rintro (hkey | ⟨turn, stream, hmem, hkey⟩)
      · exact ⟨turnId, streamId, .inr ⟨rfl, rfl⟩, hkey⟩
      · exact ⟨turn, stream, .inl hmem, hkey⟩
    · rintro ⟨turn, stream, hmem | ⟨rfl, rfl⟩, hkey⟩
      · exact .inr ⟨turn, stream, hmem, hkey⟩
      · exact .inl hkey
  rw [reasoningDelta]
  cases hitem : s.reasoningItems.get? (Accumulation.reasoningKey turnId streamId) with
  | some id =>
    -- The key is there already, of this stream or of another one that is written the same.
    refine ⟨hturns, fun key => (hkeys key).symm.trans ?_ |>.symm⟩
    refine ⟨fun hor => hor.elim (fun heq => ?_) fun hmem => hmem, .inr⟩
    exact Table.contains_iff.2 ⟨id, heq ▸ hitem⟩
  | none => exact ⟨hturns, fun key => Table.contains_insert.trans (hkeys key)⟩

theorem Action.records_step {s : Accumulation} {streams : List (String × String)}
    (h : s.Records streams) (freshId : String) (a : Action) :
    (a.step freshId s).state.Records (a.streamsAfter streams) := by
  by_cases hreset : a.isReset = true
  · cases a with
    | reset => exact Accumulation.records_empty
    | _ => exact absurd hreset (by simp [isReset])
  · rw [Bool.not_eq_true] at hreset
    cases hstream : a.reasoningStream? with
    | some stream =>
      cases a with
      | reasoning turnId streamId mode delta =>
        exact Reducer.reasoningDelta_records h freshId turnId streamId mode delta
      | _ => exact absurd hstream (by simp [reasoningStream?])
    | none =>
      obtain ⟨hturns, hitems⟩ := a.reasoning_frame freshId s hreset hstream
      rw [streamsAfter, hreset, hstream, if_neg (by simp), Option.toList_none, List.append_nil]
      exact ⟨hturns ▸ h.turns, hitems ▸ h.keys⟩

end AgentFeed
