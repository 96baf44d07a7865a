import AgentFeed.Proofs.Action
import AgentFeed.Proofs.Table

/-!
# Ids are names only

The ids of items are passed around and never looked into. Two threads that get the same messages and
draw their ids from different sources therefore do the same, up to the ids: a step commutes with
every replacement of ids (`Action.step_rename`), and what a message asks for does not depend on them
at all (`Dispatcher.action_rename`).

A step looks at its fresh id only when it appends an item (`Action.step_fresh`), so the two sources
need to correspond only where items are made of them.
-/

namespace AgentFeed

/-! ## 1. Replacing ids -/

/-- A state with the ids of items replaced. -/
def Accumulation.rename (ρ : String → String) (s : Accumulation) : Accumulation :=
  { s with
    assistantItems := s.assistantItems.mapValues ρ
    reasoningItems := s.reasoningItems.mapValues ρ
    toolItems := s.toolItems.mapValues ρ
    openCalls := s.openCalls.mapValues (List.map ρ) }

/-- An edit with the ids of items replaced. -/
def FeedEdit.rename (ρ : String → String) : FeedEdit → FeedEdit
  | .append body => .append body
  | .amend id change => .amend (ρ id) change

/-- An announcement with the id of its item replaced. -/
def ToolSettled.rename (ρ : String → String) (t : ToolSettled) : ToolSettled :=
  { t with itemId := ρ t.itemId }

/-- A step with the ids of items replaced. -/
def Step.rename (ρ : String → String) (step : Step) : Step where
  state := step.state.rename ρ
  edit := step.edit.map (FeedEdit.rename ρ)
  settled := step.settled.map (ToolSettled.rename ρ)

/-! ## 2. Steps -/

variable (ρ : String → String) (freshId : String) (s : Accumulation)

namespace Accumulation

theorem openCall_rename (name id : String) :
    (s.rename ρ).openCall name (ρ id) = (s.openCall name id).rename ρ := by
  have hqueue : ((s.rename ρ).openCalls.get? name).getD [] ++ [ρ id]
      = ((s.openCalls.get? name).getD [] ++ [id]).map ρ := by
    rw [rename, Table.get?_mapValues, List.map_append]
    cases s.openCalls.get? name <;> rfl
  rw [openCall, hqueue, openCall, rename, rename, Table.mapValues_insert]

theorem oldestCall?_rename (name : String) :
    (s.rename ρ).oldestCall? name = (s.oldestCall? name).map ρ := by
  rw [oldestCall?, oldestCall?, rename, Table.get?_mapValues]
  cases s.openCalls.get? name with
  | none => rfl
  | some queue => exact List.head?_map

theorem closeOldestCall_rename (name : String) :
    (s.rename ρ).closeOldestCall name = (s.closeOldestCall name).rename ρ := by
  have hqueue : ((s.rename ρ).openCalls.get? name).getD []
      = ((s.openCalls.get? name).getD []).map ρ := by
    rw [rename, Table.get?_mapValues]
    cases s.openCalls.get? name <;> rfl
  rw [closeOldestCall, hqueue, closeOldestCall]
  rcases (s.openCalls.get? name).getD [] with _ | ⟨oldest, _ | ⟨id, later⟩⟩
  · simp only [List.map_nil, rename, Table.mapValues_erase]
  · simp only [List.map_cons, List.map_nil, rename, Table.mapValues_erase]
  · simp only [List.map_cons, rename, Table.mapValues_insert]

end Accumulation

namespace Reducer

theorem assistantDelta_rename (turnId delta : String) :
    assistantDelta (s.rename ρ) (ρ freshId) turnId delta
      = (assistantDelta s freshId turnId delta).rename ρ := by
  have hitem : (s.rename ρ).assistantItems.get? turnId = (s.assistantItems.get? turnId).map ρ :=
    Table.get?_mapValues ρ s.assistantItems turnId
  rw [assistantDelta, assistantDelta, hitem]
  cases s.assistantItems.get? turnId with
  | some id => rfl
  | none =>
    simp only [Option.map_none, Step.rename, Accumulation.rename, Table.mapValues_insert]
    rfl

theorem reasoningDelta_rename (turnId streamId : String) (mode : ReasoningMode) (delta : String) :
    reasoningDelta (s.rename ρ) (ρ freshId) turnId streamId mode delta
      = (reasoningDelta s freshId turnId streamId mode delta).rename ρ := by
  have hitem : ∀ key, (s.rename ρ).reasoningItems.get? key = (s.reasoningItems.get? key).map ρ :=
    Table.get?_mapValues ρ s.reasoningItems
  rw [reasoningDelta, reasoningDelta, hitem]
  cases s.reasoningItems.get? (Accumulation.reasoningKey turnId streamId) with
  | some id => rfl
  | none =>
    simp only [Option.map_none, Step.rename, Accumulation.rename, Table.mapValues_insert]
    rfl

theorem patchTool_rename (key : String) (patch : ToolPatch) :
    patchTool (s.rename ρ) (ρ freshId) key patch = (patchTool s freshId key patch).rename ρ := by
  have hitem : (s.rename ρ).toolItems.get? key = (s.toolItems.get? key).map ρ :=
    Table.get?_mapValues ρ s.toolItems key
  rw [patchTool, patchTool, hitem]
  cases s.toolItems.get? key with
  | some id => rfl
  | none =>
    simp only [Option.map_none, Step.rename, Accumulation.rename, Table.mapValues_insert]
    rfl

theorem toolItem_rename (key : String) :
    toolItem (s.rename ρ) (ρ freshId) key = ρ (toolItem s freshId key) := by
  have hitem : (s.rename ρ).toolItems.get? key = (s.toolItems.get? key).map ρ :=
    Table.get?_mapValues ρ s.toolItems key
  rw [toolItem, toolItem, hitem]
  cases s.toolItems.get? key <;> rfl

theorem toolInputEnd_rename (key name : String) :
    toolInputEnd (s.rename ρ) (ρ freshId) key name
      = (toolInputEnd s freshId key name).rename ρ := by
  have hinput : (s.rename ρ).toolInputs.get? key = s.toolInputs.get? key := rfl
  have hknown : (s.rename ρ).toolItems.contains key = s.toolItems.contains key := by
    rw [Table.contains, Table.contains, Accumulation.rename, Table.get?_mapValues,
      Option.isSome_map]
  rw [toolInputEnd, toolInputEnd, hinput, hknown]
  cases s.toolInputs.get? key with
  | some full => exact patchTool_rename ρ freshId s key _
  | none =>
    by_cases h : s.toolItems.contains key = true
    · simp only [if_pos h]
      exact patchTool_rename ρ freshId s key _
    · simp only [if_neg h]
      rfl

theorem settleTool_rename (key name : String) (result : Json) :
    settleTool (s.rename ρ) (ρ freshId) key name result
      = (settleTool s freshId key name result).rename ρ := by
  have hsettled : (s.rename ρ).settledTools = s.settledTools := rfl
  rw [settleTool, settleTool, patchTool_rename, toolItem_rename, hsettled]
  by_cases h : s.settledTools.contains key = true
  · simp only [if_pos h]
  · simp only [if_neg h]
    rfl

end Reducer

theorem ToolChange.step_rename (key : String) (change : ToolChange) :
    change.step (ρ freshId) (s.rename ρ) key = (change.step freshId s key).rename ρ := by
  cases change with
  | patch p => exact Reducer.patchTool_rename ρ freshId s key p
  | input delta =>
    exact Reducer.patchTool_rename ρ freshId
      { s with toolInputs := s.toolInputs.insert key ((s.toolInputs.get? key).getD "" ++ delta) }
      key _
  | inputEnd name => exact Reducer.toolInputEnd_rename ρ freshId s key name
  | settle name result => exact Reducer.settleTool_rename ρ freshId s key name result

theorem WholeMessage.toolFinish_rename (status : ToolStatus) (name : String)
    (payload : Option Json) :
    toolFinish (s.rename ρ) status name payload
      = (toolFinish s status name payload).rename ρ := by
  rw [toolFinish, toolFinish, Accumulation.oldestCall?_rename,
    Accumulation.closeOldestCall_rename]
  cases s.oldestCall? name <;> rfl

/-- **A step commutes with every replacement of ids.** -/
theorem Action.step_rename (a : Action) :
    a.step (ρ freshId) (s.rename ρ) = (a.step freshId s).rename ρ := by
  cases a with
  | idle => rfl
  | reset => rfl
  | note body => rfl
  | assistant turnId delta => exact Reducer.assistantDelta_rename ρ freshId s turnId delta
  | reasoning turnId streamId mode delta =>
    exact Reducer.reasoningDelta_rename ρ freshId s turnId streamId mode delta
  | tool key change => exact change.step_rename ρ freshId s key
  | callStart name payload =>
    rw [step, WholeMessage.toolStart, Accumulation.openCall_rename]
    rfl
  | callFinish status name payload => exact WholeMessage.toolFinish_rename ρ s status name payload

theorem Dispatcher.action_rename (d : Dispatcher) (m : WireMessage) :
    d.action (s.rename ρ) m = d.action s m := by
  cases m <;> rfl

/-! ## 3. The fresh id -/

theorem Reducer.patchTool_fresh (key : String) (patch : ToolPatch) :
    (∃ id, s.toolItems.get? key = some id ∧
        ∀ x, patchTool s x key patch = { state := s, edit := some (.amend id (.patch patch)) }) ∨
      ∀ x, (patchTool s x key patch).edit = some (.append patch.newBody) := by
  cases hitem : s.toolItems.get? key with
  | some id =>
    refine .inl ⟨id, rfl, fun x => ?_⟩
    rw [patchTool, hitem]
  | none =>
    refine .inr fun x => ?_
    rw [patchTool, hitem]

theorem ToolChange.step_fresh (key : String) (change : ToolChange) :
    (∀ x y, change.step x s key = change.step y s key) ∨
      ∃ body, ∀ x, (change.step x s key).edit = some (.append body) := by
  have hpatch : ∀ (before : Accumulation) (patch : ToolPatch),
      (∀ x y, Reducer.patchTool before x key patch = Reducer.patchTool before y key patch) ∨
        ∃ body, ∀ x, (Reducer.patchTool before x key patch).edit = some (.append body) := by
    intro before patch
    rcases Reducer.patchTool_fresh before key patch with ⟨id, -, hsame⟩ | happend
    · exact .inl fun x y => (hsame x).trans (hsame y).symm
    · exact .inr ⟨_, happend⟩
  cases change with
  | patch p => exact hpatch s p
  | input delta => exact hpatch _ _
  | inputEnd name =>
    cases hinput : s.toolInputs.get? key with
    | some full =>
      simp only [step, Reducer.toolInputEnd, hinput]
      exact hpatch s _
    | none =>
      by_cases h : s.toolItems.contains key = true
      · simp only [step, Reducer.toolInputEnd, hinput, if_pos h]
        exact hpatch s _
      · refine .inl fun x y => ?_
        simp only [step, Reducer.toolInputEnd, hinput, if_neg h]
  | settle name result =>
    simp only [step, Reducer.settleTool]
    let patch : ToolPatch := { name := some name, status := some .done, result := some result }
    rcases Reducer.patchTool_fresh s key patch with ⟨id, hitem, hsame⟩ | happend
    · -- The announcement names the item, which is the one that is known.
      refine .inl fun x y => ?_
      simp only [patch] at hsame
      simp only [hsame, Reducer.toolItem, hitem, Option.getD_some]
    · refine .inr ⟨patch.newBody, fun x => ?_⟩
      by_cases h : s.settledTools.contains key = true
      · rw [if_pos h]
        exact happend x
      · rw [if_neg h]
        exact happend x

/-- **The fresh id matters only to a new item.** -/
theorem Action.step_fresh (a : Action) :
    (∀ x y, a.step x s = a.step y s) ∨ ∃ body, ∀ x, (a.step x s).edit = some (.append body) := by
  cases a with
  | idle => exact .inl fun _ _ => rfl
  | reset => exact .inl fun _ _ => rfl
  | note body => exact .inl fun _ _ => rfl
  | assistant turnId delta =>
    simp only [step, Reducer.assistantDelta]
    cases s.assistantItems.get? turnId with
    | some id => exact .inl fun _ _ => rfl
    | none => exact .inr ⟨_, fun _ => rfl⟩
  | reasoning turnId streamId mode delta =>
    simp only [step, Reducer.reasoningDelta]
    cases s.reasoningItems.get? (Accumulation.reasoningKey turnId streamId) with
    | some id => exact .inl fun _ _ => rfl
    | none => exact .inr ⟨_, fun _ => rfl⟩
  | tool key change => exact change.step_fresh s key
  | callStart name payload => exact .inr ⟨_, fun _ => rfl⟩
  | callFinish status name payload => exact .inl fun _ _ => rfl

end AgentFeed
