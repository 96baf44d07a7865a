import AgentFeed.Proofs.Action
import AgentFeed.Proofs.Table

/-!
# What the accumulation state holds

The accumulation state remembers items by id, in four places. `Owner` names what an item can be
remembered for, and `Accumulation.held` lists the items of an owner: one at most for a stream or a
tool call, and a queue for the calls of one tool from log lines.

An action treats the four places alike. `Effect` says all that a step can do to them, and
`Action.effect` that every action does one of these: forget everything, leave what is held alone,
begin a new item for an owner, continue an item of an owner, or end the oldest call of a queue.
Whatever is said later about the ids in the state is proved from `Action.effect` by six cases.
-/

namespace AgentFeed

/-! ## 1. Owners -/

/-- What an item of a feed can be remembered for. -/
inductive Owner where
  /-- The assistant text of a turn. -/
  | assistant (turnId : String)
  /-- A stream of reasoning, by its key. -/
  | reasoning (key : String)
  /-- A tool call, by its key. -/
  | tool (key : String)
  /-- The calls of a tool from log lines that have not ended, by the name of the tool. -/
  | call (name : String)
deriving DecidableEq

/-- The bodies that an item of an owner can have. -/
def Owner.Fits : Owner → FeedBody → Prop
  | .assistant _, body => ∃ text, body = .message .assistant text
  | .reasoning _, body => ∃ mode text, body = .reasoning mode text
  | .tool _, body => ∃ status name args result, body = .tool status name args result
  | .call name, body => ∃ args result, body = .tool .running name args result

namespace Accumulation

/-- The items that are remembered for an owner, oldest first. -/
def held (s : Accumulation) : Owner → List String
  | .assistant turnId => (s.assistantItems.get? turnId).toList
  | .reasoning key => (s.reasoningItems.get? key).toList
  | .tool key => (s.toolItems.get? key).toList
  | .call name => (s.openCalls.get? name).getD []

@[simp] theorem held_empty (o : Owner) : empty.held o = [] := by
  cases o <;> rfl

theorem mem_held_tool {s : Accumulation} {key id : String} :
    id ∈ s.held (.tool key) ↔ s.toolItems.get? key = some id :=
  Option.mem_toList

theorem held_openCall (s : Accumulation) (name id : String) (o : Owner) :
    (s.openCall name id).held o = if o = .call name then s.held o ++ [id] else s.held o := by
  cases o with
  | call other =>
    simp only [openCall, held, Table.get?_insert, Owner.call.injEq]
    by_cases h : name = other
    · rw [if_pos h, if_pos h.symm, h]
      rfl
    · rw [if_neg h, if_neg (Ne.symm h)]
  | _ => rfl

theorem held_closeOldestCall (s : Accumulation) (name : String) (o : Owner) :
    (s.closeOldestCall name).held o = if o = .call name then (s.held o).tail else s.held o := by
  cases o with
  | call other =>
    simp only [closeOldestCall, Owner.call.injEq]
    by_cases h : name = other
    · subst h
      rw [if_pos rfl]
      simp only [held]
      split
      · next id later hqueue =>
        rw [Table.get?_insert, if_pos rfl, hqueue]
        rfl
      · next hqueue =>
        rw [Table.get?_erase, if_pos rfl]
        -- Neither the empty queue nor that of one call leaves anything.
        rcases hcase : (s.openCalls.get? name).getD [] with _ | ⟨a, _ | ⟨b, later⟩⟩
        · rfl
        · rfl
        · exact absurd hcase (hqueue a b later)
    · rw [if_neg (Ne.symm h)]
      split
      · simp only [held, Table.get?_insert, if_neg h]
      · simp only [held, Table.get?_erase, if_neg h]
  | _ =>
    rw [closeOldestCall]
    split <;> rfl

theorem oldestCall?_eq (s : Accumulation) (name : String) :
    s.oldestCall? name = (s.held (.call name)).head? := by
  rw [oldestCall?, held]
  cases s.openCalls.get? name <;> rfl

end Accumulation

/-! ## 2. What a step does to the items that are held -/

/-- The owner whose items an action is about. -/
def Action.owner? : Action → Option Owner
  | .assistant turnId _ => some (.assistant turnId)
  | .reasoning turnId streamId _ _ =>
    some (.reasoning (Accumulation.reasoningKey turnId streamId))
  | .tool key _ => some (.tool key)
  | .callStart name _ => some (.call name)
  | .callFinish _ name _ => some (.call name)
  | _ => none

/-- All that the step of an action can do to the items that are held and to the feed. -/
inductive Effect (freshId : String) (s : Accumulation) (a : Action) (step : Step) : Prop where
  /-- Everything is forgotten, and nothing shown. -/
  | resets (about : a = .reset) (state : step.state = .empty) (edit : step.edit = none)
  /-- Nothing is shown. -/
  | rests (held : ∀ o, step.state.held o = s.held o) (edit : step.edit = none)
  /-- An item is shown that nobody will look at again. -/
  | notes (body : FeedBody) (held : ∀ o, step.state.held o = s.held o)
      (edit : step.edit = some (.append body))
  /-- The fresh item is shown, and remembered for the owner. -/
  | begins (owner : Owner) (body : FeedBody) (about : a.owner? = some owner)
      (fits : owner.Fits body)
      (held : ∀ o, step.state.held o = if o = owner then s.held o ++ [freshId] else s.held o)
      (edit : step.edit = some (.append body))
  /-- An item of the owner is amended, and stays one of the sort. -/
  | continues (owner : Owner) (id : String) (change : Amendment) (about : a.owner? = some owner)
      (mem : id ∈ s.held owner)
      (fits : ∀ body, owner.Fits body → owner.Fits (change.apply body))
      (held : ∀ o, step.state.held o = s.held o) (edit : step.edit = some (.amend id change))
  /-- The oldest call of a queue is amended and forgotten. -/
  | ends (name id : String) (status : ToolStatus) (result : Option Json)
      (about : a.owner? = some (.call name)) (head : (s.held (.call name)).head? = some id)
      (held : ∀ o, step.state.held o = if o = .call name then (s.held o).tail else s.held o)
      (edit : step.edit = some (.amend id (.finish status result)))

/-- Giving an owner that holds nothing its first item. -/
private theorem held_first {s : Accumulation} {state : Accumulation} {owner : Owner} {id : String}
    (hnone : s.held owner = []) (howner : state.held owner = [id])
    (hother : ∀ o, o ≠ owner → state.held o = s.held o) (o : Owner) :
    state.held o = if o = owner then s.held o ++ [id] else s.held o := by
  by_cases h : o = owner
  · rw [if_pos h, h, howner, hnone]
    rfl
  · rw [if_neg h, hother o h]

theorem Reducer.assistantDelta_effect (freshId : String) (s : Accumulation)
    (turnId delta : String) :
    Effect freshId s (.assistant turnId delta) (assistantDelta s freshId turnId delta) := by
  rw [assistantDelta]
  cases hitem : s.assistantItems.get? turnId with
  | some id =>
    refine .continues (.assistant turnId) id _ rfl ?_ ?_ (fun o => by cases o <;> rfl) rfl
    · simp [Accumulation.held, hitem]
    · rintro body ⟨text, rfl⟩
      exact ⟨_, rfl⟩
  | none =>
    refine .begins (.assistant turnId) _ rfl ⟨delta, rfl⟩ (held_first ?_ ?_ ?_) rfl
    · simp [Accumulation.held, hitem]
    · simp [Accumulation.held, Table.get?_insert]
    · rintro (other | _ | _ | _) hne
      · have hturn : turnId ≠ other := fun heq => hne (by rw [heq])
        simp only [Accumulation.held, Table.get?_insert_of_ne _ _ hturn]
      · rfl
      · rfl
      · rfl

theorem Reducer.reasoningDelta_effect (freshId : String) (s : Accumulation)
    (turnId streamId : String) (mode : ReasoningMode) (delta : String) :
    Effect freshId s (.reasoning turnId streamId mode delta)
      (reasoningDelta s freshId turnId streamId mode delta) := by
  rw [reasoningDelta]
  cases hitem : s.reasoningItems.get? (Accumulation.reasoningKey turnId streamId) with
  | some id =>
    refine .continues (.reasoning (Accumulation.reasoningKey turnId streamId)) id _ rfl
      ?_ ?_ (fun o => by cases o <;> rfl) rfl
    · simp [Accumulation.held, hitem]
    · rintro body ⟨mode, text, rfl⟩
      exact ⟨mode, _, rfl⟩
  | none =>
    refine .begins (.reasoning (Accumulation.reasoningKey turnId streamId)) _ rfl
      ⟨mode, delta, rfl⟩ (held_first ?_ ?_ ?_) rfl
    · simp [Accumulation.held, hitem]
    · simp [Accumulation.held, Table.get?_insert]
    · rintro (_ | other | _ | _) hne
      · rfl
      · have hkey : Accumulation.reasoningKey turnId streamId ≠ other :=
          fun heq => hne (by rw [heq])
        simp only [Accumulation.held, Table.get?_insert_of_ne _ _ hkey]
      · rfl
      · rfl

/-- A patch keeps a tool call a tool call. -/
theorem ToolPatch.apply_fits (patch : ToolPatch) (key : String) (body : FeedBody)
    (h : (Owner.tool key).Fits body) : (Owner.tool key).Fits (patch.apply body) := by
  obtain ⟨status, name, args, result, rfl⟩ := h
  exact ⟨_, _, _, _, rfl⟩

/-- Patching a tool call, where the state may have been changed before and after in ways that no
owner notices. -/
theorem Reducer.patchTool_effect {freshId : String} {s before : Accumulation} {key : String}
    {patch : ToolPatch} {change : ToolChange} {step : Step}
    (hbefore : ∀ o, before.held o = s.held o)
    (hstate : ∀ o, step.state.held o = (patchTool before freshId key patch).state.held o)
    (hedit : step.edit = (patchTool before freshId key patch).edit) :
    Effect freshId s (.tool key change) step := by
  have howner := hbefore (.tool key)
  rw [patchTool] at hstate hedit
  cases hitem : before.toolItems.get? key with
  | some id =>
    rw [hitem] at hstate hedit
    refine .continues (.tool key) id (.patch patch) rfl ?_ (patch.apply_fits key) ?_ hedit
    · rw [← howner]
      exact Accumulation.mem_held_tool.2 hitem
    · intro o
      rw [hstate, hbefore]
  | none =>
    rw [hitem] at hstate hedit
    refine .begins (.tool key) _ rfl ⟨_, _, _, _, rfl⟩ (held_first ?_ ?_ ?_) hedit
    · rw [← howner]
      simp [Accumulation.held, hitem]
    · rw [hstate]
      simp [Accumulation.held, Table.get?_insert]
    · intro o hne
      rw [hstate, ← hbefore]
      cases o with
      | tool other =>
        have hkey : key ≠ other := fun heq => hne (by rw [heq])
        simp only [Accumulation.held, Table.get?_insert_of_ne _ _ hkey]
      | _ => rfl

theorem ToolChange.step_effect (freshId : String) (s : Accumulation) (key : String)
    (change : ToolChange) :
    Effect freshId s (.tool key change) (change.step freshId s key) := by
  cases change with
  | patch p => exact Reducer.patchTool_effect (fun _ => rfl) (fun _ => rfl) rfl
  | input delta =>
    exact Reducer.patchTool_effect (fun o => by cases o <;> rfl) (fun _ => rfl) rfl
  | inputEnd name =>
    simp only [step, Reducer.toolInputEnd]
    split
    · exact Reducer.patchTool_effect (fun _ => rfl) (fun _ => rfl) rfl
    · split
      · exact Reducer.patchTool_effect (fun _ => rfl) (fun _ => rfl) rfl
      · exact .rests (fun _ => rfl) rfl
  | settle name result =>
    simp only [step, Reducer.settleTool]
    split
    · exact Reducer.patchTool_effect (fun _ => rfl) (fun _ => rfl) rfl
    · exact Reducer.patchTool_effect (fun _ => rfl) (fun o => by cases o <;> rfl) rfl

theorem WholeMessage.toolStart_effect (freshId : String) (s : Accumulation) (name : String)
    (payload : Option Json) :
    Effect freshId s (.callStart name payload) (toolStart s freshId name payload) :=
  .begins (.call name) _ rfl ⟨payload, none, rfl⟩ (s.held_openCall name freshId) rfl

theorem WholeMessage.toolFinish_state (s : Accumulation) (status : ToolStatus) (name : String)
    (payload : Option Json) :
    (toolFinish s status name payload).state = s.closeOldestCall name := by
  rw [toolFinish]
  split
  · rfl
  · rfl

theorem WholeMessage.toolFinish_effect (freshId : String) (s : Accumulation) (status : ToolStatus)
    (name : String) (payload : Option Json) :
    Effect freshId s (.callFinish status name payload) (toolFinish s status name payload) := by
  rw [toolFinish, s.oldestCall?_eq]
  cases hhead : (s.held (.call name)).head? with
  | some id => exact .ends name id status payload rfl hhead (s.held_closeOldestCall name) rfl
  | none =>
    refine .notes _ ?_ rfl
    intro o
    rw [s.held_closeOldestCall]
    by_cases h : o = .call name
    · rw [if_pos h, h, List.head?_eq_none_iff.1 hhead]
      rfl
    · rw [if_neg h]

/-- **What an action does to the items that are held.** It is about the items of one owner. -/
theorem Action.effect (freshId : String) (s : Accumulation) (a : Action) :
    Effect freshId s a (a.step freshId s) := by
  cases a with
  | idle => exact .rests (fun _ => rfl) rfl
  | reset => exact .resets rfl rfl rfl
  | note body => exact .notes body (fun _ => rfl) rfl
  | assistant turnId delta => exact Reducer.assistantDelta_effect freshId s turnId delta
  | reasoning turnId streamId mode delta =>
    exact Reducer.reasoningDelta_effect freshId s turnId streamId mode delta
  | tool key change => exact change.step_effect freshId s key
  | callStart name payload => exact WholeMessage.toolStart_effect freshId s name payload
  | callFinish status name payload =>
    exact WholeMessage.toolFinish_effect freshId s status name payload

end AgentFeed
