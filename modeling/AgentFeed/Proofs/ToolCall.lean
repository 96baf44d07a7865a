import AgentFeed.Proofs.Places

/-!
# A tool call as its own updates tell it

The item of a tool call is created in one way and changed in another, its input text is kept outside
of it, and seven kinds of update reach it in any order. `ToolProgress` is the call read off its
updates alone, without a feed and without ids: each update moves it on by `ToolProgress.next`, and
status, name and result are those of the last update that carries one
(`status_of`, `name_of`, `result_of`).

What one update does to the item of a call and to its input text is what `next` does
(`ToolProgress.body_next`), whether the update creates the item (`ToolChange.step_new`) or changes
it (`ToolChange.step_known`). `Delivery.Follows` says of a thread that the item of a call is where
its progress is; every single action keeps it up.
-/

namespace AgentFeed

/-! ## 1. What one update says about a call -/

namespace UpdateKind

/-- The key of the tool call that an update is about. -/
def toolKey? : UpdateKind → Option String
  | .toolInputStart key _ _ => some key
  | .toolInputDelta key _ => some key
  | .toolInputEnd key _ => some key
  | .toolCall key _ _ => some key
  | .toolResult key _ _ => some key
  | .toolError key _ _ => some key
  | .toolOutputDenied key _ _ => some key
  | _ => none

/-- Whether an update says that the input of a call is complete. -/
def isToolInputEnd : UpdateKind → Bool
  | .toolInputEnd _ _ => true
  | _ => false

/-- The status that an update gives a call. -/
def toolStatus? : UpdateKind → Option ToolStatus
  | .toolInputStart _ _ _ => some .running
  | .toolCall _ _ _ => some .running
  | .toolResult _ _ _ => some .done
  | .toolError _ _ _ => some .done
  | .toolOutputDenied _ _ _ => some .done
  | _ => none

/-- The name that an update gives a call. -/
def toolName? : UpdateKind → Option String
  | .toolInputStart _ name _ => some name
  | .toolInputEnd _ name => some name
  | .toolCall _ name _ => some name
  | .toolResult _ name _ => some name
  | .toolError _ name _ => some name
  | .toolOutputDenied _ name _ => some name
  | _ => none

/-- The name proper that an update gives a call. The placeholder for an unnamed tool is none. -/
def properToolName? (u : UpdateKind) : Option String :=
  u.toolName?.bind fun name => if name = Part.unnamedTool then none else some name

/-- The result that an update gives a call. -/
def toolResult? : UpdateKind → Option Json
  | .toolResult _ _ result => some result
  | .toolError _ _ error => some (.object [("error", error)])
  | .toolOutputDenied _ _ reason =>
    some (.object [("denied", .bool true), ("reason", (reason.map Json.string).getD .null)])
  | _ => none

/-- More input text of a call. -/
def toolDelta? : UpdateKind → Option String
  | .toolInputDelta _ delta => some delta
  | _ => none

/-- What an update does to the arguments of a call, given the input text up to and with it. -/
def argsChange (input : Option String) : UpdateKind → ArgsChange
  | .toolInputStart _ _ args => args.elim .keep .merge
  | .toolInputDelta _ _ => input.elim .keep .restructure
  | .toolInputEnd _ _ => input.elim .keep .restructure
  | .toolCall _ _ args => args.elim .keep .replace
  | _ => .keep

end UpdateKind

/-! ## 2. The progress of a call -/

/-- A tool call as its updates so far tell it. -/
structure ToolProgress where
  /-- The status. -/
  status : ToolStatus := .running
  /-- The name. -/
  name : String := Part.unnamedTool
  /-- The arguments. -/
  args : Option Json := none
  /-- The result. -/
  result : Option Json := none
  /-- The input text, once some has come. -/
  input : Option String := none

namespace ToolProgress

/-- The body that shows a call. -/
def body (p : ToolProgress) : FeedBody :=
  .tool p.status p.name p.args p.result

/-- The input text after an update. -/
def inputAfter (p : ToolProgress) (u : UpdateKind) : Option String :=
  match u.toolDelta? with
  | some delta => some (p.input.getD "" ++ delta)
  | none => p.input

/-- A call after one more update. -/
def next (p : ToolProgress) (u : UpdateKind) : ToolProgress where
  status := u.toolStatus?.getD p.status
  name := u.properToolName?.getD p.name
  args := (u.argsChange (p.inputAfter u)).apply p.args
  result := u.toolResult?.or p.result
  input := p.inputAfter u

/-- A call after a list of updates. -/
def of (updates : List UpdateKind) : ToolProgress :=
  updates.foldl next {}

theorem of_concat (updates : List UpdateKind) (u : UpdateKind) :
    of (updates ++ [u]) = (of updates).next u := by
  rw [of, List.foldl_append]
  rfl

/-- A value that each update may replace is the last one that came. -/
private theorem last_concat {α β : Type} (value? : α → Option β) (updates : List α) (u : α) :
    ((updates ++ [u]).filterMap value?).getLast?
      = (value? u).or (updates.filterMap value?).getLast? := by
  rw [List.filterMap_append, List.getLast?_append]
  cases h : value? u <;> simp [h]

/-- The status is the last one given, and the one at the start if none was. -/
theorem status_foldl (p : ToolProgress) (updates : List UpdateKind) :
    (updates.foldl next p).status
      = ((updates.filterMap UpdateKind.toolStatus?).getLast?).getD p.status := by
  induction updates using List.reverseRecOn with
  | nil => rfl
  | append_singleton updates u ih =>
    rw [List.foldl_append, last_concat, List.foldl_cons, List.foldl_nil, next, ih]
    cases u.toolStatus? <;> rfl

theorem status_of (updates : List UpdateKind) :
    (of updates).status = ((updates.filterMap UpdateKind.toolStatus?).getLast?).getD .running :=
  status_foldl {} updates

theorem result_of (updates : List UpdateKind) :
    (of updates).result = (updates.filterMap UpdateKind.toolResult?).getLast? := by
  induction updates using List.reverseRecOn with
  | nil => rfl
  | append_singleton updates u ih => rw [of_concat, last_concat, next, ih]

theorem name_of (updates : List UpdateKind) :
    (of updates).name
      = ((updates.filterMap UpdateKind.properToolName?).getLast?).getD Part.unnamedTool := by
  induction updates using List.reverseRecOn with
  | nil => rfl
  | append_singleton updates u ih =>
    rw [of_concat, last_concat, next, ih]
    cases u.properToolName? <;> rfl

end ToolProgress

/-! ## 3. One update at work -/

namespace ToolChange

/-- The patch that a change puts on a call, given its input text before. -/
def patchOver (input : Option String) : ToolChange → ToolPatch
  | .patch p => p
  | .input delta => { args := .restructure (input.getD "" ++ delta) }
  | .inputEnd name => { name := some name, args := input.elim .keep .restructure }
  | .settle name result => { name := some name, status := some .done, result := some result }

/-- The input text of a call after a change. -/
def inputOver (input : Option String) : ToolChange → Option String
  | .input delta => some (input.getD "" ++ delta)
  | _ => input

end ToolChange

namespace Reducer

variable {s : Accumulation} {key id : String}

theorem patchTool_known (h : s.toolItems.get? key = some id) (freshId : String)
    (patch : ToolPatch) :
    patchTool s freshId key patch = { state := s, edit := some (.amend id (.patch patch)) } := by
  rw [patchTool, h]

theorem patchTool_new (h : s.toolItems.get? key = none) (freshId : String) (patch : ToolPatch) :
    patchTool s freshId key patch
      = { state := { s with toolItems := s.toolItems.insert key freshId }
          edit := some (.append patch.newBody) } := by
  rw [patchTool, h]

end Reducer

namespace ToolChange

variable {s : Accumulation} {key id : String}

/-- A change of a call that has an item patches the item. -/
theorem step_known (h : s.toolItems.get? key = some id) (freshId : String) (change : ToolChange) :
    (change.step freshId s key).edit
        = some (.amend id (.patch (change.patchOver (s.toolInputs.get? key)))) ∧
      (change.step freshId s key).state.toolItems = s.toolItems ∧
      (change.step freshId s key).state.toolInputs.get? key
        = change.inputOver (s.toolInputs.get? key) := by
  cases change with
  | patch p =>
    rw [step, Reducer.patchTool_known h]
    exact ⟨rfl, rfl, rfl⟩
  | input delta =>
    let full := (s.toolInputs.get? key).getD "" ++ delta
    have hpatch := Reducer.patchTool_known
      (s := { s with toolInputs := s.toolInputs.insert key full }) h freshId
    rw [step, Reducer.toolInput, hpatch]
    exact ⟨rfl, rfl, Table.get?_insert_self _ _ _⟩
  | inputEnd name =>
    rw [step, Reducer.toolInputEnd]
    cases hinput : s.toolInputs.get? key with
    | some full =>
      dsimp only
      rw [Reducer.patchTool_known h]
      exact ⟨rfl, rfl, hinput⟩
    | none =>
      dsimp only
      rw [if_pos (Table.contains_iff.2 ⟨id, h⟩), Reducer.patchTool_known h]
      exact ⟨rfl, rfl, hinput⟩
  | settle name result =>
    rw [step, Reducer.settleTool, Reducer.patchTool_known h]
    dsimp only
    split
    · exact ⟨rfl, rfl, rfl⟩
    · exact ⟨rfl, rfl, rfl⟩

/-- A change of a call without an item creates one, unless it says that the input is complete. -/
theorem step_new (h : s.toolItems.get? key = none) (hinput : s.toolInputs.get? key = none)
    (freshId : String) {change : ToolChange} (hend : ∀ name, change ≠ .inputEnd name) :
    (change.step freshId s key).edit = some (.append (change.patchOver none).newBody) ∧
      (change.step freshId s key).state.toolItems.get? key = some freshId ∧
      (change.step freshId s key).state.toolInputs.get? key = change.inputOver none := by
  cases change with
  | patch p =>
    rw [step, Reducer.patchTool_new h]
    exact ⟨rfl, Table.get?_insert_self _ _ _, hinput⟩
  | input delta =>
    have hpatch := Reducer.patchTool_new
      (s := { s with toolInputs := s.toolInputs.insert key ("" ++ delta) }) h freshId
    rw [step, Reducer.toolInput, hinput, Option.getD_none, hpatch]
    exact ⟨rfl, Table.get?_insert_self _ _ _, Table.get?_insert_self _ _ _⟩
  | inputEnd name => exact absurd rfl (hend name)
  | settle name result =>
    rw [step, Reducer.settleTool, Reducer.patchTool_new h]
    dsimp only
    split
    · exact ⟨rfl, Table.get?_insert_self _ _ _, hinput⟩
    · exact ⟨rfl, Table.get?_insert_self _ _ _, hinput⟩

/-- That the input of an unknown call is complete is no news. -/
theorem step_unknown_end (h : s.toolItems.get? key = none) (hinput : s.toolInputs.get? key = none)
    (freshId name : String) :
    (ToolChange.inputEnd name).step freshId s key = { state := s } := by
  rw [step, Reducer.toolInputEnd, hinput]
  dsimp only
  rw [if_neg]
  rw [Bool.not_eq_true, Table.contains_eq_false_iff]
  exact h

end ToolChange

/-- Beginning a call is patching one of which nothing is known yet. -/
theorem ToolPatch.newBody_eq (patch : ToolPatch) :
    patch.newBody = patch.apply (ToolProgress.body {}) := by
  -- The placeholder is what a call is called before it has a name, so it changes nothing here.
  obtain ⟨name, status, args, result⟩ := patch
  simp only [newBody, ToolPatch.apply, ToolProgress.body, Option.or_none, FeedBody.tool.injEq,
    true_and, and_true]
  rw [nameOver]
  cases name with
  | none => rfl
  | some name =>
    simp only [Option.getD_some]
    split
    · next heq => exact heq
    · rfl

/-- **An update does to the item of a call what it says about the call.** -/
theorem ToolProgress.body_next (p : ToolProgress) {u : UpdateKind} {key : String}
    {change : ToolChange} (h : u.toolChange? = some (key, change)) :
    (p.next u).body = (change.patchOver p.input).apply p.body ∧
      (p.next u).input = change.inputOver p.input := by
  have hname : ∀ name, (if name = Part.unnamedTool then none else some name).getD p.name
      = if name = Part.unnamedTool then p.name else name := by
    intro name
    split
    · rfl
    · rfl
  cases u with
  | toolInputStart k name args =>
    obtain ⟨-, rfl⟩ := Prod.mk.inj (Option.some.inj h)
    exact ⟨congrArg (FeedBody.tool _ · _ _) (hname name), rfl⟩
  | toolInputDelta k delta =>
    obtain ⟨-, rfl⟩ := Prod.mk.inj (Option.some.inj h)
    exact ⟨rfl, rfl⟩
  | toolInputEnd k name =>
    obtain ⟨-, rfl⟩ := Prod.mk.inj (Option.some.inj h)
    exact ⟨congrArg (FeedBody.tool _ · _ _) (hname name), rfl⟩
  | toolCall k name args =>
    obtain ⟨-, rfl⟩ := Prod.mk.inj (Option.some.inj h)
    exact ⟨congrArg (FeedBody.tool _ · _ _) (hname name), rfl⟩
  | toolResult k name result =>
    obtain ⟨-, rfl⟩ := Prod.mk.inj (Option.some.inj h)
    exact ⟨congrArg (FeedBody.tool _ · _ _) (hname name), rfl⟩
  | toolError k name error =>
    obtain ⟨-, rfl⟩ := Prod.mk.inj (Option.some.inj h)
    exact ⟨congrArg (FeedBody.tool _ · _ _) (hname name), rfl⟩
  | toolOutputDenied k name reason =>
    obtain ⟨-, rfl⟩ := Prod.mk.inj (Option.some.inj h)
    exact ⟨congrArg (FeedBody.tool _ · _ _) (hname name), rfl⟩
  | _ => exact absurd h (by simp [UpdateKind.toolChange?])

/-! ## 4. The item of a call -/

/-- Of all actions only a change of a tool call says which call it is about. -/
theorem Action.eq_tool_of_toolChange? {a : Action} {call : String × ToolChange}
    (h : a.toolChange? = some call) : a = .tool call.1 call.2 := by
  cases a with
  | tool key change =>
    obtain rfl := Option.some.inj h
    rfl
  | _ => cases h

theorem Action.toolChange?_of_owner? {a : Action} {key : String}
    (h : a.owner? = some (.tool key)) : ∃ change, a.toolChange? = some (key, change) := by
  cases a with
  | tool other change =>
    rw [Action.owner?, Option.some.injEq, Owner.tool.injEq] at h
    exact ⟨change, congrArg (fun k => some (k, change)) h⟩
  | _ => exact absurd h (by simp [Action.owner?])

namespace Delivery

/-- The item of a call has an id, is at a place and shows the progress of the call. -/
structure Follows (d : Delivery Feed) (key id : String) (n : Nat) (p : ToolProgress) : Prop where
  /-- The call has the item. -/
  item : d.state.toolItems.get? key = some id
  /-- The item shows the progress. -/
  shows : d.Shows (.tool key) n p.body
  /-- The input text is that of the progress. -/
  input : d.state.toolInputs.get? key = p.input

variable {d : Delivery Feed} {key id : String} {n : Nat} {p : ToolProgress}

theorem Follows.getElem? (h : d.Follows key id n p) :
    ∃ item, d.sink.items[n]? = some item ∧ item.id = id ∧ item.body = p.body := by
  obtain ⟨item, hitem, hbody, hheld⟩ := h.shows
  have hmem : item.id ∈ d.state.held (.tool key) := hheld ▸ List.mem_singleton_self _
  rw [Accumulation.mem_held_tool, h.item] at hmem
  exact ⟨item, hitem, (Option.some.inj hmem).symm, hbody⟩

namespace Coherent

/-- A call that has an item is at some place, and has come to something. -/
theorem exists_follows (h : d.Coherent) (hitem : d.state.toolItems.get? key = some id) :
    ∃ n p, d.Follows key id n p := by
  have hmem : id ∈ d.state.held (.tool key) := Accumulation.mem_held_tool.2 hitem
  obtain ⟨item, hin, rfl, status, name, args, result, hbody⟩ := h.held_fits (.tool key) id hmem
  obtain ⟨n, hn⟩ := List.mem_iff_getElem?.1 hin
  refine ⟨n, { status, name, args, result, input := d.state.toolInputs.get? key }, hitem, ?_, rfl⟩
  exact ⟨item, hn, hbody, congrArg Option.toList hitem⟩

/-- An action about something else leaves a call alone. -/
theorem follows_perform_of_ne (h : d.Coherent) (hfollows : d.Follows key id n p)
    (dispatcher : Dispatcher) {a : Action} (hreset : a.isReset = false)
    (hother : a.owner? ≠ some (.tool key)) : (d.perform dispatcher a).Follows key id n p := by
  obtain ⟨hitem, hinput⟩ := Action.tool_frame d.host.ids.head d.state a hreset hother
  exact ⟨hitem.trans hfollows.item, h.shows_perform_of_ne hfollows.shows dispatcher hreset hother,
    hinput.trans hfollows.input⟩

/-- A change of a call that has an item moves the call on, and appends nothing. -/
theorem follows_perform_tool (h : d.Coherent) (hfollows : d.Follows key id n p)
    (dispatcher : Dispatcher) {u : UpdateKind} {change : ToolChange}
    (hchange : u.toolChange? = some (key, change)) :
    (d.perform dispatcher (.tool key change)).Follows key id n (p.next u) ∧
      (d.perform dispatcher (.tool key change)).sink.size = d.sink.size := by
  obtain ⟨hedit, hitems, hinput⟩ := change.step_known hfollows.item d.host.ids.head
  obtain ⟨hbody, hnext⟩ := p.body_next hchange
  rw [hfollows.input] at hedit hinput
  refine ⟨⟨?_, ?_, ?_⟩, ?_⟩
  · exact (congrArg (Table.get? · key) hitems).trans hfollows.item
  · rw [hbody]
    refine h.shows_take_amend hfollows.shows _ hedit ?_ ?_
    · exact Accumulation.mem_held_tool.2 hfollows.item
    · exact congrArg (fun t => (Table.get? t key).toList) hitems
  · rw [hnext]
    exact hinput
  · rw [perform, size_take, Step.growth, Action.step, hedit]
    exact Nat.add_zero _

end Coherent

/-- The first news of a call appends its item. -/
theorem follows_perform_of_news (hitem : d.state.toolItems.get? key = none)
    (hinput : d.state.toolInputs.get? key = none) (dispatcher : Dispatcher) {u : UpdateKind}
    {change : ToolChange} (hchange : u.toolChange? = some (key, change))
    (hend : ∀ name, change ≠ .inputEnd name) :
    (d.perform dispatcher (.tool key change)).Follows key d.host.ids.head d.sink.size
        (ToolProgress.next {} u) ∧
      (d.perform dispatcher (.tool key change)).sink.size = d.sink.size + 1 := by
  obtain ⟨hedit, hget, hfull⟩ := ToolChange.step_new hitem hinput d.host.ids.head hend
  obtain ⟨hbody, hnext⟩ := ToolProgress.body_next {} hchange
  rw [ToolPatch.newBody_eq] at hedit
  refine ⟨⟨hget, ?_, ?_⟩, ?_⟩
  · rw [hbody]
    refine d.shows_take_append _ hedit ?_
    exact congrArg Option.toList hget
  · rw [hnext]
    exact hfull
  · rw [perform, size_take, Step.growth, Action.step, hedit]

end Delivery

end AgentFeed
