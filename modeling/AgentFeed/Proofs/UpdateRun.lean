import AgentFeed.Proofs.ToolHistory

/-!
# Runs of updates

A thread can be handed canonical updates one by one, with no payloads around them. Then no prompt
comes and no line of a log, the dispatcher stays as it is, and which action an update asks for does
not depend on what is remembered (`Delivery.update_eq`). What holds of single actions carries over:
state and feed stay coherent, the tables stay consistent, and a call that has begun is moved on by
the updates that are about it (`Coherent.follows_updateAll`). The start of a turn forgets everything
and touches no item, so what is read of a text is in the updates since the last start
(`StreamUpdate.stretch`).
-/

namespace AgentFeed

/-! ## 1. Updates and their actions -/

/-- What an update says about a tool call. -/
def StreamUpdate.about? (key : String) (u : StreamUpdate) : Option UpdateKind :=
  if u.kind.toolKey? = some key then some u.kind else none

theorem StreamUpdate.about?_eq_some_iff {key : String} {u : StreamUpdate} {kind : UpdateKind} :
    u.about? key = some kind ↔ u.kind = kind ∧ ∃ change, kind.toolChange? = some (key, change) := by
  rw [about?, Option.ite_none_right_eq_some, Option.some.injEq, UpdateKind.toolKey?_eq,
    Option.map_eq_some_iff]
  constructor
  · rintro ⟨⟨⟨other, change⟩, hchange, rfl⟩, rfl⟩
    exact ⟨rfl, change, hchange⟩
  · rintro ⟨rfl, change, hchange⟩
    exact ⟨⟨_, hchange, rfl⟩, rfl⟩

/-- The updates since the last one that begins a turn. -/
def StreamUpdate.stretch (updates : List StreamUpdate) : List StreamUpdate :=
  updates.rtakeWhile (!·.kind.startsTurn)

theorem StreamUpdate.stretch_concat (updates : List StreamUpdate) (u : StreamUpdate) :
    stretch (updates ++ [u]) = if u.kind.startsTurn then [] else stretch updates ++ [u] := by
  rw [stretch, List.rtakeWhile_concat]
  cases u.kind.startsTurn <;> rfl

/-- Texts that updates bring, joined, since the last turn began. -/
def StreamUpdate.gather (text? : StreamUpdate → Option String) (updates : List StreamUpdate) :
    String :=
  String.join ((stretch updates).filterMap text?)

theorem StreamUpdate.gather_concat (text? : StreamUpdate → Option String)
    (updates : List StreamUpdate) (u : StreamUpdate) :
    gather text? (updates ++ [u])
      = if u.kind.startsTurn then "" else gather text? updates ++ (text? u).getD "" := by
  rw [gather, stretch_concat]
  split
  · rfl
  · rw [List.filterMap_append, String.join_append, gather]
    cases htext : text? u <;> simp [htext]

namespace UpdateKind

variable (kind : UpdateKind) (limit : Nat) (turnId : String) {key : String}

theorem action_of_toolChange {change : ToolChange} (h : kind.toolChange? = some (key, change)) :
    kind.action limit turnId = .tool key change :=
  Action.eq_tool_of_toolChange? ((kind.action_views limit turnId).2.2.trans h)

theorem owner?_action_of_ne (h : kind.toolKey? ≠ some key) :
    (kind.action limit turnId).owner? ≠ some (.tool key) := by
  intro howner
  obtain ⟨change, hchange⟩ := Action.toolChange?_of_owner? howner
  rw [(kind.action_views limit turnId).2.2] at hchange
  exact h (kind.toolKey?_eq.trans (congrArg (Option.map Prod.fst) hchange))

end UpdateKind

namespace Delivery

/-! ## 2. A run -/

section Run

variable {σ : Type} [FeedSink σ]

/-- The thread after a list of updates. -/
def updateAll (d : Delivery σ) (updates : List StreamUpdate) : Delivery σ :=
  updates.foldl update d

theorem updateAll_append (d : Delivery σ) (first second : List StreamUpdate) :
    d.updateAll (first ++ second) = (d.updateAll first).updateAll second :=
  List.foldl_append

theorem updateAll_concat (d : Delivery σ) (updates : List StreamUpdate) (u : StreamUpdate) :
    d.updateAll (updates ++ [u]) = (d.updateAll updates).update u :=
  d.updateAll_append updates [u]

/-- An update does what its action does, and that is all. -/
theorem update_eq (d : Delivery σ) (u : StreamUpdate) :
    d.update u = d.perform d.dispatcher (u.kind.action d.dispatcher.previewLimit u.turnId) := by
  rw [update, perform, Reducer.reduce, Reducer.reduceKind_eq]

/-- The start of a turn makes a thread forget, and does nothing else to it. -/
theorem update_of_startsTurn (d : Delivery σ) {u : StreamUpdate}
    (h : u.kind.startsTurn = true) : d.update u = { d with state := .empty } := by
  have hkind : u.kind = .turnStart := by
    cases hcase : u.kind with
    | turnStart => rfl
    | _ =>
      rw [hcase] at h
      cases h
  rw [update_eq, hkind, UpdateKind.action, perform, take, Action.step]
  simp only [FeedSink.edit, Host.announce, Option.toList_none, List.append_nil]

theorem consistent_updateAll {d : Delivery σ} (h : d.state.Consistent)
    (updates : List StreamUpdate) : (d.updateAll updates).state.Consistent := by
  induction updates using List.reverseRecOn with
  | nil => exact h
  | append_singleton updates u ih =>
    rw [updateAll_concat, update_eq]
    exact Action.consistent_step ih _ _

end Run

variable {d : Delivery Feed}

namespace Coherent

theorem update (h : d.Coherent) (u : StreamUpdate) : (d.update u).Coherent := by
  rw [update_eq]
  exact h.take _ (Action.effect _ _ _)

theorem updateAll (h : d.Coherent) (updates : List StreamUpdate) :
    (d.updateAll updates).Coherent := by
  induction updates generalizing d with
  | nil => exact h
  | cons u rest ih => exact ih (h.update u)

/-- An item that is held for nobody lies still, whatever updates come. -/
theorem unheld_updateAll (h : d.Coherent) {m : Nat} {item : FeedItem}
    (hitem : d.sink.items[m]? = some item) (hfree : ∀ p, item.id ∉ d.state.held p)
    (updates : List StreamUpdate) : (d.updateAll updates).sink.items[m]? = some item := by
  induction updates generalizing d with
  | nil => exact hitem
  | cons u rest ih =>
    obtain ⟨hstays, hunheld⟩ := h.unheld_perform d.dispatcher
      (u.kind.action d.dispatcher.previewLimit u.turnId) hitem hfree
    rw [← update_eq] at hstays hunheld
    exact ih (h.update u) hstays hunheld

/-- With the start of a turn every item is settled for good. -/
theorem item_updateAll_of_startsTurn (h : d.Coherent) {m : Nat} {item : FeedItem}
    (hitem : d.sink.items[m]? = some item) {updates : List StreamUpdate}
    (hfirst : ∀ u ∈ updates.head?, u.kind.startsTurn = true) :
    (d.updateAll updates).sink.items[m]? = some item := by
  cases updates with
  | nil => exact hitem
  | cons u rest =>
    have hforgets := d.update_of_startsTurn (hfirst u rfl)
    have hitem' : (d.update u).sink.items[m]? = some item := by
      rw [hforgets]
      exact hitem
    refine (h.update u).unheld_updateAll hitem' (fun p => ?_) rest
    rw [hforgets, Accumulation.held_empty]
    exact List.not_mem_nil

/-! ## 3. Calls that have begun -/

variable {key id : String} {n : Nat} {p : ToolProgress}

theorem follows_update (h : d.Coherent) (hfollows : d.Follows key id n p) {u : StreamUpdate}
    (hreset : u.kind.startsTurn = false) :
    (d.update u).Follows key id n ((u.about? key).elim p p.next) := by
  rw [update_eq]
  cases habout : u.about? key with
  | some kind =>
    obtain ⟨rfl, change, hchange⟩ := StreamUpdate.about?_eq_some_iff.1 habout
    rw [u.kind.action_of_toolChange _ _ hchange]
    exact (h.follows_perform_tool hfollows _ hchange).1
  | none =>
    refine h.follows_perform_of_ne hfollows _ ?_ (u.kind.owner?_action_of_ne _ _ fun hkey => ?_)
    · exact (u.kind.action_views _ _).1.trans hreset
    · rw [StreamUpdate.about?, if_pos hkey] at habout
      cases habout

/-- **A call that has begun is what its updates make of it**, until everything is forgotten. -/
theorem follows_updateAll (h : d.Coherent) (hfollows : d.Follows key id n p)
    {updates : List StreamUpdate} (hresets : ∀ u ∈ updates, u.kind.startsTurn = false) :
    (d.updateAll updates).Follows key id n
      ((updates.filterMap (StreamUpdate.about? key)).foldl ToolProgress.next p) := by
  induction updates generalizing d p with
  | nil => exact hfollows
  | cons u rest ih =>
    obtain ⟨hreset, hrest⟩ := List.forall_mem_cons.1 hresets
    have hnext := ih (h.update u) (h.follows_update hfollows hreset) hrest
    rw [List.filterMap_cons]
    cases habout : u.about? key with
    | none =>
      rw [habout] at hnext
      exact hnext
    | some kind =>
      rw [habout] at hnext
      exact hnext

end Coherent

end Delivery

end AgentFeed
