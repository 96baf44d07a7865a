import AgentFeed.Proofs.Coherence

/-!
# Older items lie still

A thread that remembers nothing has no hold on what its feed shows already: whatever it amends later
it has to append first. So it does on a feed with older items what it would do on the empty feed,
and the outcome stands behind the older items (`Coherent.deliverAll_onto`).

The feed is searched from its end, and an id that is remembered is that of an item the thread itself
has appended. This is all that is needed; the older items may have any ids.
-/

namespace AgentFeed

/-! ## 1. One feed behind another -/

namespace Feed

/-- The feed with the items of another one in front of its own. -/
def onto (f base : Feed) : Feed :=
  { newestFirst := f.newestFirst ++ base.newestFirst }

@[simp] theorem items_onto (f base : Feed) : (f.onto base).items = base.items ++ f.items := by
  rw [items, onto, List.reverse_append]
  rfl

theorem updateFirst_append {id : String} {items : List FeedItem}
    (h : ∃ item ∈ items, item.id = id) (change : FeedItem → FeedItem) (older : List FeedItem) :
    updateFirst id change (items ++ older) = updateFirst id change items ++ older := by
  induction items with
  | nil =>
    obtain ⟨item, hmem, -⟩ := h
    exact absurd hmem List.not_mem_nil
  | cons item rest ih =>
    rw [List.cons_append, updateFirst, updateFirst]
    by_cases hid : item.id = id
    · rw [if_pos hid, if_pos hid, List.cons_append]
    · have hrest : ∃ x ∈ rest, x.id = id := by
        obtain ⟨x, hmem, hx⟩ := h
        rcases List.mem_cons.1 hmem with rfl | hmem
        · exact absurd hx hid
        · exact ⟨x, hmem, hx⟩
      rw [if_neg hid, if_neg hid, ih hrest, List.cons_append]

theorem update_onto {f : Feed} {id : String} (h : ∃ item ∈ f.items, item.id = id)
    (change : FeedItem → FeedItem) (base : Feed) :
    (f.onto base).update id change = (f.update id change).onto base := by
  have hnewest : ∃ item ∈ f.newestFirst, item.id = id := by
    simpa only [items, List.mem_reverse] using h
  rw [update, onto, updateFirst_append hnewest]
  rfl

end Feed

/-! ## 2. Threads at work -/

namespace Delivery

/-- The thread with older items in front of what its feed shows. -/
def onto (d : Delivery Feed) (base : Feed) : Delivery Feed :=
  { d with sink := d.sink.onto base }

namespace Coherent

variable {d : Delivery Feed}

/-- What is amended is in the feed. -/
theorem exists_amended (h : d.Coherent) {a : Action} {id : String} {change : Amendment}
    (hedit : (a.step d.host.ids.head d.state).edit = some (.amend id change)) :
    ∃ item ∈ d.sink.items, item.id = id := by
  have hheld : ∀ o, id ∈ d.state.held o → ∃ item ∈ d.sink.items, item.id = id := by
    intro o hmem
    obtain ⟨item, hitem, hid, -⟩ := h.held_fits o id hmem
    exact ⟨item, hitem, hid⟩
  cases Action.effect d.host.ids.head d.state a with
  | resets about state edit => cases edit.symm.trans hedit
  | rests held edit => cases edit.symm.trans hedit
  | notes body held edit => cases edit.symm.trans hedit
  | begins owner body about fits held edit => cases edit.symm.trans hedit
  | continues owner other change' about mem fits held edit =>
    cases edit.symm.trans hedit
    exact hheld owner mem
  | ends name other status result about head held edit =>
    cases edit.symm.trans hedit
    exact hheld (.call name) (List.mem_of_mem_head? head)

/-- **A message is not noticed by older items**, and they do not matter to it. -/
theorem message_onto (h : d.Coherent) (base : Feed) (m : WireMessage) :
    (d.onto base).message m = (d.message m).onto base := by
  rw [message_eq, message_eq, perform, perform, Delivery.take, Delivery.take, onto, onto]
  dsimp only
  rcases hedit : ((d.dispatcher.action d.state m).step d.host.ids.head d.state).edit with
    _ | (body | ⟨id, change⟩)
  · rfl
  · rfl
  · have hupdate := Feed.update_onto (h.exists_amended hedit) (·.amend change) base
    exact congrArg (fun sink => Delivery.mk _ _ sink _) hupdate

theorem deliverAll_onto (h : d.Coherent) (base : Feed) (payloads : List Json) :
    (d.onto base).deliverAll payloads = (d.deliverAll payloads).onto base := by
  induction payloads generalizing d with
  | nil => rfl
  | cons p rest ih =>
    have hfirst : (d.onto base).payload p = (d.payload p).onto base := h.message_onto base _
    calc (d.onto base).deliverAll (p :: rest) = ((d.onto base).payload p).deliverAll rest := rfl
      _ = ((d.payload p).onto base).deliverAll rest := by rw [hfirst]
      _ = (d.deliverAll (p :: rest)).onto base := ih (h.payload p)

/-- Forgetting everything leaves nothing that could be wrong. -/
theorem forgetAll (h : d.Coherent) : Coherent { d with state := .empty } where
  neverRepeats := h.neverRepeats
  issued := h.issued
  distinct := h.distinct
  held_nodup o := by simp
  held_owner o p id := by simp
  held_fits o := by simp

end Coherent

end Delivery

end AgentFeed
