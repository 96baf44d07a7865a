import AgentFeed.Proofs.Places

/-!
# One message, one change

A message reaches a feed by one of two dozen ways, and whichever it takes it does one thing at most:
it shows a new item at the end, or it gives one item another body of the same sort. `Feed.OneChange`
says what that leaves of a list of items, and `Coherent.oneChange_take` that a step does no more.

That a change finds one item only is because ids are distinct. That the item stays of its sort does
not depend on which item it is: to a body of the wrong sort an amendment does nothing.
-/

namespace AgentFeed

/-! ## 1. Sorts of bodies -/

/-- The sort of a body: what an item is as long as it exists. -/
inductive BodySort where
  /-- A message of an author. -/
  | message (role : Role)
  /-- Reasoning of a flavour. -/
  | reasoning (mode : ReasoningMode)
  /-- A tool call. -/
  | tool
  /-- A list of things to do. -/
  | todos
  /-- A line of a log. -/
  | log
  /-- An error. -/
  | error
  /-- A remark of the feed. -/
  | system
deriving DecidableEq

/-- The sort of a body. -/
def FeedBody.sort : FeedBody → BodySort
  | .message role _ => .message role
  | .reasoning mode _ => .reasoning mode
  | .tool _ _ _ _ => .tool
  | .todos _ => .todos
  | .log _ => .log
  | .error _ _ _ => .error
  | .system _ => .system

theorem ToolPatch.sort_apply (patch : ToolPatch) (body : FeedBody) :
    (patch.apply body).sort = body.sort := by
  cases body <;> rfl

theorem Amendment.sort_apply (change : Amendment) (body : FeedBody) :
    (change.apply body).sort = body.sort := by
  cases change with
  | text full => cases body <;> rfl
  | patch p => exact p.sort_apply body
  | finish status result => cases body <;> rfl

/-! ## 2. One change -/

namespace Feed

/-- All that one message can make of the items of a feed. -/
inductive OneChange (before after : List FeedItem) : Prop where
  /-- They are as they were. -/
  | none (same : after = before)
  /-- There is one more, behind the others. -/
  | appended (item : FeedItem) (last : after = before ++ [item])
  /-- One of them has another body of its sort, at its place and with its id and time. -/
  | amended (n : Nat) (item : FeedItem) (body : FeedBody) (there : before[n]? = some item)
      (differs : body ≠ item.body) (sort_eq : body.sort = item.body.sort)
      (only : after = before.set n { item with body })

/-- Where ids are distinct, amending an item is putting another item in its place. -/
theorem items_amend {f : Feed} (hids : f.ids.Nodup) {n : Nat} {item : FeedItem}
    (hitem : f.items[n]? = some item) (change : Amendment) :
    (f.update item.id (·.amend change)).items = f.items.set n (item.amend change) := by
  obtain ⟨hn, rfl⟩ := List.getElem?_eq_some_iff.1 hitem
  refine List.ext_getElem? fun m => ?_
  rw [items_update hids, List.getElem?_map, List.getElem?_set]
  by_cases hm : n = m
  · subst hm
    rw [if_pos rfl, if_pos hn, hitem, Option.map_some, if_pos rfl]
  · rw [if_neg hm]
    cases hother : f.items[m]? with
    | none => rfl
    | some other =>
      -- An item at another place has another id.
      have hne : other.id ≠ f.items[n].id := by
        intro heq
        obtain ⟨hlt, rfl⟩ := List.getElem?_eq_some_iff.1 hother
        have hsame : f.items[m] = f.items[n] :=
          List.inj_on_of_nodup_map hids (List.getElem_mem hlt) (List.getElem_mem hn) heq
        exact hm ((List.Nodup.of_map _ hids).getElem_inj_iff.1 hsame.symm)
      rw [Option.map_some, if_neg hne]

theorem oneChange_amend {f : Feed} (hids : f.ids.Nodup) (id : String) (change : Amendment) :
    OneChange f.items (f.update id (·.amend change)).items := by
  by_cases hmem : ∃ item ∈ f.items, item.id = id
  · obtain ⟨item, hitem, rfl⟩ := hmem
    obtain ⟨n, hn⟩ := List.mem_iff_getElem?.1 hitem
    have hitems := items_amend hids hn change
    by_cases hbody : change.apply item.body = item.body
    · have hsame : item.amend change = item := by
        rw [FeedItem.amend, hbody]
      refine .none (hitems.trans ?_)
      rw [hsame]
      obtain ⟨hlt, rfl⟩ := List.getElem?_eq_some_iff.1 hn
      exact List.set_getElem_self hlt
    · exact .amended n item _ hn hbody (change.sort_apply item.body) hitems
  · have habsent : ∀ item ∈ f.items, item.id ≠ id := fun item hitem heq => hmem ⟨item, hitem, heq⟩
    exact .none (by rw [update_eq_self habsent])

end Feed

namespace Delivery

/-- A step asks for one edit at most, and an edit is one change. -/
theorem Coherent.oneChange_take {d : Delivery Feed} (h : d.Coherent) (dispatcher : Dispatcher)
    (step : Step) : Feed.OneChange d.sink.items (d.take (dispatcher, step)).sink.items := by
  rcases hedit : step.edit with _ | (body | ⟨id, change⟩)
  · exact .none (by rw [sink_take_none dispatcher hedit])
  · refine .appended (d.host.newItem body).1 ?_
    rw [sink_take_append dispatcher hedit, Feed.items_append]
  · rw [sink_take_amend dispatcher hedit]
    exact Feed.oneChange_amend h.distinct id change

/-! ## 3. Every run -/

/-- **A message makes one change at most.** Whatever payloads were delivered to a thread that
started from nothing, with ids that do not repeat, one more of them leaves the feed as it is, or
shows one new item at the end, or gives one item another body of the same sort; and no two items of
the feed have one id. -/
theorem payload_makes_one_change (dispatcher : Dispatcher) (host : Host)
    (hids : host.ids.NeverRepeats) (payloads : List Json) (p : Json) :
    let before := replayInto dispatcher Feed.empty host payloads
    let after := before.payload p
    Feed.OneChange before.sink.items after.sink.items ∧ after.sink.ids.Nodup := by
  intro before after
  have hcoherent : before.Coherent := (coherent_start dispatcher hids).deliverAll payloads
  refine ⟨?_, (hcoherent.payload p).distinct⟩
  have hafter : after = before.perform (before.dispatcher.after (WireMessage.decode p))
      (before.dispatcher.action before.state (WireMessage.decode p)) := before.payload_eq p
  rw [hafter]
  exact hcoherent.oneChange_take _ _

/-- With four items under way, the end of the call from a log line changes the last of them and
nothing else. -/
theorem payload_makes_one_change_sample :
    (Supply.numbered "item").NeverRepeats ∧
      let before := replayInto {} Feed.empty
        { ids := .numbered "item", clock := .constant "now" } sampleTurn
      let after := before.payload (Traffic.logPayload "tool< grep \x7b\"ok\":false\x7d")
      before.sink.items.map (·.render) = ["[reasoning] hm", "[assistant] Hello",
        "[tool:running] tool 1", "[tool:running] grep 1"] ∧
      after.sink.items.map (·.render) = ["[reasoning] hm", "[assistant] Hello",
        "[tool:running] tool 1", "[tool:error] grep 1 -> \x7b\"ok\":false\x7d"] ∧
      Feed.OneChange before.sink.items after.sink.items ∧
      after.sink.ids = ["item-1", "item-2", "item-3", "item-4"] ∧ after.sink.ids.Nodup := by
  have hchange := payload_makes_one_change {}
    { ids := .numbered "item", clock := .constant "now" } (Supply.numbered_neverRepeats "item")
    sampleTurn (Traffic.logPayload "tool< grep \x7b\"ok\":false\x7d")
  exact ⟨Supply.numbered_neverRepeats "item", by decide +kernel, by decide +kernel, hchange.1,
    by decide +kernel, hchange.2⟩

end Delivery

end AgentFeed
