import AgentFeed.Proofs.Coherence

/-!
# Places in the feed

A plain feed only grows at its end, so an item stays at the place where it was appended, and what an
owner has shown can be followed by its place. `Delivery.Shows` says that the item of an owner is at
a place and has a body. An action about another owner leaves that alone
(`Coherent.shows_perform_of_ne`), which is what makes the history of an owner a matter of its own
messages.

`createdPlaces` lists where messages of a kind append items, and `firstPlace?` is where the first
message of a kind finds the end of the feed.
-/

namespace AgentFeed

/-! ## 1. Items by place -/

namespace Feed

theorem size_eq_length (f : Feed) : f.size = f.items.length := by
  rw [size, items, List.length_reverse]

theorem size_amend (f : Feed) (id : String) (change : FeedItem → FeedItem) :
    (f.update id change).size = f.size := by
  have hlength : ∀ items : List FeedItem, (updateFirst id change items).length = items.length := by
    intro items
    induction items with
    | nil => rfl
    | cons item rest ih =>
      rw [updateFirst]
      split
      · rfl
      · rw [List.length_cons, ih, List.length_cons]
  exact hlength f.newestFirst

theorem getElem?_append_self (f : Feed) (item : FeedItem) :
    (f.append item).items[f.size]? = some item := by
  rw [items_append, size_eq_length, List.getElem?_concat_length]

theorem getElem?_append_of_some {f : Feed} {n : Nat} {x : FeedItem} (h : f.items[n]? = some x)
    (item : FeedItem) : (f.append item).items[n]? = some x := by
  have hlt : n < f.items.length := (List.getElem?_eq_some_iff.1 h).1
  rw [items_append, List.getElem?_append_left hlt, h]

theorem getElem?_amend {f : Feed} (hids : f.ids.Nodup) {n : Nat} {x : FeedItem}
    (h : f.items[n]? = some x) (id : String) (change : Amendment) :
    (f.update id (·.amend change)).items[n]? = some (if x.id = id then x.amend change else x) := by
  rw [items_update hids, List.getElem?_map, h]
  rfl

end Feed

/-! ## 2. What an owner shows -/

/-- How many items a step appends. -/
def Step.growth (step : Step) : Nat :=
  match step.edit with
  | some (.append _) => 1
  | _ => 0

namespace Delivery

/-- The item of an owner is at a place of the feed, and has a body. -/
def Shows (d : Delivery Feed) (o : Owner) (n : Nat) (body : FeedBody) : Prop :=
  ∃ item, d.sink.items[n]? = some item ∧ item.body = body ∧ d.state.held o = [item.id]

theorem size_take (d : Delivery Feed) (dispatcher : Dispatcher) (step : Step) :
    (d.take (dispatcher, step)).sink.size = d.sink.size + step.growth := by
  rw [take, Step.growth]
  rcases step.edit with _ | (body | ⟨id, change⟩)
  · rfl
  · rfl
  · exact Feed.size_amend _ _ _

/-- An owner that is given the fresh item shows it at the end. -/
theorem shows_take_append (d : Delivery Feed) (dispatcher : Dispatcher) {step : Step} {o : Owner}
    {body : FeedBody} (hedit : step.edit = some (.append body))
    (hheld : step.state.held o = [d.host.ids.head]) :
    (d.take (dispatcher, step)).Shows o d.sink.size body := by
  refine ⟨(d.host.newItem body).1, ?_, rfl, hheld⟩
  rw [sink_take_append dispatcher hedit]
  exact d.sink.getElem?_append_self _

/-- What is held was held before, or is the fresh item. -/
theorem mem_held_perform {d : Delivery Feed} {dispatcher : Dispatcher} {a : Action} {o : Owner}
    {id : String} (h : id ∈ (d.perform dispatcher a).state.held o) :
    id ∈ d.state.held o ∨ id = d.host.ids.head := by
  rw [perform, take] at h
  cases Action.effect d.host.ids.head d.state a with
  | resets _ hstate _ =>
    rw [hstate, Accumulation.held_empty] at h
    exact absurd h List.not_mem_nil
  | rests hheld _ => exact .inl (hheld o ▸ h)
  | notes _ hheld _ => exact .inl (hheld o ▸ h)
  | begins owner _ _ _ hheld _ =>
    rw [hheld] at h
    split at h
    · exact (List.mem_append.1 h).imp_right List.mem_singleton.1
    · exact .inl h
  | continues _ _ _ _ _ _ hheld _ => exact .inl (hheld o ▸ h)
  | ends name _ _ _ _ _ hheld _ =>
    rw [hheld] at h
    split at h
    · exact .inl (List.mem_of_mem_tail h)
    · exact .inl h

/-- What is held for an owner is a matter of the actions about it, and of resets. -/
theorem held_perform_of_ne (d : Delivery Feed) (dispatcher : Dispatcher) {o : Owner} {a : Action}
    (hreset : a.isReset = false) (hother : a.owner? ≠ some o) :
    (d.perform dispatcher a).state.held o = d.state.held o := by
  have hown : ∀ p : Owner, a.owner? = some p → o ≠ p := by
    rintro p habout rfl
    exact hother habout
  cases Action.effect d.host.ids.head d.state a with
  | resets about =>
    rw [about] at hreset
    exact absurd hreset (by decide)
  | rests hheld _ => exact hheld o
  | notes _ hheld _ => exact hheld o
  | begins owner _ habout _ hheld _ => exact (hheld o).trans (if_neg (hown owner habout))
  | continues _ _ _ _ _ _ hheld _ => exact hheld o
  | ends name _ _ _ habout _ hheld _ => exact (hheld o).trans (if_neg (hown _ habout))

namespace Coherent

variable {d : Delivery Feed} {o : Owner} {n : Nat} {body : FeedBody}

/-- An owner whose item is amended shows the amended body. -/
theorem shows_take_amend (h : d.Coherent) (hshows : d.Shows o n body) (dispatcher : Dispatcher)
    {step : Step} {id : String} {change : Amendment}
    (hedit : step.edit = some (.amend id change)) (hmem : id ∈ d.state.held o)
    (hheld : step.state.held o = d.state.held o) :
    (d.take (dispatcher, step)).Shows o n (change.apply body) := by
  obtain ⟨item, hitem, hbody, hown⟩ := hshows
  have hid : item.id = id := by
    rw [hown, List.mem_singleton] at hmem
    exact hmem.symm
  refine ⟨item.amend change, ?_, ?_, ?_⟩
  · rw [sink_take_amend dispatcher hedit, Feed.getElem?_amend h.distinct hitem, if_pos hid]
  · rw [Feed.amend_body, hbody]
  · rw [Feed.amend_id, ← hown]
    exact hheld

/-- An item that is not held for the owner an action is about stays as it is. -/
theorem item_stays (h : d.Coherent) (dispatcher : Dispatcher) {a : Action} {m : Nat}
    {item : FeedItem} (hitem : d.sink.items[m]? = some item)
    (hfree : ∀ p, a.owner? = some p → item.id ∉ d.state.held p) :
    (d.perform dispatcher a).sink.items[m]? = some item := by
  have hamend : ∀ (p : Owner) (id : String) (change : Amendment), a.owner? = some p →
      id ∈ d.state.held p → (a.step d.host.ids.head d.state).edit = some (.amend id change) →
      (d.perform dispatcher a).sink.items[m]? = some item := by
    intro p id change habout hmem hedit
    have hne : item.id ≠ id := fun heq => hfree p habout (heq ▸ hmem)
    rw [perform, sink_take_amend dispatcher hedit, Feed.getElem?_amend h.distinct hitem,
      if_neg hne]
  cases Action.effect d.host.ids.head d.state a with
  | resets _ _ hedit =>
    rw [perform, sink_take_none dispatcher hedit, hitem]
  | rests _ hedit =>
    rw [perform, sink_take_none dispatcher hedit, hitem]
  | notes _ _ hedit =>
    rw [perform, sink_take_append dispatcher hedit]
    exact Feed.getElem?_append_of_some hitem _
  | begins _ _ _ _ _ hedit =>
    rw [perform, sink_take_append dispatcher hedit]
    exact Feed.getElem?_append_of_some hitem _
  | continues owner id change habout hmem _ _ hedit =>
    exact hamend owner id change habout hmem hedit
  | ends name id status result habout hhead _ hedit =>
    exact hamend (.call name) id _ habout (List.mem_of_mem_head? hhead) hedit

/-- **Frame.** An action about something else leaves alone what an owner shows. -/
theorem shows_perform_of_ne (h : d.Coherent) (hshows : d.Shows o n body) (dispatcher : Dispatcher)
    {a : Action} (hreset : a.isReset = false) (hother : a.owner? ≠ some o) :
    (d.perform dispatcher a).Shows o n body := by
  obtain ⟨item, hitem, hbody, hown⟩ := hshows
  have hmine : item.id ∈ d.state.held o := hown ▸ List.mem_singleton_self _
  refine ⟨item, h.item_stays dispatcher hitem fun p habout hmem => ?_, hbody,
    (d.held_perform_of_ne dispatcher hreset hother).trans hown⟩
  -- No item is held for two owners.
  exact hother (habout.trans (congrArg some (h.held_owner p o _ hmem hmine)))

/-- An item that is held for nobody stays as it is, and is held for nobody. -/
theorem unheld_perform (h : d.Coherent) (dispatcher : Dispatcher) (a : Action) {m : Nat}
    {item : FeedItem} (hitem : d.sink.items[m]? = some item)
    (hfree : ∀ p, item.id ∉ d.state.held p) :
    (d.perform dispatcher a).sink.items[m]? = some item ∧
      ∀ p, item.id ∉ (d.perform dispatcher a).state.held p := by
  refine ⟨h.item_stays dispatcher hitem fun p _ => hfree p, fun p hmem => ?_⟩
  rcases mem_held_perform hmem with hbefore | hfresh
  · exact hfree p hbefore
  · have hissued := h.issued _ (List.mem_map_of_mem (List.mem_of_getElem? hitem))
    exact h.neverRepeats.not_issued_head (hfresh ▸ hissued)

/-- An item that is held for nobody lies still, whatever comes. -/
theorem unheld_deliverAll (h : d.Coherent) {m : Nat} {item : FeedItem}
    (hitem : d.sink.items[m]? = some item) (hfree : ∀ p, item.id ∉ d.state.held p)
    (payloads : List Json) : (d.deliverAll payloads).sink.items[m]? = some item ∧
      ∀ p, item.id ∉ (d.deliverAll payloads).state.held p := by
  induction payloads generalizing d with
  | nil => exact ⟨hitem, hfree⟩
  | cons q rest ih =>
    obtain ⟨hstays, hunheld⟩ := h.unheld_perform (d.dispatcher.after (WireMessage.decode q))
      (d.dispatcher.action d.state (WireMessage.decode q)) hitem hfree
    rw [← payload_eq] at hstays hunheld
    exact ih (h.payload q) hstays hunheld

/-- An item lies still while messages are about other owners, and for good once they reset. -/
theorem item_deliverAll (h : d.Coherent) {m : Nat} {item : FeedItem}
    (hitem : d.sink.items[m]? = some item) (hmine : item.id ∈ d.state.held o)
    {payloads : List Json}
    (hother : ∀ p ∈ payloads.takeWhile fun p => !Traffic.resets p, ∀ (dispatcher : Dispatcher) s,
      (dispatcher.action s (WireMessage.decode p)).owner? ≠ some o) :
    (d.deliverAll payloads).sink.items[m]? = some item := by
  induction payloads generalizing d with
  | nil => exact hitem
  | cons q rest ih =>
    cases hreset : Traffic.resets q with
    | true =>
      have hitem' : (d.payload q).sink.items[m]? = some item := by
        rw [d.payload_of_resets hreset]
        exact hitem
      have hfree : ∀ p, item.id ∉ (d.payload q).state.held p := fun p => by
        rw [d.state_payload_of_resets hreset, Accumulation.held_empty]
        exact List.not_mem_nil
      exact ((h.payload q).unheld_deliverAll hitem' hfree rest).1
    | false =>
      rw [List.takeWhile_cons_of_pos (by rw [hreset]; rfl), List.forall_mem_cons] at hother
      have habout := hother.1 d.dispatcher d.state
      refine ih (h.payload q) ?_ ?_ hother.2
      · rw [payload_eq]
        refine h.item_stays _ hitem fun p hp hmem => habout ?_
        rw [hp, h.held_owner o p _ hmine hmem]
      · rw [payload_eq, held_perform_of_ne _ _ _ habout]
        · exact hmine
        · exact (d.dispatcher.isReset_action d.state _).trans hreset

end Coherent

/-! ## 3. Where messages of a kind append -/

/-- The places of the items that messages of a kind append. -/
def createdPlaces (about : Json → Bool) : Delivery Feed → List Json → List Nat
  | _, [] => []
  | d, p :: rest =>
    if about p ∧ d.sink.size < (d.payload p).sink.size then
      d.sink.size :: createdPlaces about (d.payload p) rest
    else createdPlaces about (d.payload p) rest

/-- The end of the feed when the first message of a kind arrives. -/
def firstPlace? (about : Json → Bool) : Delivery Feed → List Json → Option Nat
  | _, [] => none
  | d, p :: rest => if about p then some d.sink.size else firstPlace? about (d.payload p) rest

section Appending

variable {about : Json → Bool} {d : Delivery Feed} {p : Json}

theorem createdPlaces_cons_of_other (h : about p = false)
    (payloads : List Json) :
    createdPlaces about d (p :: payloads) = createdPlaces about (d.payload p) payloads := by
  rw [createdPlaces, if_neg]
  rw [h]
  exact fun hand => Bool.noConfusion hand.1

theorem createdPlaces_cons_of_same (h : (d.payload p).sink.size = d.sink.size)
    (payloads : List Json) :
    createdPlaces about d (p :: payloads) = createdPlaces about (d.payload p) payloads := by
  rw [createdPlaces, if_neg]
  rw [h]
  exact fun hand => Nat.lt_irrefl _ hand.2

theorem createdPlaces_cons_of_grown (habout : about p = true)
    (h : (d.payload p).sink.size = d.sink.size + 1) (payloads : List Json) :
    createdPlaces about d (p :: payloads)
      = d.sink.size :: createdPlaces about (d.payload p) payloads := by
  rw [createdPlaces, if_pos]
  rw [h]
  exact ⟨habout, Nat.lt_succ_self _⟩

theorem createdPlaces_append (about : Json → Bool) (d : Delivery Feed)
    (first second : List Json) :
    createdPlaces about d (first ++ second)
      = createdPlaces about d first ++ createdPlaces about (d.deliverAll first) second := by
  induction first generalizing d with
  | nil => rfl
  | cons p rest ih =>
    rw [List.cons_append, createdPlaces, createdPlaces, ih]
    split <;> rfl

/-- The first message of a kind, or the next payload if that is the first. -/
theorem firstPlace?_concat (about : Json → Bool) (d : Delivery Feed) (payloads : List Json)
    (p : Json) :
    firstPlace? about d (payloads ++ [p])
      = (firstPlace? about d payloads).or
          (if about p then some (d.deliverAll payloads).sink.size else none) := by
  induction payloads generalizing d with
  | nil => rfl
  | cons q rest ih =>
    rw [List.cons_append, firstPlace?, firstPlace?, ih]
    cases about q <;> rfl

end Appending

theorem firstPlace?_eq_none_iff {about : Json → Bool} {d : Delivery Feed} {payloads : List Json} :
    firstPlace? about d payloads = none ↔ ∀ p ∈ payloads, about p = false := by
  induction payloads generalizing d with
  | nil => simp [firstPlace?]
  | cons p rest ih =>
    rw [firstPlace?, List.forall_mem_cons]
    cases hp : about p with
    | true => simp
    | false =>
      rw [if_neg (by simp), ih]
      exact (and_iff_right rfl).symm

end Delivery

end AgentFeed
