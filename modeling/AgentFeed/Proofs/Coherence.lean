import AgentFeed.Proofs.Bookkeeping
import Mathlib.Data.List.Nodup

/-!
# Coherence of state and feed

The accumulation state is an index into a feed it does not own. `Delivery.Coherent` says that index
and feed agree: the ids of the feed are distinct and were all taken from the source of ids, no item
is held for two owners or twice for one, and an item that is held for an owner is in the feed and
has a body of the owner's sort. One step keeps this (`Coherent.take`), by the six cases of `Effect`,
and so does a run (`Coherent.deliverAll`).

The last section puts this together with the agreement of the tables among one another, for every
run that starts from nothing.
-/

namespace AgentFeed

/-! ## 1. Ids that were taken -/

namespace Supply

/-- The text was taken from the sequence. -/
def Issued (s : Supply) (text : String) : Prop :=
  ∃ i, i < s.taken ∧ s.nth i = text

theorem issued_tail {s : Supply} {text : String} (h : s.Issued text) : s.tail.Issued text := by
  obtain ⟨i, hi, hnth⟩ := h
  exact ⟨i, Nat.lt_succ_of_lt hi, hnth⟩

theorem issued_head (s : Supply) : s.tail.Issued s.head :=
  ⟨s.taken, Nat.lt_succ_self _, rfl⟩

theorem NeverRepeats.not_issued_head {s : Supply} (h : s.NeverRepeats) : ¬s.Issued s.head := by
  rintro ⟨i, hi, hnth⟩
  have heq : i = s.taken := h i s.taken hnth
  omega

/-- Numbers tell the texts of a stem apart. -/
theorem numbered_neverRepeats (stem : String) : (numbered stem).NeverRepeats := by
  intro i j h
  have hlist := congrArg String.toList h
  simp only [numbered, String.toList_append, List.append_assoc, List.append_cancel_left_eq,
    Nat.toString_eq_repr, Nat.toList_repr] at hlist
  have hnumber := congrArg (Nat.ofDigitChars 10 · 0) hlist
  simp only [Nat.ofDigitChars_toDigits (b := 10) (by decide) (by decide)] at hnumber
  omega

theorem NeverRepeats.tail {s : Supply} (h : s.NeverRepeats) : s.tail.NeverRepeats := h

end Supply

/-! ## 2. Feeds -/

namespace Feed

/-- The ids of the items, oldest first. -/
def ids (f : Feed) : List String :=
  f.items.map (·.id)

/-- Some item has the id, and a body with the property. -/
def Names (f : Feed) (id : String) (P : FeedBody → Prop) : Prop :=
  ∃ item ∈ f.items, item.id = id ∧ P item.body

@[simp] theorem amend_id (item : FeedItem) (change : Amendment) :
    (item.amend change).id = item.id := rfl

@[simp] theorem amend_body (item : FeedItem) (change : Amendment) :
    (item.amend change).body = change.apply item.body := rfl

/-- Where ids are distinct, the last item of an id is the only one. -/
theorem updateFirst_eq_map {id : String} {change : FeedItem → FeedItem} {items : List FeedItem}
    (h : (items.map (·.id)).Nodup) :
    updateFirst id change items = items.map fun x => if x.id = id then change x else x := by
  induction items with
  | nil => rfl
  | cons item rest ih =>
    rw [List.map_cons, List.nodup_cons] at h
    rw [updateFirst, List.map_cons]
    by_cases hid : item.id = id
    · rw [if_pos hid, if_pos hid]
      have hrest : ∀ x ∈ rest, x.id ≠ id :=
        fun x hx heq => h.1 (List.mem_map.2 ⟨x, hx, heq.trans hid.symm⟩)
      congr 1
      calc rest = rest.map (fun x => x) := (List.map_id rest).symm
        _ = rest.map fun x => if x.id = id then change x else x :=
          List.map_congr_left fun x hx => (if_neg (hrest x hx)).symm
    · rw [if_neg hid, if_neg hid, ih h.2]

theorem items_update {f : Feed} (h : f.ids.Nodup) (id : String) (change : FeedItem → FeedItem) :
    (f.update id change).items = f.items.map fun x => if x.id = id then change x else x := by
  have hnewest : (f.newestFirst.map (·.id)).Nodup := by
    have hids : f.ids = (f.newestFirst.map (·.id)).reverse := by
      rw [ids, items, List.map_reverse]
    rw [hids, List.nodup_reverse] at h
    exact h
  rw [items, update, updateFirst_eq_map hnewest, items, List.map_reverse]

theorem ids_append (f : Feed) (item : FeedItem) : (f.append item).ids = f.ids ++ [item.id] := by
  rw [ids, items_append, List.map_append]
  rfl

theorem ids_amend {f : Feed} (h : f.ids.Nodup) (id : String) (change : Amendment) :
    (f.update id (·.amend change)).ids = f.ids := by
  rw [ids, items_update h, List.map_map]
  refine List.map_congr_left fun x _ => ?_
  simp only [Function.comp_apply]
  split <;> rfl

theorem Names.append {f : Feed} {id : String} {P : FeedBody → Prop} (h : f.Names id P)
    (item : FeedItem) : (f.append item).Names id P := by
  obtain ⟨x, hx, hid, hP⟩ := h
  refine ⟨x, ?_, hid, hP⟩
  rw [items_append]
  exact List.mem_append_left _ hx

theorem names_append_self (f : Feed) (item : FeedItem) {P : FeedBody → Prop} (h : P item.body) :
    (f.append item).Names item.id P := by
  refine ⟨item, ?_, rfl, h⟩
  rw [items_append]
  exact List.mem_append_right _ (List.mem_singleton_self item)

/-- An amendment is noticed only by those who look at the amended item. -/
theorem Names.amend {f : Feed} {id : String} {P : FeedBody → Prop} (h : f.Names id P)
    (hids : f.ids.Nodup) (other : String) (change : Amendment)
    (hchange : id = other → ∀ body, P body → P (change.apply body)) :
    (f.update other (·.amend change)).Names id P := by
  obtain ⟨x, hx, hid, hP⟩ := h
  rw [Names, items_update hids]
  refine ⟨_, List.mem_map_of_mem hx, ?_⟩
  by_cases hother : x.id = other
  · rw [if_pos hother]
    exact ⟨hid, hchange (hid.symm.trans hother) _ hP⟩
  · rw [if_neg hother]
    exact ⟨hid, hP⟩

/-- Where ids are distinct, a name is the name of exactly one item. -/
theorem Names.filter_eq {f : Feed} {id : String} {P : FeedBody → Prop} (h : f.Names id P)
    (hids : f.ids.Nodup) : ∃ item, f.items.filter (·.id = id) = [item] ∧ P item.body := by
  obtain ⟨item, hmem, hid, hP⟩ := h
  refine ⟨item, ?_, hP⟩
  obtain ⟨before, after, hitems⟩ := List.append_of_mem hmem
  rw [ids, hitems, List.map_append, List.map_cons, List.nodup_middle, List.nodup_cons,
    ← List.map_append] at hids
  have hother : ∀ x ∈ before ++ after, ¬x.id = id :=
    fun x hx heq => hids.1 (List.mem_map.2 ⟨x, hx, heq.trans hid.symm⟩)
  have hnone : ∀ {part : List FeedItem}, (∀ x ∈ part, x ∈ before ++ after) →
      part.filter (·.id = id) = [] := by
    intro part hpart
    rw [List.filter_eq_nil_iff]
    intro x hx
    simpa using hother x (hpart x hx)
  rw [hitems, List.filter_append, List.filter_cons_of_pos (by simpa using hid),
    hnone fun x hx => List.mem_append_left _ hx, hnone fun x hx => List.mem_append_right _ hx]
  rfl

end Feed

/-! ## 3. Coherence -/

namespace Delivery

/-- The thread after an action. -/
def perform {σ : Type} [FeedSink σ] (d : Delivery σ) (dispatcher : Dispatcher) (a : Action) :
    Delivery σ :=
  d.take (dispatcher, a.step d.host.ids.head d.state)

theorem message_eq {σ : Type} [FeedSink σ] (d : Delivery σ) (m : WireMessage) :
    d.message m = d.perform (d.dispatcher.after m) (d.dispatcher.action d.state m) := by
  rw [message, Dispatcher.apply_eq]
  rfl

/-- The thread after an item was shown that is not looked at again. -/
def noted {σ : Type} [FeedSink σ] (d : Delivery σ) (body : FeedBody) : Delivery σ :=
  { d with
    sink := FeedSink.append d.sink (d.host.newItem body).1
    host := (d.host.newItem body).2 }

theorem perform_idle {σ : Type} [FeedSink σ] (d : Delivery σ) (dispatcher : Dispatcher) :
    d.perform dispatcher .idle = { d with dispatcher } := by
  simp only [perform, take, Action.step, FeedSink.edit, Host.announce, Option.toList_none,
    List.append_nil]

theorem perform_note {σ : Type} [FeedSink σ] (d : Delivery σ) (dispatcher : Dispatcher)
    (body : FeedBody) : d.perform dispatcher (.note body) = { d.noted body with dispatcher } := by
  simp only [perform, take, Action.step, FeedSink.edit, Host.announce, Option.toList_none,
    List.append_nil]
  rfl

variable {d : Delivery Feed} {step : Step}

theorem sink_take_none (dispatcher : Dispatcher) (hedit : step.edit = none) :
    (d.take (dispatcher, step)).sink = d.sink := by
  simp only [take, hedit, FeedSink.edit]

theorem sink_take_append (dispatcher : Dispatcher) {body : FeedBody}
    (hedit : step.edit = some (.append body)) :
    (d.take (dispatcher, step)).sink = d.sink.append (d.host.newItem body).1 := by
  simp only [take, hedit, FeedSink.edit]
  rfl

theorem sink_take_amend (dispatcher : Dispatcher) {id : String} {change : Amendment}
    (hedit : step.edit = some (.amend id change)) :
    (d.take (dispatcher, step)).sink = d.sink.update id (·.amend change) := by
  simp only [take, hedit, FeedSink.edit]
  rfl

theorem ids_take_none (dispatcher : Dispatcher) (hedit : step.edit = none) :
    (d.take (dispatcher, step)).host.ids = d.host.ids := by
  simp only [take, hedit, FeedSink.edit, Host.announce]

theorem ids_take_append (dispatcher : Dispatcher) {body : FeedBody}
    (hedit : step.edit = some (.append body)) :
    (d.take (dispatcher, step)).host.ids = d.host.ids.tail := by
  simp only [take, hedit, FeedSink.edit, Host.announce, Host.newItem]

theorem ids_take_amend (dispatcher : Dispatcher) {id : String} {change : Amendment}
    (hedit : step.edit = some (.amend id change)) :
    (d.take (dispatcher, step)).host.ids = d.host.ids := by
  simp only [take, hedit, FeedSink.edit, Host.announce]

/-- The state is an index of the feed. -/
structure Coherent (d : Delivery Feed) : Prop where
  /-- Ids to come are new. -/
  neverRepeats : d.host.ids.NeverRepeats
  /-- Ids in the feed are not to come. -/
  issued : ∀ id ∈ d.sink.ids, d.host.ids.Issued id
  /-- No two items have one id. -/
  distinct : d.sink.ids.Nodup
  /-- No item is held twice for one owner. -/
  held_nodup : ∀ o, (d.state.held o).Nodup
  /-- No item is held for two owners. -/
  held_owner : ∀ o p id, id ∈ d.state.held o → id ∈ d.state.held p → o = p
  /-- An item that is held is in the feed, and is of its owner's sort. -/
  held_fits : ∀ o, ∀ id ∈ d.state.held o, d.sink.Names id o.Fits

theorem coherent_start (dispatcher : Dispatcher) {host : Host} (h : host.ids.NeverRepeats) :
    Coherent { dispatcher, state := .empty, sink := Feed.empty, host } where
  neverRepeats := h
  issued := by simp [Feed.ids]
  distinct := List.nodup_nil
  held_nodup o := by simp
  held_owner o p id := by simp
  held_fits o := by simp

namespace Coherent

theorem held_issued (h : d.Coherent) {o : Owner} {id : String} (hmem : id ∈ d.state.held o) :
    d.host.ids.Issued id := by
  obtain ⟨item, hitem, rfl, -⟩ := h.held_fits o id hmem
  exact h.issued _ (List.mem_map_of_mem hitem)

theorem head_not_held (h : d.Coherent) (o : Owner) : d.host.ids.head ∉ d.state.held o :=
  fun hmem => h.neverRepeats.not_issued_head (h.held_issued hmem)

/-- A thread that holds less, and no other item, is as coherent. -/
private theorem forget (h : d.Coherent) (d' : Delivery Feed) (hsink : d'.sink = d.sink)
    (hids : d'.host.ids = d.host.ids)
    (hheld : ∀ o, List.Sublist (d'.state.held o) (d.state.held o)) : d'.Coherent where
  neverRepeats := hids ▸ h.neverRepeats
  issued := by
    rw [hsink, hids]
    exact h.issued
  distinct := hsink ▸ h.distinct
  held_nodup o := (hheld o).nodup (h.held_nodup o)
  held_owner o p id ho hp := h.held_owner o p id ((hheld o).subset ho) ((hheld p).subset hp)
  held_fits o id ho := hsink ▸ h.held_fits o id ((hheld o).subset ho)

/-- A new item is shown; it may be remembered for an owner of its sort. -/
private theorem grow (h : d.Coherent) (d' : Delivery Feed) (item : FeedItem)
    (hitem : item.id = d.host.ids.head) (hsink : d'.sink = d.sink.append item)
    (hids : d'.host.ids = d.host.ids.tail)
    (hheld : ∀ o, d'.state.held o = d.state.held o ∨
      o.Fits item.body ∧ d'.state.held o = d.state.held o ++ [item.id])
    (hone : ∀ o p, item.id ∈ d'.state.held o → item.id ∈ d'.state.held p → o = p) :
    d'.Coherent := by
  have hfresh : ∀ o, item.id ∉ d.state.held o := fun o => hitem ▸ h.head_not_held o
  -- What is held afterwards is what was held before, or the new item.
  have hcases : ∀ o id, id ∈ d'.state.held o →
      id ∈ d.state.held o ∨ id = item.id ∧ o.Fits item.body := by
    intro o id hmem
    rcases hheld o with heq | ⟨hfits, heq⟩
    · exact .inl (heq ▸ hmem)
    · rw [heq, List.mem_append, List.mem_singleton] at hmem
      exact hmem.imp_right (⟨·, hfits⟩)
  constructor
  · rw [hids]
    exact h.neverRepeats.tail
  · intro id hid
    rw [hsink, Feed.ids_append, List.mem_append, List.mem_singleton] at hid
    rw [hids]
    rcases hid with hid | rfl
    · exact Supply.issued_tail (h.issued id hid)
    · rw [hitem]
      exact d.host.ids.issued_head
  · rw [hsink, Feed.ids_append, List.nodup_append]
    refine ⟨h.distinct, List.nodup_singleton _, ?_⟩
    intro a ha b hb heq
    rw [List.mem_singleton.1 hb, hitem] at heq
    exact h.neverRepeats.not_issued_head (heq ▸ h.issued a ha)
  · intro o
    rcases hheld o with heq | ⟨-, heq⟩
    · rw [heq]
      exact h.held_nodup o
    · rw [heq, List.nodup_append]
      refine ⟨h.held_nodup o, List.nodup_singleton _, ?_⟩
      intro a ha b hb heq
      rw [List.mem_singleton.1 hb] at heq
      exact hfresh o (heq ▸ ha)
  · intro o p id ho hp
    rcases hcases o id ho with ho' | ⟨rfl, -⟩
    · rcases hcases p id hp with hp' | ⟨rfl, -⟩
      · exact h.held_owner o p id ho' hp'
      · exact absurd ho' (hfresh o)
    · exact hone o p ho hp
  · intro o id ho
    rw [hsink]
    rcases hcases o id ho with ho' | ⟨rfl, hfits⟩
    · exact (h.held_fits o id ho').append item
    · exact d.sink.names_append_self item hfits

/-- An item that is held for an owner is amended; it may be forgotten, and if not it keeps its
sort. -/
private theorem amend (h : d.Coherent) (d' : Delivery Feed) {owner : Owner} {id : String}
    (change : Amendment) (hmem : id ∈ d.state.held owner)
    (hsink : d'.sink = d.sink.update id (·.amend change)) (hids : d'.host.ids = d.host.ids)
    (hheld : ∀ o, List.Sublist (d'.state.held o) (d.state.held o))
    (hfits : id ∈ d'.state.held owner → ∀ body, owner.Fits body → owner.Fits (change.apply body)) :
    d'.Coherent := by
  constructor
  · exact hids ▸ h.neverRepeats
  · rw [hsink, Feed.ids_amend h.distinct, hids]
    exact h.issued
  · rw [hsink, Feed.ids_amend h.distinct]
    exact h.distinct
  · exact fun o => (hheld o).nodup (h.held_nodup o)
  · exact fun o p x ho hp => h.held_owner o p x ((hheld o).subset ho) ((hheld p).subset hp)
  · intro o x hx
    rw [hsink]
    refine (h.held_fits o x ((hheld o).subset hx)).amend h.distinct id change ?_
    rintro rfl
    have howner := h.held_owner o owner x ((hheld o).subset hx) hmem
    subst howner
    exact hfits hx

/-- **One step keeps state and feed coherent.** -/
theorem take (h : d.Coherent) (dispatcher : Dispatcher) {a : Action}
    (heffect : Effect d.host.ids.head d.state a step) : (d.take (dispatcher, step)).Coherent := by
  cases heffect with
  | resets _ hstate hedit =>
    refine h.forget _ (sink_take_none _ hedit) (ids_take_none _ hedit) fun o => ?_
    simp only [Delivery.take, hstate, Accumulation.held_empty]
    exact List.nil_sublist _
  | rests hheld hedit =>
    refine h.forget _ (sink_take_none _ hedit) (ids_take_none _ hedit) fun o => ?_
    rw [← hheld o]
    exact List.Sublist.refl _
  | notes body hheld hedit =>
    refine h.grow _ (d.host.newItem body).1 rfl (sink_take_append _ hedit)
      (ids_take_append _ hedit) (fun o => .inl (hheld o)) fun o p ho => ?_
    have ho' : d.host.ids.head ∈ d.state.held o := hheld o ▸ ho
    exact absurd ho' (h.head_not_held o)
  | begins owner body _ hfits hheld hedit =>
    have hheld' : ∀ o, o ≠ owner → step.state.held o = d.state.held o :=
      fun o hne => (hheld o).trans (if_neg hne)
    refine h.grow _ (d.host.newItem body).1 rfl (sink_take_append _ hedit)
      (ids_take_append _ hedit) ?_ ?_
    · intro o
      by_cases ho : o = owner
      · rw [ho]
        exact .inr ⟨hfits, (hheld owner).trans (if_pos rfl)⟩
      · exact .inl (hheld' o ho)
    · -- Only the owner can have got the fresh id.
      have hone : ∀ o, d.host.ids.head ∈ step.state.held o → o = owner := by
        intro o ho
        by_contra hne
        rw [hheld' o hne] at ho
        exact h.head_not_held o ho
      exact fun o p ho hp => (hone o ho).trans (hone p hp).symm
  | continues owner id change _ hmem hfits hheld hedit =>
    refine h.amend _ change hmem (sink_take_amend _ hedit) (ids_take_amend _ hedit)
      (fun o => ?_) fun _ => hfits
    rw [← hheld o]
    exact List.Sublist.refl _
  | ends name id status result _ hhead hheld hedit =>
    have hmem : id ∈ d.state.held (.call name) := List.mem_of_mem_head? hhead
    refine h.amend _ (.finish status result) hmem (sink_take_amend _ hedit)
      (ids_take_amend _ hedit) (fun o => ?_) fun hstill => ?_
    · have hstate : (d.take (dispatcher, step)).state.held o = step.state.held o := rfl
      rw [hstate, hheld o]
      split
      · exact List.tail_sublist _
      · exact List.Sublist.refl _
    · -- The call was held once, so it is not held any more.
      have hstill' : id ∈ (d.state.held (.call name)).tail := by
        have heq := hheld (.call name)
        rw [if_pos rfl] at heq
        exact heq ▸ hstill
      obtain ⟨rest, hrest⟩ := List.head?_eq_some_iff.1 hhead
      have hnodup := h.held_nodup (.call name)
      rw [hrest] at hnodup hstill'
      exact absurd hstill' (List.nodup_cons.1 hnodup).1

theorem message (h : d.Coherent) (m : WireMessage) : (d.message m).Coherent := by
  rw [message_eq]
  exact h.take _ (Action.effect _ _ _)

theorem payload (h : d.Coherent) (p : Json) : (d.payload p).Coherent :=
  h.message _

theorem deliverAll (h : d.Coherent) (payloads : List Json) : (d.deliverAll payloads).Coherent := by
  induction payloads generalizing d with
  | nil => exact h
  | cons p rest ih => exact ih (h.payload p)

end Coherent

end Delivery

/-! ## 4. Every run -/

namespace Delivery

variable {σ : Type} [FeedSink σ]

theorem state_payload (d : Delivery σ) (p : Json) :
    (d.payload p).state = ((d.dispatcher.action d.state (WireMessage.decode p)).step
      d.host.ids.head d.state).state := by
  rw [payload, message_eq]
  rfl

theorem payload_eq (d : Delivery σ) (p : Json) :
    d.payload p = d.perform (d.dispatcher.after (WireMessage.decode p))
      (d.dispatcher.action d.state (WireMessage.decode p)) :=
  d.message_eq _

/-- What is announced is what the action announces. -/
theorem announced_perform (d : Delivery σ) (dispatcher : Dispatcher) (a : Action) :
    (d.perform dispatcher a).host.announced
      = d.host.announced ++ (a.step d.host.ids.head d.state).settled.toList := by
  rw [perform]
  generalize a.step d.host.ids.head d.state = step
  rcases hedit : step.edit with _ | (body | ⟨id, change⟩)
  · simp only [take, hedit, FeedSink.edit, Host.announce]
  · simp only [take, hedit, FeedSink.edit, Host.announce, Host.newItem]
  · simp only [take, hedit, FeedSink.edit, Host.announce]

theorem announced_payload (d : Delivery σ) (p : Json) :
    (d.payload p).host.announced = d.host.announced
      ++ ((d.dispatcher.action d.state (WireMessage.decode p)).step
        d.host.ids.head d.state).settled.toList := by
  rw [payload_eq, announced_perform]

/-- A payload that resets makes a thread forget, and does nothing else to it. -/
theorem payload_of_resets (d : Delivery σ) {p : Json} (h : Traffic.resets p = true) :
    d.payload p = { d with state := .empty } := by
  have hafter : d.dispatcher.after (WireMessage.decode p) = d.dispatcher :=
    d.dispatcher.after_of_resets h
  have haction : d.dispatcher.action d.state (WireMessage.decode p) = .reset := by
    rw [Traffic.resets, ← d.dispatcher.isReset_action d.state] at h
    cases hcase : d.dispatcher.action d.state (WireMessage.decode p) with
    | reset => rfl
    | _ =>
      rw [hcase] at h
      exact absurd h (by simp [Action.isReset])
  rw [payload_eq, hafter, haction, perform, take, Action.step]
  simp only [FeedSink.edit, Host.announce, Option.toList_none, List.append_nil]

theorem state_payload_of_resets (d : Delivery σ) {p : Json} (h : Traffic.resets p = true) :
    (d.payload p).state = .empty := by
  rw [d.payload_of_resets h]

theorem deliverAll_concat (d : Delivery σ) (payloads : List Json) (p : Json) :
    d.deliverAll (payloads ++ [p]) = (d.deliverAll payloads).payload p :=
  d.deliverAll_append payloads [p]

/-- Nothing is remembered at the start of a stretch. -/
theorem state_upToReset {d : Delivery σ} (h : d.state = .empty)
    (payloads : List Json) : (d.deliverAll (Traffic.upToReset payloads)).state = .empty := by
  by_cases hnil : Traffic.upToReset payloads = []
  · rw [hnil]
    exact h
  · have hlast := List.rdropWhile_last_not (fun p => !Traffic.resets p) payloads hnil
    rw [Bool.not_eq_true', Bool.not_eq_false] at hlast
    rw [← List.dropLast_append_getLast hnil, deliverAll_concat]
    exact state_payload_of_resets _ hlast

/-- A replay is the replay up to the last reset, and then the stretch after it. -/
theorem replayInto_eq_stretch (dispatcher : Dispatcher) (sink : σ) (host : Host)
    (payloads : List Json) :
    replayInto dispatcher sink host payloads
      = (replayInto dispatcher sink host (Traffic.upToReset payloads)).deliverAll
          (Traffic.stretch payloads) := by
  calc replayInto dispatcher sink host payloads
      = replayInto dispatcher sink host (Traffic.upToReset payloads ++ Traffic.stretch payloads) :=
        by rw [Traffic.upToReset_append_stretch]
    _ = _ := deliverAll_append _ _ _

theorem consistent_deliverAll {d : Delivery σ} (h : d.state.Consistent) (payloads : List Json) :
    (d.deliverAll payloads).state.Consistent := by
  induction payloads using List.reverseRecOn with
  | nil => exact h
  | append_singleton payloads p ih =>
    rw [deliverAll_concat, state_payload]
    exact Action.consistent_step ih _ _

theorem records_deliverAll {d : Delivery σ} (h : d.state.Records []) (payloads : List Json) :
    (d.deliverAll payloads).state.Records (Traffic.reasoningStreams payloads) := by
  induction payloads using List.reverseRecOn with
  | nil => exact h
  | append_singleton payloads p ih =>
    have hstep := Action.records_step ih (d.deliverAll payloads).host.ids.head
      ((d.deliverAll payloads).dispatcher.action (d.deliverAll payloads).state
        (WireMessage.decode p))
    rw [Action.streamsAfter, Dispatcher.isReset_action, Dispatcher.reasoningStream?_action] at hstep
    rw [deliverAll_concat, state_payload, Traffic.reasoningStreams_concat]
    exact hstep

/-- **The state indexes the feed.** Whatever payloads were delivered to a thread that started from
nothing, with ids that do not repeat: no id is held twice, be it for one owner or for two; an id
that is held names exactly one item, whose body is of the owner's sort; the tables of the state
agree with one another; and the reasoning on record is that of the streams continued since the last
reset. -/
theorem replayed_state_indexes_feed (dispatcher : Dispatcher) (host : Host)
    (hids : host.ids.NeverRepeats) (payloads : List Json) :
    let d := replayInto dispatcher Feed.empty host payloads
    (∀ o, (d.state.held o).Nodup) ∧
      (∀ o p id, id ∈ d.state.held o → id ∈ d.state.held p → o = p) ∧
      (∀ o, ∀ id ∈ d.state.held o,
        ∃ item, d.sink.items.filter (·.id = id) = [item] ∧ o.Fits item.body) ∧
      d.state.Consistent ∧
      d.state.Records (Traffic.reasoningStreams payloads) := by
  intro d
  have hcoherent : d.Coherent := (coherent_start dispatcher hids).deliverAll payloads
  refine ⟨hcoherent.held_nodup, hcoherent.held_owner, ?_, ?_, ?_⟩
  · intro o id hmem
    exact (hcoherent.held_fits o id hmem).filter_eq hcoherent.distinct
  · exact consistent_deliverAll Accumulation.consistent_empty payloads
  · exact records_deliverAll Accumulation.records_empty payloads

/-- A turn with text, reasoning, a tool call and a call from a log line, all of them under way. -/
def sampleTurn : List Json :=
  [Traffic.chunkPayload "t" "start" [],
    Traffic.chunkPayload "t" "reasoning-delta" [("id", .string "r"), ("text", .string "hm")],
    Traffic.chunkPayload "t" "text-delta" [("text", .string "Hello")],
    Traffic.chunkPayload "t" "tool-input-delta"
      [("toolCallId", .string "k"), ("delta", .string "1")],
    Traffic.logPayload "tool> grep 1"]

/-- The sample turn holds four ids, and each of them names the item it should. -/
theorem replayed_state_indexes_feed_sample :
    (Supply.numbered "item").NeverRepeats ∧
      let d := replayInto {} Feed.empty
        { ids := .numbered "item", clock := .constant "now" } sampleTurn
      (d.state.held (.reasoning "t:r") = ["item-1"] ∧ d.state.held (.assistant "t") = ["item-2"] ∧
        d.state.held (.tool "k") = ["item-3"] ∧ d.state.held (.call "grep") = ["item-4"]) ∧
      (∃ item, d.sink.items.filter (·.id = "item-4") = [item] ∧
        (Owner.call "grep").Fits item.body) ∧
      d.state.Records [("t", "r")] := by
  have hheld : (replayInto {} Feed.empty { ids := .numbered "item", clock := .constant "now" }
      sampleTurn).state.held (.call "grep") = ["item-4"] := by decide +kernel
  have hstreams : Traffic.reasoningStreams sampleTurn = [("t", "r")] := by decide +kernel
  have hindex := replayed_state_indexes_feed {}
    { ids := .numbered "item", clock := .constant "now" } (Supply.numbered_neverRepeats "item")
    sampleTurn
  refine ⟨Supply.numbered_neverRepeats "item", ?_, ?_, ?_⟩
  · decide +kernel
  · exact hindex.2.2.1 (.call "grep") "item-4" (hheld ▸ List.mem_singleton_self _)
  · exact hstreams ▸ hindex.2.2.2.2

end Delivery

end AgentFeed
