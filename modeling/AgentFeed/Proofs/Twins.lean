import AgentFeed.Proofs.Places
import AgentFeed.Proofs.Renaming
import Mathlib.Data.List.Forall2
import Mathlib.GroupTheory.GroupAction.MultipleTransitivity

/-!
# Twins

Two threads are twins when they differ in ids and times only: the ids of the one are those of the
other under a renaming, item for item, and everything else is the same. Twins that get the same
message stay twins (`Twin.message`), provided the renaming takes the id that the one draws for a new
item to the one that the other draws.

A renaming that does so for a whole run is found afterwards, from the ids of the feed that came out
(`Supply.exists_renaming`): a run never takes an item back, so its feed holds the ids of all its
items in order.
-/

namespace AgentFeed

/-! ## 1. Feeds -/

/-- The same item under a renaming; the times are not compared. -/
def FeedItem.Twin (ρ : String → String) (x y : FeedItem) : Prop :=
  y.id = ρ x.id ∧ y.body = x.body

namespace Feed

/-- The same items under a renaming. -/
def Twin (ρ : String → String) (f g : Feed) : Prop :=
  List.Forall₂ (FeedItem.Twin ρ) f.newestFirst g.newestFirst

variable {ρ : String → String} {f g : Feed}

theorem Twin.size_eq (h : f.Twin ρ g) : g.size = f.size :=
  (List.Forall₂.length_eq h).symm

/-- Twins show the same bodies, and ids that correspond. -/
theorem Twin.items_eq (h : f.Twin ρ g) :
    g.items.map (·.body) = f.items.map (·.body) ∧ g.items.map (·.id) = f.items.map (ρ ·.id) := by
  have hlists : ∀ {xs ys : List FeedItem}, List.Forall₂ (FeedItem.Twin ρ) xs ys →
      ys.map (·.body) = xs.map (·.body) ∧ ys.map (·.id) = xs.map (ρ ·.id) := by
    intro xs ys hall
    induction hall with
    | nil => exact ⟨rfl, rfl⟩
    | cons hxy _ ih =>
      simp only [List.map_cons, ih.1, ih.2, hxy.1, hxy.2, and_self]
  obtain ⟨hbodies, hids⟩ := hlists h
  simp only [items, List.map_reverse, hbodies, hids, and_self]

theorem Twin.append (h : f.Twin ρ g) {x y : FeedItem} (hitem : x.Twin ρ y) :
    (f.append x).Twin ρ (g.append y) :=
  .cons hitem h

/-- An amendment of the same item. Both feeds are searched from the end, so it is the same item even
where ids repeat. -/
theorem Twin.update (h : f.Twin ρ g) (hρ : Function.Injective ρ) (id : String)
    (change : Amendment) :
    (f.update id (·.amend change)).Twin ρ (g.update (ρ id) (·.amend change)) := by
  have hlists : ∀ {xs ys : List FeedItem}, List.Forall₂ (FeedItem.Twin ρ) xs ys →
      List.Forall₂ (FeedItem.Twin ρ) (updateFirst id (·.amend change) xs)
        (updateFirst (ρ id) (·.amend change) ys) := by
    intro xs ys hall
    induction hall with
    | nil => exact .nil
    | cons hxy hrest ih =>
      obtain ⟨hid, hbody⟩ := hxy
      rw [updateFirst, updateFirst]
      split
      · next heq =>
        rw [if_pos (hid.trans (congrArg ρ heq))]
        exact .cons ⟨hid, congrArg change.apply hbody⟩ hrest
      · next hne =>
        rw [if_neg fun heq => hne (hρ (hid.symm.trans heq))]
        exact .cons ⟨hid, hbody⟩ ih
  exact hlists h

end Feed

/-! ## 2. Threads at work -/

namespace Delivery

/-- Two threads that differ in ids and times only. What was announced is compared from two points
on. -/
structure Twin (ρ : String → String) (before before' : List ToolSettled) (d e : Delivery Feed) :
    Prop where
  /-- Messages are shown the same way. -/
  dispatcher : e.dispatcher = d.dispatcher
  /-- The same is remembered. -/
  state : e.state = d.state.rename ρ
  /-- The same items are shown. -/
  feed : d.sink.Twin ρ e.sink
  /-- The same calls were announced. -/
  announced : ∃ ended, d.host.announced = before ++ ended ∧
    e.host.announced = before' ++ ended.map (ToolSettled.rename ρ)

namespace Twin

variable {ρ : String → String} {before before' : List ToolSettled} {d e : Delivery Feed}

theorem start (ρ : String → String) (dispatcher : Dispatcher) (host host' : Host) :
    Twin ρ host.announced host'.announced
      { dispatcher, state := .empty, sink := Feed.empty, host }
      { dispatcher, state := .empty, sink := Feed.empty, host := host' } where
  dispatcher := rfl
  state := rfl
  feed := .nil
  announced := ⟨[], (List.append_nil _).symm, (List.append_nil _).symm⟩

/-- Twins do the same, where a new item is given ids that correspond. -/
theorem step_eq (h : Twin ρ before before' d e) (a : Action)
    (hfresh : ∀ body, (a.step d.host.ids.head d.state).edit = some (.append body) →
      ρ d.host.ids.head = e.host.ids.head) :
    a.step e.host.ids.head e.state = (a.step d.host.ids.head d.state).rename ρ := by
  have hrename := a.step_rename ρ d.host.ids.head d.state
  rw [h.state]
  -- The two fresh ids correspond only if an item is made of them; otherwise they do not matter.
  rcases a.step_fresh (d.state.rename ρ) with hsame | ⟨body, happend⟩
  · rw [← hrename]
    exact hsame _ _
  · have hedit := happend (ρ d.host.ids.head)
    rw [hrename, Step.rename, Option.map_eq_some_iff] at hedit
    obtain ⟨edit, hedit, hbody⟩ := hedit
    cases edit with
    | append other => rw [← hfresh other hedit, hrename]
    | amend id change => cases hbody

theorem take (h : Twin ρ before before' d e) (hρ : Function.Injective ρ) (dispatcher : Dispatcher)
    {step : Step} (hfresh : ∀ body, step.edit = some (.append body) →
      ρ d.host.ids.head = e.host.ids.head) :
    Twin ρ before before' (d.take (dispatcher, step)) (e.take (dispatcher, step.rename ρ)) := by
  obtain ⟨ended, hd, he⟩ := h.announced
  have hended : ended.map (ToolSettled.rename ρ) ++ (step.settled.map (ToolSettled.rename ρ)).toList
      = (ended ++ step.settled.toList).map (ToolSettled.rename ρ) := by
    rw [List.map_append]
    cases step.settled <;> rfl
  refine ⟨rfl, rfl, ?_, ended ++ step.settled.toList, ?_, ?_⟩
  · simp only [Delivery.take, Step.rename]
    cases hedit : step.edit with
    | none => exact h.feed
    | some edit =>
      cases edit with
      | append body => exact h.feed.append ⟨(hfresh body hedit).symm, rfl⟩
      | amend id change => exact h.feed.update hρ id change
  · simp only [Delivery.take, Host.announce]
    rw [← List.append_assoc, ← hd]
    cases step.edit with
    | none => rfl
    | some edit => cases edit <;> rfl
  · simp only [Delivery.take, Step.rename, Host.announce]
    rw [← hended, ← List.append_assoc, ← he]
    cases step.edit with
    | none => rfl
    | some edit => cases edit <;> rfl

/-- **Twins that get the same message stay twins.** -/
theorem message (h : Twin ρ before before' d e) (hρ : Function.Injective ρ) (m : WireMessage)
    (hfresh : ∀ id, (d.message m).sink.ids[d.sink.size]? = some id → ρ id = e.host.ids.head) :
    Twin ρ before before' (d.message m) (e.message m) := by
  -- An item that is appended stands where the feed ended, under the fresh id.
  have hhead : ∀ body,
      ((d.dispatcher.action d.state m).step d.host.ids.head d.state).edit = some (.append body) →
        ρ d.host.ids.head = e.host.ids.head := by
    intro body hedit
    refine hfresh _ ?_
    rw [message_eq, perform, sink_take_append _ hedit, Feed.ids, List.getElem?_map,
      Feed.getElem?_append_self]
    rfl
  have haction : e.dispatcher.action e.state m = d.dispatcher.action d.state m := by
    rw [h.dispatcher, h.state, Dispatcher.action_rename]
  rw [message_eq, message_eq, haction, h.dispatcher, perform, perform, h.step_eq _ hhead]
  exact h.take hρ _ hhead

end Twin

/-! ## 3. The ids of a run -/

/-- A message leaves the ids in the feed alone, and may add one. -/
theorem Coherent.ids_message {d : Delivery Feed} (h : d.Coherent) (m : WireMessage) {n : Nat}
    {id : String} (hid : d.sink.ids[n]? = some id) : (d.message m).sink.ids[n]? = some id := by
  rw [message_eq, perform]
  rcases hedit : ((d.dispatcher.action d.state m).step d.host.ids.head d.state).edit with
    _ | (body | ⟨other, change⟩)
  · rw [sink_take_none _ hedit, hid]
  · rw [sink_take_append _ hedit, Feed.ids_append, List.getElem?_append_left, hid]
    exact (List.getElem?_eq_some_iff.1 hid).1
  · rw [sink_take_amend _ hedit, Feed.ids_amend h.distinct, hid]

/-- Messages draw an id for each new item and for nothing else. -/
theorem ids_message (d : Delivery Feed) (m : WireMessage) :
    (d.message m).host.ids.nth = d.host.ids.nth ∧
      (d.message m).host.ids.taken + d.sink.size
        = d.host.ids.taken + (d.message m).sink.size := by
  rw [message_eq, perform, size_take, Step.growth]
  rcases hedit : ((d.dispatcher.action d.state m).step d.host.ids.head d.state).edit with
    _ | (body | ⟨id, change⟩)
  · rw [ids_take_none _ hedit]
    exact ⟨rfl, rfl⟩
  · rw [ids_take_append _ hedit, Supply.tail]
    refine ⟨rfl, ?_⟩
    dsimp only
    omega
  · rw [ids_take_amend _ hedit]
    exact ⟨rfl, rfl⟩

theorem ids_deliverAll (d : Delivery Feed) (payloads : List Json) :
    (d.deliverAll payloads).host.ids.nth = d.host.ids.nth ∧
      (d.deliverAll payloads).host.ids.taken + d.sink.size
        = d.host.ids.taken + (d.deliverAll payloads).sink.size := by
  induction payloads using List.reverseRecOn with
  | nil => exact ⟨rfl, rfl⟩
  | append_singleton payloads p ih =>
    obtain ⟨hnth, htaken⟩ := (d.deliverAll payloads).ids_message (WireMessage.decode p)
    rw [deliverAll_concat]
    refine ⟨hnth.trans ih.1, ?_⟩
    have hih := ih.2
    simp only [payload]
    omega

end Delivery

/-- Distinct texts can be renamed to other distinct texts, place by place. -/
theorem exists_renaming_of_nodup {xs ys : List String} (hxs : xs.Nodup) (hys : ys.Nodup)
    (hlength : ys.length = xs.length) :
    ∃ ρ : Equiv.Perm String, ∀ (n : Nat) (x y : String),
      xs[n]? = some x → ys[n]? = some y → ρ x = y := by
  have htransitive := Equiv.Perm.isMultiplyPretransitive String xs.length
  have hinjective : Function.Injective fun i : Fin xs.length => ys[i] := by
    intro i j heq
    have hplace : (i : Nat) = j := (hys.getElem_inj_iff).1 heq
    exact Fin.ext hplace
  obtain ⟨ρ, hρ⟩ := htransitive.exists_smul_eq
    ⟨fun i => xs[i], hxs.injective_get⟩ ⟨fun i => ys[i], hinjective⟩
  refine ⟨ρ, fun n x y hx hy => ?_⟩
  obtain ⟨hn, rfl⟩ := List.getElem?_eq_some_iff.1 hx
  obtain ⟨hn', rfl⟩ := List.getElem?_eq_some_iff.1 hy
  exact DFunLike.congr_fun hρ ⟨n, hn⟩

/-- Distinct ids can be renamed to what a sequence that never repeats goes on with. -/
theorem Supply.NeverRepeats.exists_renaming {supply : Supply} (h : supply.NeverRepeats)
    {ids : List String} (hids : ids.Nodup) :
    ∃ ρ : Equiv.Perm String, ∀ n id, ids[n]? = some id → ρ id = supply.nth (supply.taken + n) := by
  let later := (List.range ids.length).map fun n => supply.nth (supply.taken + n)
  have hlater : later.Nodup := by
    refine List.Nodup.map (fun i j heq => ?_) List.nodup_range
    have hplace := h _ _ heq
    omega
  have hlength : later.length = ids.length := by
    rw [List.length_map, List.length_range]
  obtain ⟨ρ, hρ⟩ := exists_renaming_of_nodup hids hlater hlength
  refine ⟨ρ, fun n id hid => hρ n id _ hid ?_⟩
  have hn : n < ids.length := (List.getElem?_eq_some_iff.1 hid).1
  rw [List.getElem?_map, List.getElem?_range hn]
  rfl

/-! ## 4. Replays -/

namespace Delivery

/-- The id that a replay draws next stands as far behind the first one as there are items. -/
theorem head_replayInto (dispatcher : Dispatcher) (host : Host) (payloads : List Json) :
    let d := replayInto dispatcher Feed.empty host payloads
    d.host.ids.head = host.ids.nth (host.ids.taken + d.sink.size) := by
  intro d
  obtain ⟨hnth, htaken⟩ :=
    ids_deliverAll { dispatcher, state := .empty, sink := Feed.empty, host } payloads
  have hplace : d.host.ids.taken = host.ids.taken + d.sink.size := htaken
  rw [Supply.head, hplace]
  exact congrFun hnth _

/-- Replays of the same payloads with different sources of ids are twins. -/
theorem twin_replayInto (dispatcher : Dispatcher) {host : Host} (host' : Host)
    (hids : host.ids.NeverRepeats) {ρ : String → String} (hρ : Function.Injective ρ)
    (payloads : List Json)
    (hnames : ∀ n id, (replayInto dispatcher Feed.empty host payloads).sink.ids[n]? = some id →
      ρ id = host'.ids.nth (host'.ids.taken + n)) :
    Twin ρ host.announced host'.announced (replayInto dispatcher Feed.empty host payloads)
      (replayInto dispatcher Feed.empty host' payloads) := by
  induction payloads using List.reverseRecOn with
  | nil => exact Twin.start ρ dispatcher host host'
  | append_singleton payloads p ih =>
    have hcoherent : (replayInto dispatcher Feed.empty host payloads).Coherent :=
      (coherent_start dispatcher hids).deliverAll payloads
    simp only [replayInto, deliverAll_concat] at hnames ⊢
    have htwin := ih fun n id hid => hnames n id (hcoherent.ids_message _ hid)
    refine htwin.message hρ (WireMessage.decode p) fun id hid => ?_
    have hhead := head_replayInto dispatcher host' payloads
    rw [hnames _ id hid, ← htwin.feed.size_eq]
    exact hhead.symm

/-- **What a replay shows does not depend on the ids it draws**, as long as they do not repeat. -/
theorem bodies_replayInto (dispatcher : Dispatcher) {host host' : Host}
    (hids : host.ids.NeverRepeats) (hids' : host'.ids.NeverRepeats) (payloads : List Json) :
    (replayInto dispatcher Feed.empty host' payloads).sink.items.map (·.body)
      = (replayInto dispatcher Feed.empty host payloads).sink.items.map (·.body) := by
  have hcoherent : (replayInto dispatcher Feed.empty host payloads).Coherent :=
    (coherent_start dispatcher hids).deliverAll payloads
  obtain ⟨ρ, hρ⟩ := hids'.exists_renaming hcoherent.distinct
  exact (twin_replayInto dispatcher host' hids ρ.injective payloads hρ).feed.items_eq.1

end Delivery

end AgentFeed
