import AgentFeed.Proofs.ToolHistory

/-!
# Announcements of ended calls

The host is told when a tool call ends, once for each call of a stretch however often the call ends
in it. What guards this is `settledTools`, a list that is written in one place and emptied with
everything else at a reset.

`Action.step_of_end` and `Action.step_of_no_end` say what one step announces, from nothing but the
list and the action. What the announcement points at is the item of the call, and that there is just
one in a stretch holds with any source of ids: a call that is known is never given another item
(`toolItems_payload_of_some`), and amending items neither moves them nor makes them another sort of
item (`Feed.getElem?_update`).
-/

namespace AgentFeed

/-! ## 1. The end of a call -/

/-- The call that an update ends, by its key, with the name that it gives the tool. -/
def UpdateKind.endedCall? : UpdateKind → Option (String × String)
  | .toolResult key name _ => some (key, name)
  | .toolError key name _ => some (key, name)
  | .toolOutputDenied key name _ => some (key, name)
  | _ => none

/-- The call that an action ends, with the name that it gives the tool. -/
def Action.endedCall? : Action → Option (String × String)
  | .tool key (.settle name _) => some (key, name)
  | _ => none

namespace Traffic

/-- The call that a payload ends, by its key, with the name that it gives the tool. -/
def endedCall? (payload : Json) : Option (String × String) :=
  (WireMessage.decode payload).update?.bind (·.kind.endedCall?)

/-- The keys of the calls that payloads end. -/
def endedKeys (payloads : List Json) : List String :=
  payloads.filterMap fun p => (endedCall? p).map Prod.fst

theorem endedKeys_concat (payloads : List Json) (p : Json) :
    endedKeys (payloads ++ [p]) = endedKeys payloads ++ ((endedCall? p).map Prod.fst).toList :=
  filterMap_concat _ payloads p

end Traffic

theorem Action.IsWhole.endedCall? {a : Action} (h : a.IsWhole) : a.endedCall? = none := by
  cases a <;> first | rfl | exact h.elim

theorem Dispatcher.endedCall?_action (d : Dispatcher) (s : Accumulation) (p : Json) :
    (d.action s (WireMessage.decode p)).endedCall? = Traffic.endedCall? p := by
  rw [d.view_action s _ _ (fun _ h => h.endedCall?) rfl, Traffic.endedCall?]
  refine Option.bind_congr fun u _ => ?_
  obtain ⟨turnId, kind⟩ := u
  cases kind with
  | turnAbort reason => cases reason <;> rfl
  | _ => rfl

/-- No payload that ends a call resets. -/
theorem Traffic.not_resets_of_endedCall? {p : Json} {call : String × String}
    (h : endedCall? p = some call) : resets p = false := by
  rw [endedCall?, Option.bind_eq_some_iff] at h
  obtain ⟨⟨turnId, kind⟩, hupdate, hkind⟩ := h
  rw [resets]
  cases hmessage : WireMessage.decode p with
  | modelStreamChunk c =>
    rw [hmessage] at hupdate
    rw [WireMessage.resets, hupdate, Option.any_some]
    · cases kind with
      | turnStart => cases hkind
      | _ => rfl
    · simp
  | _ =>
    rw [hmessage] at hupdate
    cases hupdate

/-! ## 2. One step -/

namespace Action

variable (freshId : String) (s : Accumulation) {a : Action}

/-- A step that ends no call announces none. -/
theorem step_of_no_end (hend : a.endedCall? = none) (hreset : a.isReset = false) :
    (a.step freshId s).settled = none ∧
      (a.step freshId s).state.settledTools = s.settledTools := by
  have hpatch : ∀ (before : Accumulation) (key : String) (patch : ToolPatch),
      (Reducer.patchTool before freshId key patch).settled = none ∧
        (Reducer.patchTool before freshId key patch).state.settledTools = before.settledTools := by
    intro before key patch
    rw [Reducer.patchTool]
    split <;> exact ⟨rfl, rfl⟩
  cases a with
  | reset => exact absurd hreset (by decide)
  | idle => exact ⟨rfl, rfl⟩
  | note body => exact ⟨rfl, rfl⟩
  | assistant turnId delta =>
    simp only [step, Reducer.assistantDelta]
    split <;> exact ⟨rfl, rfl⟩
  | reasoning turnId streamId mode delta =>
    simp only [step, Reducer.reasoningDelta]
    split <;> exact ⟨rfl, rfl⟩
  | tool key change =>
    cases change with
    | patch p => exact hpatch s key p
    | input delta => exact hpatch _ key _
    | inputEnd name =>
      simp only [step, ToolChange.step, Reducer.toolInputEnd]
      split
      · exact hpatch s key _
      · split
        · exact hpatch s key _
        · exact ⟨rfl, rfl⟩
    | settle name result => exact absurd hend (by simp [Action.endedCall?])
  | callStart name payload => exact ⟨rfl, rfl⟩
  | callFinish status name payload =>
    simp only [step, WholeMessage.toolFinish, Accumulation.closeOldestCall]
    split <;> split <;> exact ⟨rfl, rfl⟩

theorem eq_settle_of_endedCall? {key name : String} (hend : a.endedCall? = some (key, name)) :
    ∃ result, a = .tool key (.settle name result) := by
  cases a with
  | tool other change =>
    cases change with
    | settle called result =>
      obtain ⟨rfl, rfl⟩ := Prod.mk.inj (Option.some.inj hend)
      exact ⟨result, rfl⟩
    | _ => exact absurd hend (by simp [Action.endedCall?])
  | _ => exact absurd hend (by simp [Action.endedCall?])

/-- A step that ends a call announces it unless it was announced before, and in any case the call
has an item afterwards and counts as announced. -/
theorem step_of_end {key name : String} (hend : a.endedCall? = some (key, name)) :
    (a.step freshId s).settled
        = (if key ∈ s.settledTools then none
          else some { key, name, itemId := Reducer.toolItem s freshId key, status := .done }) ∧
      (a.step freshId s).state.settledTools = s.settledTools.insert key ∧
      (a.step freshId s).state.toolItems.get? key = some (Reducer.toolItem s freshId key) := by
  obtain ⟨result, rfl⟩ := eq_settle_of_endedCall? hend
  have hitem : (s.toolItemsWith freshId key).get? key
      = some (Reducer.toolItem s freshId key) := by
    rw [Accumulation.toolItemsWith, Reducer.toolItem]
    cases hget : s.toolItems.get? key with
    | some id => exact hget
    | none => exact Table.get?_insert_self _ _ _
  simp only [step, ToolChange.step, Reducer.settleTool]
  by_cases hmem : key ∈ s.settledTools
  · rw [if_pos (List.contains_iff_mem.2 hmem), if_pos hmem, List.insert_of_mem hmem,
      Reducer.patchTool_state]
    refine ⟨?_, rfl, hitem⟩
    rw [Reducer.patchTool]
    split <;> rfl
  · rw [if_neg (mt List.contains_iff_mem.1 hmem), if_neg hmem, Reducer.patchTool_state]
    exact ⟨rfl, rfl, hitem⟩

end Action

/-! ## 3. The item of a call -/

/-- Whatever is changed in a feed, an item keeps its place: it is there as it was, or changed. -/
theorem Feed.getElem?_update {f : Feed} {n : Nat} {x : FeedItem} (h : f.items[n]? = some x)
    (id : String) (change : FeedItem → FeedItem) :
    (f.update id change).items[n]? = some x ∨ (f.update id change).items[n]? = some (change x) := by
  have hlist : ∀ (items : List FeedItem) (m : Nat), items[m]? = some x →
      (updateFirst id change items)[m]? = some x ∨
        (updateFirst id change items)[m]? = some (change x) := by
    intro items
    induction items with
    | nil => exact fun m hm => absurd hm (by simp)
    | cons item rest ih =>
      intro m hm
      rw [updateFirst]
      cases m with
      | zero =>
        obtain rfl : item = x := Option.some.inj hm
        split
        · exact .inr rfl
        · exact .inl rfl
      | succ m =>
        split
        · exact .inl hm
        · exact ih m hm
  have hn : n < f.newestFirst.length := by
    rw [← List.length_reverse]
    exact (List.getElem?_eq_some_iff.1 h).1
  have hsize : (f.update id change).newestFirst.length = f.newestFirst.length :=
    f.size_amend id change
  rw [items, List.getElem?_reverse hn] at h
  rw [items, List.getElem?_reverse (by rw [hsize]; exact hn), hsize]
  exact hlist _ _ h

/-- No amendment makes a tool call another sort of item. -/
theorem Amendment.apply_fits_tool (change : Amendment) {key : String} {body : FeedBody}
    (h : (Owner.tool key).Fits body) : (Owner.tool key).Fits (change.apply body) := by
  obtain ⟨status, name, args, result, rfl⟩ := h
  cases change with
  | text full => exact ⟨_, _, _, _, rfl⟩
  | patch p => exact ⟨_, _, _, _, rfl⟩
  | finish status result => exact ⟨_, _, _, _, rfl⟩

namespace Delivery

variable {d : Delivery Feed} {key : String} {p : Json}

/-- The item of a tool call stays where it is, under its id and as a tool call. -/
theorem tool_stays {n : Nat} {item : FeedItem} (h : d.sink.items[n]? = some item)
    (hfits : (Owner.tool key).Fits item.body) (p : Json) :
    ∃ item', (d.payload p).sink.items[n]? = some item' ∧ item'.id = item.id ∧
      (Owner.tool key).Fits item'.body := by
  rw [payload_eq, perform]
  generalize (d.dispatcher.action d.state (WireMessage.decode p)).step d.host.ids.head d.state
    = step
  rcases hedit : step.edit with _ | (body | ⟨id, change⟩)
  · rw [sink_take_none _ hedit]
    exact ⟨item, h, rfl, hfits⟩
  · rw [sink_take_append _ hedit]
    exact ⟨item, Feed.getElem?_append_of_some h _, rfl, hfits⟩
  · rw [sink_take_amend _ hedit]
    rcases Feed.getElem?_update h id (·.amend change) with hsame | hchanged
    · exact ⟨item, hsame, rfl, hfits⟩
    · exact ⟨_, hchanged, rfl, change.apply_fits_tool hfits⟩

/-- A call that is known keeps its item, and no payload appends another one for it. -/
theorem toolItems_payload_of_some {id : String} (h : d.state.toolItems.get? key = some id)
    (hreset : Traffic.resets p = false) :
    (d.payload p).state.toolItems.get? key = some id ∧
      createdPlaces (Traffic.isToolUpdate key) d [p] = [] := by
  cases hupdate : Traffic.toolUpdate? key p with
  | none =>
    have hisReset := (d.dispatcher.isReset_action d.state (WireMessage.decode p)).trans hreset
    have howner := d.dispatcher.owner?_of_no_toolUpdate d.state hupdate
    rw [createdPlaces_cons_of_other (by rw [Traffic.isToolUpdate, hupdate]; rfl), state_payload]
    exact ⟨(Action.tool_frame d.host.ids.head d.state _ hisReset howner).1.trans h, rfl⟩
  | some u =>
    obtain ⟨change, -, haction⟩ := d.dispatcher.action_of_toolUpdate d.state hupdate
    obtain ⟨hedit, hitems, -⟩ := change.step_known h d.host.ids.head
    have hsize : (d.payload p).sink.size = d.sink.size := by
      rw [payload_eq, haction, perform, size_take, Step.growth, Action.step, hedit]
      rfl
    rw [createdPlaces_cons_of_same hsize, state_payload, haction, Action.step, hitems]
    exact ⟨h, rfl⟩

/-- A call of which nothing is known stays so, or gets its item at the end of the feed. -/
theorem Untracked.payload_cases (hun : d.Untracked key) (hreset : Traffic.resets p = false) :
    (d.payload p).Untracked key ∧ createdPlaces (Traffic.isToolUpdate key) d [p] = [] ∨
      (∃ u, (d.payload p).Tracks key d.sink.size [u]) ∧
        createdPlaces (Traffic.isToolUpdate key) d [p] = [d.sink.size] := by
  cases hupdate : Traffic.toolUpdate? key p with
  | none =>
    rw [createdPlaces_cons_of_other (by rw [Traffic.isToolUpdate, hupdate]; rfl)]
    exact .inl ⟨hun.payload_of_other hreset hupdate, rfl⟩
  | some u =>
    cases hend : u.isToolInputEnd with
    | true =>
      obtain ⟨name, rfl⟩ := Traffic.eq_toolInputEnd hupdate hend
      obtain ⟨hnext, hsize⟩ := hun.payload_of_end hupdate
      rw [createdPlaces_cons_of_same hsize]
      exact .inl ⟨hnext, rfl⟩
    | false =>
      obtain ⟨hnext, hsize⟩ := hun.payload_of_news hupdate hend
      rw [createdPlaces_cons_of_grown (by rw [Traffic.isToolUpdate, hupdate]; rfl) hsize]
      exact .inr ⟨⟨u, hnext⟩, rfl⟩

/-- Payloads append one item for a call. It has an id, and is a tool call. -/
def OneItem (d : Delivery Feed) (payloads : List Json) (key id : String) : Prop :=
  ∃ n item, d.createdPlaces (Traffic.isToolUpdate key) payloads = [n] ∧
    (d.deliverAll payloads).sink.items[n]? = some item ∧ item.id = id ∧
    (Owner.tool key).Fits item.body

/-- **A stretch appends one item for a call that it makes known, and none for another.** -/
theorem oneItem_of_known (hstate : d.state = .empty) (key : String) {payloads : List Json}
    (hresets : ∀ p ∈ payloads, Traffic.resets p = false) :
    (∀ id, (d.deliverAll payloads).state.toolItems.get? key = some id →
        d.OneItem payloads key id) ∧
      ((d.deliverAll payloads).state.toolItems.get? key = none →
        d.createdPlaces (Traffic.isToolUpdate key) payloads = []) := by
  induction payloads using List.reverseRecOn with
  | nil =>
    rw [deliverAll_nil, hstate]
    exact ⟨fun id hid => absurd hid (by simp [Accumulation.empty]), fun _ => rfl⟩
  | append_singleton payloads p ih =>
    obtain ⟨hbefore, hlast⟩ := List.forall_mem_append.1 hresets
    have hreset := hlast p (List.mem_singleton_self p)
    obtain ⟨hknown, hunknown⟩ := ih hbefore
    have hplaces := createdPlaces_append (Traffic.isToolUpdate key) d payloads [p]
    simp only [OneItem, deliverAll_concat]
    cases hitem : (d.deliverAll payloads).state.toolItems.get? key with
    | some id =>
      obtain ⟨n, item, hn, hat, rfl, hfits⟩ := hknown id hitem
      obtain ⟨hstays, hnone⟩ := toolItems_payload_of_some hitem hreset
      obtain ⟨item', hat', hid, hfits'⟩ := tool_stays hat hfits p
      rw [hnone, List.append_nil, hn] at hplaces
      refine ⟨fun id' hid' => ⟨n, item', hplaces, hat', ?_, hfits'⟩, fun hnot => ?_⟩
      · rw [hstays] at hid'
        exact hid.trans (Option.some.inj hid')
      · rw [hstays] at hnot
        cases hnot
    | none =>
      -- Only known calls have input text, so of this one nothing at all is known.
      have hconsistent : (d.deliverAll payloads).state.Consistent :=
        consistent_deliverAll (hstate ▸ Accumulation.consistent_empty) payloads
      have hinput := hconsistent.toolInputs_eq_none hitem
      rw [hunknown hitem, List.nil_append] at hplaces
      rcases Untracked.payload_cases ⟨hitem, hinput⟩ hreset with
        ⟨hun, hnone⟩ | ⟨⟨u, htracks⟩, hone⟩
      · rw [hun.item]
        exact ⟨fun id hid => absurd hid (by simp), fun _ => hplaces.trans hnone⟩
      · obtain ⟨item, hat, hbody, hheld⟩ := htracks.shows
        have hgets : ((d.deliverAll payloads).payload p).state.toolItems.get? key
            = some item.id := by
          rw [← Accumulation.mem_held_tool, hheld]
          exact List.mem_singleton_self _
        rw [hgets]
        refine ⟨fun id hid => ⟨_, item, hplaces.trans hone, hat, Option.some.inj hid, ?_⟩,
          fun hnot => absurd hnot (by simp)⟩
        rw [hbody]
        exact ⟨_, _, _, _, rfl⟩

/-! ## 4. A stretch -/

/-- Payloads have led to a list of announcements. -/
structure Announces (d : Delivery Feed) (payloads : List Json) (ended : List ToolSettled) :
    Prop where
  /-- These are the announcements. -/
  announced : (d.deliverAll payloads).host.announced = d.host.announced ++ ended
  /-- No call is announced twice. -/
  distinct : (ended.map (·.key)).Nodup
  /-- The calls are those that the payloads end. -/
  mem_iff_ended : ∀ key, key ∈ ended.map (·.key) ↔ key ∈ Traffic.endedKeys payloads
  /-- The calls are those on record as announced. -/
  settled_iff_mem : ∀ key,
    key ∈ (d.deliverAll payloads).state.settledTools ↔ key ∈ ended.map (·.key)
  /-- The status is that of a call that has ended. -/
  terminal : ∀ t ∈ ended, t.status.isTerminal = true
  /-- The item is that of the call. -/
  item : ∀ t ∈ ended, (d.deliverAll payloads).state.toolItems.get? t.key = some t.itemId

theorem announces_nil (hstate : d.state = .empty) : d.Announces [] [] where
  announced := (List.append_nil _).symm
  distinct := List.nodup_nil
  mem_iff_ended _ := Iff.rfl
  settled_iff_mem key := by
    rw [deliverAll_nil, hstate]
    exact Iff.rfl
  terminal t ht := absurd ht List.not_mem_nil
  item t ht := absurd ht List.not_mem_nil

namespace Announces

variable {payloads : List Json} {ended : List ToolSettled}

/-- A payload that ends no call, or one that has been announced, is not announced. -/
theorem concat_of_old (h : d.Announces payloads ended) (hreset : Traffic.resets p = false)
    (hold : ∀ key name, Traffic.endedCall? p = some (key, name) →
      key ∈ Traffic.endedKeys payloads) : d.Announces (payloads ++ [p]) ended := by
  have hisReset := ((d.deliverAll payloads).dispatcher.isReset_action
    (d.deliverAll payloads).state (WireMessage.decode p)).trans hreset
  have hend := (d.deliverAll payloads).dispatcher.endedCall?_action
    (d.deliverAll payloads).state p
  have hannounced := (d.deliverAll payloads).announced_payload p
  have hstate := (d.deliverAll payloads).state_payload p
  have hitem : ∀ t ∈ ended,
      (d.deliverAll (payloads ++ [p])).state.toolItems.get? t.key = some t.itemId := by
    intro t ht
    rw [deliverAll_concat]
    exact (toolItems_payload_of_some (h.item t ht) hreset).1
  cases hcall : Traffic.endedCall? p with
  | none =>
    rw [hcall] at hend
    obtain ⟨hsettled, htools⟩ := Action.step_of_no_end (d.deliverAll payloads).host.ids.head
      (d.deliverAll payloads).state hend hisReset
    rw [hsettled, Option.toList_none, List.append_nil] at hannounced
    refine { h with announced := ?_, mem_iff_ended := ?_, settled_iff_mem := ?_, item := hitem }
    · rw [deliverAll_concat, hannounced, h.announced]
    · intro key
      rw [Traffic.endedKeys_concat, hcall, h.mem_iff_ended]
      simp
    · intro key
      rw [deliverAll_concat, hstate, htools, h.settled_iff_mem]
  | some call =>
    obtain ⟨key, name⟩ := call
    have hkey : key ∈ Traffic.endedKeys payloads := hold key name hcall
    have hmem : key ∈ (d.deliverAll payloads).state.settledTools :=
      (h.settled_iff_mem key).2 ((h.mem_iff_ended key).2 hkey)
    rw [hcall] at hend
    obtain ⟨hsettled, htools, -⟩ := Action.step_of_end (d.deliverAll payloads).host.ids.head
      (d.deliverAll payloads).state hend
    rw [hsettled, if_pos hmem, Option.toList_none, List.append_nil] at hannounced
    refine { h with announced := ?_, mem_iff_ended := ?_, settled_iff_mem := ?_, item := hitem }
    · rw [deliverAll_concat, hannounced, h.announced]
    · intro other
      rw [Traffic.endedKeys_concat, hcall, h.mem_iff_ended]
      simp only [Option.map_some, Option.toList_some, List.mem_append, List.mem_singleton]
      exact ⟨.inl, fun hor => hor.elim (fun hother => hother) fun heq => heq ▸ hkey⟩
    · intro other
      rw [deliverAll_concat, hstate, htools, List.insert_of_mem hmem, h.settled_iff_mem]

/-- A payload that is the first to end a call is announced. -/
theorem concat_of_first (h : d.Announces payloads ended) {key name : String}
    (hcall : Traffic.endedCall? p = some (key, name)) (hfirst : key ∉ Traffic.endedKeys payloads) :
    ∃ id, d.Announces (payloads ++ [p])
      (ended ++ [{ key, name, itemId := id, status := .done }]) := by
  have hend := (d.deliverAll payloads).dispatcher.endedCall?_action
    (d.deliverAll payloads).state p
  have hannounced := (d.deliverAll payloads).announced_payload p
  have hstate := (d.deliverAll payloads).state_payload p
  have hreset := Traffic.not_resets_of_endedCall? hcall
  have hnew : key ∉ ended.map (·.key) := fun hmem => hfirst ((h.mem_iff_ended key).1 hmem)
  have hmem : key ∉ (d.deliverAll payloads).state.settledTools :=
    fun hin => hnew ((h.settled_iff_mem key).1 hin)
  rw [hcall] at hend
  obtain ⟨hsettled, htools, hget⟩ := Action.step_of_end (d.deliverAll payloads).host.ids.head
    (d.deliverAll payloads).state hend
  rw [hsettled, if_neg hmem, Option.toList_some] at hannounced
  refine ⟨Reducer.toolItem (d.deliverAll payloads).state
    (d.deliverAll payloads).host.ids.head key, ?_, ?_, ?_, ?_, ?_, ?_⟩
  · rw [deliverAll_concat, hannounced, h.announced, List.append_assoc]
  · rw [List.map_append, List.nodup_append]
    refine ⟨h.distinct, List.nodup_singleton _, ?_⟩
    intro other hother last hlast heq
    have hlast' : last = key := List.mem_singleton.1 hlast
    rw [heq, hlast'] at hother
    exact hnew hother
  · intro other
    rw [Traffic.endedKeys_concat, hcall, List.map_append, List.mem_append, List.mem_append,
      h.mem_iff_ended]
    exact Iff.rfl
  · intro other
    rw [deliverAll_concat, hstate, htools, List.mem_insert_iff, h.settled_iff_mem, List.map_append,
      List.mem_append, List.map_cons, List.map_nil, List.mem_singleton, or_comm]
  · intro t ht
    rcases List.mem_append.1 ht with ht | ht
    · exact h.terminal t ht
    · rw [List.mem_singleton.1 ht]
      rfl
  · intro t ht
    rw [deliverAll_concat]
    rcases List.mem_append.1 ht with ht | ht
    · exact (toolItems_payload_of_some (h.item t ht) hreset).1
    · rw [List.mem_singleton.1 ht, hstate]
      exact hget

end Announces

theorem exists_announces (hstate : d.state = .empty) {payloads : List Json}
    (hresets : ∀ p ∈ payloads, Traffic.resets p = false) :
    ∃ ended, d.Announces payloads ended := by
  induction payloads using List.reverseRecOn with
  | nil => exact ⟨[], announces_nil hstate⟩
  | append_singleton payloads p ih =>
    obtain ⟨hbefore, hlast⟩ := List.forall_mem_append.1 hresets
    have hreset := hlast p (List.mem_singleton_self p)
    obtain ⟨ended, h⟩ := ih hbefore
    by_cases hold : ∀ key name, Traffic.endedCall? p = some (key, name) →
        key ∈ Traffic.endedKeys payloads
    · exact ⟨ended, h.concat_of_old hreset hold⟩
    · push Not at hold
      obtain ⟨key, name, hcall, hfirst⟩ := hold
      obtain ⟨id, hnext⟩ := h.concat_of_first hcall hfirst
      exact ⟨_, hnext⟩

/-! ## 5. Every run -/

/-- **The end of a call is announced once.** Look at the payloads since the last reset, and at what
was announced since. No call was announced twice, the announced calls are those that some payload
ended and those on record as announced, and each announcement has the status of a call that has
ended and points at the one item that the stretch appended for the call. With one more payload,
an announcement comes exactly if the payload is the first to end a call, and then the item is there.
Nothing else announces anything: no other update, no line of a log, no reset. -/
theorem calls_are_announced_once (dispatcher : Dispatcher) (host : Host) (payloads : List Json) :
    let before := replayInto dispatcher Feed.empty host (Traffic.upToReset payloads)
    let after := replayInto dispatcher Feed.empty host payloads
    let stretch := Traffic.stretch payloads
    ∃ ended : List ToolSettled,
      after.host.announced = before.host.announced ++ ended ∧
      (ended.map (·.key)).Nodup ∧
      (∀ key, key ∈ ended.map (·.key) ↔ key ∈ Traffic.endedKeys stretch) ∧
      (∀ key, key ∈ after.state.settledTools ↔ key ∈ ended.map (·.key)) ∧
      (∀ t ∈ ended, t.status.isTerminal = true ∧ before.OneItem stretch t.key t.itemId) ∧
      (∀ p key name, Traffic.endedCall? p = some (key, name) →
        key ∉ Traffic.endedKeys stretch →
          ∃ item ∈ (after.payload p).sink.items, (Owner.tool key).Fits item.body ∧
            (after.payload p).host.announced
              = after.host.announced ++ [{ key, name, itemId := item.id, status := .done }]) ∧
      ∀ p, (∀ key name, Traffic.endedCall? p = some (key, name) →
          key ∈ Traffic.endedKeys stretch) →
        (after.payload p).host.announced = after.host.announced := by
  intro before after stretch
  have hempty : before.state = .empty := state_upToReset rfl payloads
  have hafter : after = before.deliverAll stretch := by
    calc after = replayInto dispatcher Feed.empty host
          (Traffic.upToReset payloads ++ stretch) := by rw [Traffic.upToReset_append_stretch]
      _ = before.deliverAll stretch := deliverAll_append _ _ _
  have hstretch : ∀ p ∈ stretch, Traffic.resets p = false :=
    fun p hp => Traffic.not_resets_of_mem_stretch hp
  obtain ⟨ended, h⟩ := exists_announces hempty hstretch
  rw [hafter]
  refine ⟨ended, h.announced, h.distinct, h.mem_iff_ended, h.settled_iff_mem, ?_, ?_, ?_⟩
  · intro t ht
    exact ⟨h.terminal t ht, (oneItem_of_known hempty t.key hstretch).1 _ (h.item t ht)⟩
  · intro p key name hcall hfirst
    obtain ⟨id, hnext⟩ := h.concat_of_first hcall hfirst
    have hlonger : ∀ q ∈ stretch ++ [p], Traffic.resets q = false := by
      rw [List.forall_mem_append]
      refine ⟨hstretch, fun q hq => ?_⟩
      rw [List.mem_singleton.1 hq]
      exact Traffic.not_resets_of_endedCall? hcall
    have hget := hnext.item _ (List.mem_append_right _ (List.mem_singleton_self _))
    obtain ⟨n, item, -, hat, rfl, hfits⟩ := (oneItem_of_known hempty key hlonger).1 _ hget
    have hannounced := hnext.announced
    rw [← List.append_assoc, ← h.announced] at hannounced
    rw [← deliverAll_concat]
    exact ⟨item, List.mem_of_getElem? hat, hfits, hannounced⟩
  · intro p hold
    cases hreset : Traffic.resets p with
    | true => rw [payload_of_resets _ hreset]
    | false =>
      rw [← deliverAll_concat, (h.concat_of_old hreset hold).announced, h.announced]

end Delivery

end AgentFeed
