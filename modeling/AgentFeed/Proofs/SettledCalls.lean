import AgentFeed.Proofs.Announcements
import AgentFeed.Proofs.UpdateRun

/-!
# What an announcement promises

The end of a call is announced with a key, a name, an item and a status. At that moment the item has
the status. It has the name too, unless the announcement says `Part.unnamedTool`, which is what an
update calls a tool that it does not name: the announcement repeats the word, and the item keeps the
name it was given before.

Later updates about the call go on changing its item, and the start of a call, or the call itself,
makes it run again. That is not announced, and neither is the end that follows: within a stretch
there is one announcement for a key. So the item has the status that was announced for as long as no
update gives it another one.
-/

namespace AgentFeed

/-! ## 1. One step -/

namespace Action

variable (freshId : String) (s : Accumulation) {a : Action}

/-- What is announced is the end of a call that was not announced before. -/
theorem of_settled {t : ToolSettled} (h : (a.step freshId s).settled = some t) :
    (∃ result, a = .tool t.key (.settle t.name result)) ∧ t.status = .done ∧
      t.key ∈ (a.step freshId s).state.settledTools ∧
      (a.step freshId s).state.toolItems.get? t.key = some t.itemId := by
  cases hend : a.endedCall? with
  | none =>
    have hreset : a.isReset = false := by
      cases a with
      | reset => cases h
      | _ => rfl
    rw [(step_of_no_end freshId s hend hreset).1] at h
    cases h
  | some call =>
    obtain ⟨key, name⟩ := call
    obtain ⟨hsettled, hrecord, hitem⟩ := step_of_end freshId s hend
    rw [hsettled, Option.ite_none_left_eq_some] at h
    obtain ⟨-, h⟩ := h
    obtain rfl := Option.some.inj h
    rw [hrecord]
    exact ⟨eq_settle_of_endedCall? hend, rfl, List.mem_insert_self, hitem⟩

/-- A call that was announced stays on record, and is not announced again. -/
theorem settled_stays (hreset : a.isReset = false) {key : String} (hmem : key ∈ s.settledTools) :
    key ∈ (a.step freshId s).state.settledTools ∧
      ∀ t ∈ (a.step freshId s).settled, t.key ≠ key := by
  cases hend : a.endedCall? with
  | none =>
    obtain ⟨hsettled, hrecord⟩ := step_of_no_end freshId s hend hreset
    rw [hsettled, hrecord]
    exact ⟨hmem, fun t ht => absurd ht (Option.not_mem_none t)⟩
  | some call =>
    obtain ⟨other, name⟩ := call
    obtain ⟨hsettled, hrecord, -⟩ := step_of_end freshId s hend
    rw [hsettled, hrecord]
    refine ⟨List.mem_insert_of_mem hmem, fun t ht heq => ?_⟩
    rw [Option.mem_def, Option.ite_none_left_eq_some] at ht
    obtain ⟨hnew, ht⟩ := ht
    obtain rfl := Option.some.inj ht
    have hkey : other = key := heq
    exact hnew (hkey ▸ hmem)

end Action

/-- A call counts as ended after any statuses that do not make it run again. -/
theorem ToolStatus.isTerminal_last {status : ToolStatus} (h : status.isTerminal = true)
    {given : List ToolStatus} (hrunning : .running ∉ given) :
    (given.getLast?.getD status).isTerminal = true := by
  cases hlast : given.getLast? with
  | none => exact h
  | some last =>
    have hne : last ≠ .running := fun heq => hrunning (heq ▸ List.mem_of_getLast? hlast)
    cases last with
    | running => exact absurd rfl hne
    | done => rfl
    | error => rfl

/-- What an end says about a call: that it is done, and the name of the tool. -/
theorem UpdateKind.views_of_settle {u : UpdateKind} {key name : String} {result : Json}
    (h : u.toolChange? = some (key, .settle name result)) :
    u.toolStatus? = some .done ∧ u.toolName? = some name := by
  cases u with
  | toolResult k called value =>
    cases h
    exact ⟨rfl, rfl⟩
  | toolError k called error =>
    cases h
    exact ⟨rfl, rfl⟩
  | toolOutputDenied k called reason =>
    cases h
    exact ⟨rfl, rfl⟩
  | _ => cases h

/-- An end gives a call its name, and leaves it the name it has if the tool is not named. -/
theorem ToolProgress.next_of_settle (p : ToolProgress) {u : UpdateKind} {key name : String}
    {result : Json} (h : u.toolChange? = some (key, .settle name result)) :
    (p.next u).status = .done ∧
      (p.next u).name = if name = Part.unnamedTool then p.name else name := by
  obtain ⟨hstatus, hname⟩ := UpdateKind.views_of_settle h
  rw [next, hstatus, UpdateKind.properToolName?, hname, Option.bind_some]
  refine ⟨rfl, ?_⟩
  split <;> rfl

namespace Delivery

/-! ## 2. A run -/

section Run

variable {σ : Type} [FeedSink σ]

/-- A call was announced before, and what is announced since is about others. -/
structure AnnouncedBefore (before d : Delivery σ) (key : String) : Prop where
  /-- The call is on record. -/
  record : key ∈ d.state.settledTools
  /-- The announcements since. -/
  others : ∃ more, d.host.announced = before.host.announced ++ more ∧ ∀ t ∈ more, t.key ≠ key

theorem AnnouncedBefore.perform {before d : Delivery σ} {key : String}
    (h : before.AnnouncedBefore d key) (dispatcher : Dispatcher) {a : Action}
    (hreset : a.isReset = false) : before.AnnouncedBefore (d.perform dispatcher a) key := by
  obtain ⟨more, hmore, hkeys⟩ := h.others
  obtain ⟨hrecord, hothers⟩ := Action.settled_stays d.host.ids.head d.state hreset h.record
  have hstep := d.announced_perform dispatcher a
  rw [hmore, List.append_assoc] at hstep
  refine ⟨hrecord, _, hstep, List.forall_mem_append.2 ⟨hkeys, fun t ht => ?_⟩⟩
  exact hothers t (Option.mem_toList.1 ht)

/-- A call that was announced is not announced again, until everything is forgotten. -/
theorem announcedBefore_updateAll {d : Delivery σ} {key : String}
    (hmem : key ∈ d.state.settledTools) {updates : List StreamUpdate}
    (hresets : ∀ u ∈ updates, u.kind.startsTurn = false) :
    d.AnnouncedBefore (d.updateAll updates) key := by
  induction updates using List.reverseRecOn with
  | nil => exact ⟨hmem, [], (List.append_nil _).symm, fun t ht => absurd ht List.not_mem_nil⟩
  | append_singleton updates u ih =>
    obtain ⟨hbefore, hlast⟩ := List.forall_mem_append.1 hresets
    rw [updateAll_concat, update_eq]
    refine (ih hbefore).perform _ ((u.kind.action_views _ _).1.trans ?_)
    exact hlast u (List.mem_singleton_self u)

end Run

/-- One item has an id, and it shows a tool call with a name and a status. -/
def ShowsTool (d : Delivery Feed) (id name : String) (status : ToolStatus) : Prop :=
  ∃ item args result, d.sink.items.filter (·.id = id) = [item] ∧
    item.body = .tool status name args result

variable {d : Delivery Feed} {key id : String} {n : Nat} {p : ToolProgress}

theorem Follows.showsTool (h : d.Follows key id n p) (hcoherent : d.Coherent) :
    d.ShowsTool id p.name p.status := by
  obtain ⟨item, hitem, rfl, hbody⟩ := h.getElem?
  have hnames : d.sink.Names item.id (· = p.body) :=
    ⟨item, List.mem_of_getElem? hitem, rfl, hbody⟩
  obtain ⟨only, honly, hshows⟩ := hnames.filter_eq hcoherent.distinct
  exact ⟨only, p.args, p.result, honly, hshows⟩

/-- The item of an announced call: the one it had, or a new one. -/
theorem Coherent.follows_announced (h : d.Coherent) (hconsistent : d.state.Consistent)
    (dispatcher : Dispatcher) {u : UpdateKind} {t : ToolSettled} {result : Json}
    (hchange : u.toolChange? = some (t.key, .settle t.name result))
    (hitem : (d.perform dispatcher (.tool t.key (.settle t.name result))).state.toolItems.get? t.key
      = some t.itemId) :
    ∃ n before, (d.perform dispatcher (.tool t.key (.settle t.name result))).Follows t.key t.itemId
        n (before.next u) ∧ (before = {} ∨ d.Follows t.key t.itemId n before) := by
  cases hknown : d.state.toolItems.get? t.key with
  | some id =>
    obtain ⟨n, before, hfollows⟩ := h.exists_follows hknown
    have hnext := (h.follows_perform_tool hfollows dispatcher hchange).1
    obtain rfl := Option.some.inj (hnext.item.symm.trans hitem)
    exact ⟨n, before, hnext, .inr hfollows⟩
  | none =>
    have hinput := hconsistent.toolInputs_eq_none hknown
    have hend : ∀ other, ToolChange.settle t.name result ≠ .inputEnd other :=
      fun other => ToolChange.noConfusion
    have hnext := (follows_perform_of_news hknown hinput dispatcher hchange hend).1
    rw [Option.some.inj (hnext.item.symm.trans hitem)] at hnext
    exact ⟨_, {}, hnext, .inl rfl⟩

/-! ## 3. Every run -/

/-- **An announcement says what the item shows.** Whenever one comes, after any updates: its status
is that of a call that has ended; exactly one item has its id, and that is a tool call with the
status, and with the name unless the announcement says that the tool has none, in which case the
item keeps the name it had. Until everything is forgotten, the item is a tool call with the status
that an update about the call gave it last, so it counts as ended for as long as none starts the
call anew; and however that may be, no other announcement is made for the call. -/
theorem announced_call_agrees_with_item (dispatcher : Dispatcher) (host : Host)
    (hids : host.ids.NeverRepeats) (before : List StreamUpdate) (u : StreamUpdate)
    (t : ToolSettled) :
    let d : Delivery Feed :=
      updateAll { dispatcher, state := .empty, sink := Feed.empty, host } before
    (d.update u).host.announced = d.host.announced ++ [t] →
      t.status.isTerminal = true ∧
      (∃ name, (d.update u).ShowsTool t.itemId name t.status ∧
        (name = t.name ∨
          t.name = Part.unnamedTool ∧ ∃ status, d.ShowsTool t.itemId name status)) ∧
      ∀ later, (∀ v ∈ later, v.kind.startsTurn = false) →
        let after := (d.update u).updateAll later
        let statuses := (later.filterMap (StreamUpdate.about? t.key)).filterMap
          UpdateKind.toolStatus?
        let status := statuses.getLast?.getD t.status
        (∃ name, after.ShowsTool t.itemId name status) ∧
          (ToolStatus.running ∉ statuses → status.isTerminal = true) ∧
          ∃ more, after.host.announced = (d.update u).host.announced ++ more ∧
            ∀ s ∈ more, s.key ≠ t.key := by
  intro d hannounced
  have hcoherent : d.Coherent := (coherent_start dispatcher hids).updateAll before
  have hconsistent : d.state.Consistent :=
    consistent_updateAll Accumulation.consistent_empty before
  have hsettled : ((u.kind.action d.dispatcher.previewLimit u.turnId).step
      d.host.ids.head d.state).settled = some t := by
    rw [update_eq, announced_perform, List.append_cancel_left_eq] at hannounced
    exact Option.toList_eq_singleton_iff.1 hannounced
  obtain ⟨⟨result, haction⟩, hdone, hrecord, hitem⟩ := Action.of_settled _ _ hsettled
  have hchange : u.kind.toolChange? = some (t.key, .settle t.name result) := by
    rw [← (u.kind.action_views d.dispatcher.previewLimit u.turnId).2.2, haction]
    rfl
  have hupdate : d.update u
      = d.perform d.dispatcher (.tool t.key (.settle t.name result)) := by
    rw [update_eq, haction]
  rw [haction] at hrecord hitem
  obtain ⟨n, p, hfollows, hearlier⟩ :=
    hcoherent.follows_announced hconsistent d.dispatcher hchange hitem
  rw [← hupdate] at hfollows
  have hnow := hcoherent.update u
  obtain ⟨hstatus, hname⟩ := p.next_of_settle hchange
  have hterminal : t.status.isTerminal = true := congrArg ToolStatus.isTerminal hdone
  refine ⟨hterminal, ⟨(p.next u.kind).name, ?_, ?_⟩, fun later hlater => ?_⟩
  · rw [hdone, ← hstatus]
    exact hfollows.showsTool hnow
  · rw [hname]
    by_cases hplaceholder : t.name = Part.unnamedTool
    · rw [if_pos hplaceholder]
      rcases hearlier with rfl | hearlier
      · exact .inl hplaceholder.symm
      · exact .inr ⟨hplaceholder, p.status, hearlier.showsTool hcoherent⟩
    · rw [if_neg hplaceholder]
      exact .inl rfl
  · intro after statuses status
    have hafter := hnow.follows_updateAll hfollows hlater
    have hstatuses : status = (List.foldl ToolProgress.next (p.next u.kind)
        (later.filterMap (StreamUpdate.about? t.key))).status := by
      rw [ToolProgress.status_foldl, hstatus, ← hdone]
    refine ⟨⟨_, hstatuses ▸ hafter.showsTool (hnow.updateAll later)⟩,
      ToolStatus.isTerminal_last hterminal, ?_⟩
    refine (announcedBefore_updateAll ?_ hlater).others
    rw [hupdate]
    exact hrecord

/-- A call of a tool by its name. -/
def namedCall : StreamUpdate :=
  ⟨"t", .toolCall "k" "bash" none⟩

/-- The end of the call, by an update that does not name the tool. -/
def unnamedEnd : StreamUpdate :=
  ⟨"t", .toolResult "k" Part.unnamedTool (.bool true)⟩

/-- The call is announced as done; it is done again when it has been started anew and has ended a
second time, and that is not announced. -/
theorem announced_call_agrees_with_item_sample :
    (Supply.numbered "item").NeverRepeats ∧
      let start : Delivery Feed :=
        { dispatcher := {}, state := .empty, sink := Feed.empty
          host := { ids := .numbered "item", clock := .constant "now" } }
      let d := start.updateAll [namedCall]
      let t : ToolSettled :=
        { key := "k", name := Part.unnamedTool, itemId := "item-1", status := .done }
      (d.update unnamedEnd).host.announced = d.host.announced ++ [t] ∧
        (∃ name, (d.update unnamedEnd).ShowsTool "item-1" name .done) ∧
        (∀ v ∈ [namedCall, unnamedEnd], v.kind.startsTurn = false) ∧
        let after := (d.update unnamedEnd).updateAll [namedCall, unnamedEnd]
        (∃ name, after.ShowsTool "item-1" name .done) ∧
          ∃ more, after.host.announced = (d.update unnamedEnd).host.announced ++ more ∧
            ∀ s ∈ more, s.key ≠ "k" := by
  obtain ⟨-, ⟨name, hshows, -⟩, hlater⟩ := announced_call_agrees_with_item {}
    { ids := .numbered "item", clock := .constant "now" } (Supply.numbered_neverRepeats "item")
    [namedCall] unnamedEnd
    { key := "k", name := Part.unnamedTool, itemId := "item-1", status := .done } rfl
  obtain ⟨hafter, -, hothers⟩ := hlater [namedCall, unnamedEnd] (by decide)
  exact ⟨Supply.numbered_neverRepeats "item", rfl, ⟨name, hshows⟩, by decide, hafter, hothers⟩

/-- An announcement need not have the name of the item, and the item need not stay as it was
announced: here it is called by another name, runs again, and ends again without a word. -/
theorem announced_call_runs_again :
    (Supply.numbered "item").NeverRepeats ∧
      let start : Delivery Feed :=
        { dispatcher := {}, state := .empty, sink := Feed.empty
          host := { ids := .numbered "item", clock := .constant "now" } }
      let ended := start.updateAll [namedCall, unnamedEnd]
      ended.host.announced
          = [{ key := "k", name := Part.unnamedTool, itemId := "item-1", status := .done }] ∧
        ended.ShowsTool "item-1" "bash" .done ∧ Part.unnamedTool ≠ "bash" ∧
        namedCall.kind.startsTurn = false ∧
        (ended.update namedCall).ShowsTool "item-1" "bash" .running ∧
        ToolStatus.running.isTerminal = false ∧
        ((ended.update namedCall).update unnamedEnd).host.announced = ended.host.announced :=
  ⟨Supply.numbered_neverRepeats "item", rfl, ⟨_, _, _, rfl, rfl⟩, by decide, rfl,
    ⟨_, _, _, rfl, rfl⟩, rfl, rfl⟩

end Delivery

end AgentFeed
