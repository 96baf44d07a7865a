import AgentFeed.Proofs.Announcements
import AgentFeed.Proofs.Conservation
import AgentFeed.Proofs.LiveReplay
import AgentFeed.Proofs.Opening

/-!
# Announcements over the life of a thread

That the end of a call is announced once is a promise within one memory, and a thread has many: a
session that is attached forgets, and a thread that is opened is replayed with a memory of its own
and with the host of all threads. So an end is announced when it happens, and again each time the
thread is opened after it was closed (`Registry.openings_announce_recorded_ends`).

`Traffic.firstEnds` lists the ends in some traffic that are the first of their call since the last
reset. `RegistryEvent.ends` says with it which announcements an event brings, from nothing but the
accounts of the threads and what each session has heard since it was opened or attached. One event
is `RegistryEvent.announces_step`, a run is `Registry.announces_run`.
-/

namespace AgentFeed

/-! ## 1. First ends -/

namespace Traffic

/-- The call that a payload is the first to end since the last reset, by its key, with the name that
it gives the tool. -/
def firstEnd? (before : List Json) (p : Json) : Option (String × String) :=
  (endedCall? p).filter fun call => call.1 ∉ endedKeys (stretch before)

/-- The calls that payloads are the first to end, behind other payloads. -/
def firstEndsAfter (before : List Json) : List Json → List (String × String)
  | [] => []
  | p :: rest => (firstEnd? before p).toList ++ firstEndsAfter (before ++ [p]) rest

/-- The calls that payloads are the first to end. -/
def firstEnds (payloads : List Json) : List (String × String) :=
  firstEndsAfter [] payloads

/-- Where a call ends, one ends first. -/
theorem firstEnds_eq_nil_iff {payloads : List Json} :
    firstEnds payloads = [] ↔ ∀ p ∈ payloads, endedCall? p = none := by
  -- What came before matters only through the calls that ended in it, and none has.
  have hafter : ∀ before : List Json, (∀ p ∈ before, endedCall? p = none) →
      (firstEndsAfter before payloads = [] ↔ ∀ p ∈ payloads, endedCall? p = none) := by
    induction payloads with
    | nil => exact fun _ _ => ⟨fun _ => List.forall_mem_nil _, fun _ => rfl⟩
    | cons p rest ih =>
      intro before hbefore
      have hkeys : endedKeys (stretch before) = [] := by
        rw [endedKeys, List.filterMap_eq_nil_iff]
        intro q hq
        rw [hbefore q ((List.rtakeWhile_suffix _ _).subset hq)]
        rfl
      have hfirst : firstEnd? before p = endedCall? p := by
        rw [firstEnd?, hkeys]
        cases endedCall? p <;> rfl
      rw [firstEndsAfter, hfirst, List.append_eq_nil_iff, Option.toList_eq_nil_iff,
        List.forall_mem_cons]
      refine and_congr_right fun hnone => ih _ ?_
      exact List.forall_mem_append.2 ⟨hbefore, List.forall_mem_singleton.2 hnone⟩
  exact hafter [] (List.forall_mem_nil _)

end Traffic

/-! ## 2. Threads at work -/

/-- The call that was announced, with the name that its end gave the tool. -/
def ToolSettled.call (t : ToolSettled) : String × String :=
  (t.key, t.name)

/-- A host that was told of the ends of calls, one by one. -/
def Host.Announces (h h' : Host) (calls : List (String × String)) : Prop :=
  ∃ ended, h'.announced = h.announced ++ ended ∧ ended.map (·.call) = calls

namespace Host.Announces

variable {h h' h'' : Host} {calls later : List (String × String)}

theorem none (heq : h'.announced = h.announced) : h.Announces h' [] :=
  ⟨[], heq.trans (List.append_nil _).symm, rfl⟩

theorem trans (hfirst : h.Announces h' calls) (hsecond : h'.Announces h'' later) :
    h.Announces h'' (calls ++ later) := by
  obtain ⟨ended, heq, rfl⟩ := hfirst
  obtain ⟨more, heq', rfl⟩ := hsecond
  refine ⟨ended ++ more, ?_, List.map_append⟩
  rw [heq', heq, List.append_assoc]

/-- Nothing was said exactly if nothing new is known. -/
theorem eq_iff (h' : h.Announces h'' calls) : h''.announced = h.announced ↔ calls = [] := by
  obtain ⟨ended, heq, rfl⟩ := h'
  rw [heq, List.append_right_eq_self, List.map_eq_nil_iff]

end Host.Announces

/-- The calls on record as announced are those that ended since the last reset. -/
def Accumulation.KnowsEnds (s : Accumulation) (heard : List Json) : Prop :=
  ∀ key, key ∈ s.settledTools ↔ key ∈ Traffic.endedKeys (Traffic.stretch heard)

theorem Accumulation.knowsEnds_empty : empty.KnowsEnds [] := fun _ => Iff.rfl

namespace Delivery

variable {σ : Type} [FeedSink σ] {d : Delivery σ} {heard : List Json}

/-- **One payload.** The first end of a call is announced, and nothing else is. -/
theorem announces_payload (hknows : d.state.KnowsEnds heard) (p : Json) :
    d.host.Announces (d.payload p).host (Traffic.firstEnd? heard p).toList ∧
      (d.payload p).state.KnowsEnds (heard ++ [p]) := by
  have hannounced := d.announced_payload p
  have hstate := d.state_payload p
  have hend := d.dispatcher.endedCall?_action d.state p
  have hisReset := d.dispatcher.isReset_action d.state (WireMessage.decode p)
  rw [Accumulation.KnowsEnds, Traffic.stretch_concat]
  cases hcall : Traffic.endedCall? p with
  | none =>
    rw [Traffic.firstEnd?, hcall]
    rw [hcall] at hend
    cases hreset : Traffic.resets p with
    | true =>
      rw [if_pos rfl, d.payload_of_resets hreset]
      exact ⟨.none rfl, fun _ => Iff.rfl⟩
    | false =>
      obtain ⟨hsettled, htools⟩ :=
        Action.step_of_no_end d.host.ids.head d.state hend (hisReset.trans hreset)
      rw [hsettled, Option.toList_none, List.append_nil] at hannounced
      refine ⟨.none hannounced, fun key => ?_⟩
      rw [if_neg Bool.false_ne_true, hstate, htools, Traffic.endedKeys_concat, hcall, hknows]
      simp
  | some call =>
    obtain ⟨key, name⟩ := call
    rw [hcall] at hend
    obtain ⟨hsettled, htools, -⟩ := Action.step_of_end d.host.ids.head d.state hend
    rw [hsettled] at hannounced
    rw [Traffic.not_resets_of_endedCall? hcall, if_neg Bool.false_ne_true]
    constructor
    · refine ⟨_, hannounced, ?_⟩
      rw [Traffic.firstEnd?, hcall, Option.filter_some]
      by_cases hmem : key ∈ d.state.settledTools
      · rw [if_pos hmem, if_neg (by simpa using (hknows key).1 hmem)]
        rfl
      · rw [if_neg hmem, if_pos (by simpa using mt (hknows key).2 hmem)]
        rfl
    · intro other
      rw [hstate, htools, List.mem_insert_iff, Traffic.endedKeys_concat, hcall, hknows]
      simp [or_comm]

/-- A prompt ends no call. -/
theorem announces_userMessage (hknows : d.state.KnowsEnds heard) (text : String)
    (id : Option String) :
    d.host.Announces (d.message (.userMessage text id)).host [] ∧
      (d.message (.userMessage text id)).state.KnowsEnds heard := by
  rw [message_eq, Dispatcher.action]
  split
  · exact ⟨.none (List.append_nil _), hknows⟩
  · exact ⟨.none (List.append_nil _), hknows⟩

/-- Payloads announce the calls that they are the first to end. -/
theorem announces_deliverAll (hknows : d.state.KnowsEnds heard) (payloads : List Json) :
    d.host.Announces (d.deliverAll payloads).host (Traffic.firstEndsAfter heard payloads) := by
  induction payloads generalizing d heard with
  | nil => exact .none rfl
  | cons p rest ih =>
    obtain ⟨hfirst, hnext⟩ := announces_payload hknows p
    exact hfirst.trans (ih hnext)

end Delivery

/-! ## 3. Sessions -/

namespace SessionEvent

/-- What a session has heard from the server since it was opened or attached. -/
def hear (s : ThreadSession) (heard : List Json) : SessionEvent → List Json
  | .attach _ => []
  | .receive payload => if s.isForeign payload then heard else heard ++ [payload]
  | .send _ _ _ => heard

/-- The call that an event is the first to end. -/
def firstEnd? (s : ThreadSession) (heard : List Json) : SessionEvent → Option (String × String)
  | .receive payload => if s.isForeign payload then none else Traffic.firstEnd? heard payload
  | _ => none

/-- **One event of a session** announces the call that it is the first to end. -/
theorem announces_step {s : ThreadSession} {heard : List Json} (hknows : s.state.KnowsEnds heard)
    (h : Host) (e : SessionEvent) :
    h.Announces (e.step s h).2 (e.firstEnd? s heard).toList ∧
      (e.step s h).1.state.KnowsEnds (e.hear s heard) := by
  cases e with
  | attach sessionId => exact ⟨.none rfl, Accumulation.knowsEnds_empty⟩
  | receive payload =>
    rw [firstEnd?, hear]
    cases hforeign : s.isForeign payload with
    | true =>
      rw [step, ThreadSession.receive, hforeign]
      exact ⟨.none rfl, hknows⟩
    | false =>
      rw [step, ThreadSession.receive, hforeign]
      exact Delivery.announces_payload (d := s.delivery h.takeTime.2) hknows payload
  | send accepted text clientMessageId =>
    have hdrawn := (send accepted text clientMessageId).drawn_spec h
    obtain ⟨hquiet, hstate⟩ := Delivery.announces_userMessage
      (d := s.delivery ((send accepted text clientMessageId).drawn h)) hknows text
      (some (clientMessageId.getD h.ids.head))
    rw [(send accepted text clientMessageId).step_of_shown s h rfl]
    exact ⟨(Host.Announces.none hdrawn.announced).trans hquiet, hstate⟩

end SessionEvent

/-! ## 4. The registry -/

namespace RegistryEvent

variable {σ : Type} [TranscriptStore σ]

/-- What the sessions have heard since they were opened or attached. -/
def hear (r : Registry σ) (heard : String → List Json) : RegistryEvent σ → String → List Json
  | .openThread threadId =>
    match r.get? threadId with
    | some _ => heard
    | none => Function.update heard threadId []
  | .session threadId event =>
    match r.get? threadId with
    | some s => Function.update heard threadId (event.hear s (heard threadId))
    | none => heard
  | _ => heard

/-- The ends that an event announces. Opening a thread that was closed announces all ends that the
account of the thread has to offer; an event of an open thread, the one that it is the first to
report since the thread was opened or attached; and no other event announces any. -/
def ends (r : Registry σ) (account : String → List TranscriptEntry)
    (heard : String → List Json) : RegistryEvent σ → List (String × String)
  | .openThread threadId =>
    match r.get? threadId, (r.openThread threadId).1 with
    | none, .ok _ => Traffic.firstEnds (TranscriptEntry.payloads (account threadId))
    | _, _ => []
  | .session threadId event =>
    match r.get? threadId with
    | some s => (event.firstEnd? s (heard threadId)).toList
    | none => []
  | _ => []

end RegistryEvent

namespace Registry

variable {σ : Type} {r r' : Registry σ} {heard : String → List Json}

/-- Every session knows what ended since it was opened or attached. -/
def KnowsEnds (r : Registry σ) (heard : String → List Json) : Prop :=
  ∀ threadId s, r.get? threadId = some s → s.state.KnowsEnds (heard threadId)

theorem knowsEnds_of_closed (h : r.sessions = []) (heard : String → List Json) :
    r.KnowsEnds heard := by
  intro threadId s hs
  rw [get?, h] at hs
  cases hs

/-- Sessions that remember the same know the same. -/
theorem KnowsEnds.of_state_eq (h : r.KnowsEnds heard) (hstate : ∀ threadId s',
    r'.get? threadId = some s' → ∃ s, r.get? threadId = some s ∧ s'.state = s.state) :
    r'.KnowsEnds heard := by
  intro threadId s' hs'
  obtain ⟨s, hs, heq⟩ := hstate threadId s' hs'
  rw [heq]
  exact h threadId s hs

theorem KnowsEnds.insert (h : r.KnowsEnds heard) {threadId : String} {s : ThreadSession}
    {payloads : List Json} (hsessions : r'.sessions = r.sessions.insert threadId s)
    (hnew : s.state.KnowsEnds payloads) :
    r'.KnowsEnds (Function.update heard threadId payloads) := by
  intro other s' hs'
  rw [get?, hsessions, Table.get?_insert] at hs'
  by_cases heq : threadId = other
  · rw [if_pos heq] at hs'
    rw [← Option.some.inj hs', ← heq, Function.update_self]
    exact hnew
  · rw [if_neg heq] at hs'
    rw [Function.update_of_ne (Ne.symm heq)]
    exact h other s' hs'

theorem KnowsEnds.map (h : r.KnowsEnds heard) (change : String → ThreadSession → ThreadSession)
    (hsessions : r'.sessions = r.sessions.map fun pair => (pair.1, change pair.1 pair.2))
    (hstate : ∀ id s, (change id s).state = s.state) : r'.KnowsEnds heard := by
  refine h.of_state_eq fun threadId s' hs' => ?_
  rw [get?, hsessions] at hs'
  obtain ⟨s, hs, rfl⟩ := Option.map_eq_some_iff.1 ((Table.get?_map change _ _).symm.trans hs')
  exact ⟨s, hs, hstate threadId s⟩

/-- A session that is dropped knows nothing. -/
theorem KnowsEnds.erase (h : r.KnowsEnds heard) {threadId : String}
    (hsessions : r'.sessions = r.sessions.erase threadId) : r'.KnowsEnds heard := by
  refine h.of_state_eq fun other s hs => ?_
  rw [get?, hsessions, Table.get?_erase] at hs
  split at hs
  · cases hs
  · exact ⟨s, hs, rfl⟩

section Operations

variable [TranscriptStore σ] {account : String → List TranscriptEntry}

/-- A thread that was closed is opened with a replay of its account. -/
theorem opened_announces [LawfulStore σ] {threadId : String} {entries own : List TranscriptEntry}
    (hclosed : r.get? threadId = none)
    (hread : TranscriptStore.read r.store threadId = .ok entries)
    (hbalance : r.balance threadId = own) :
    r.host.Announces (r.openThread threadId).2.host
      (Traffic.firstEnds (TranscriptEntry.payloads own)) := by
  have hentries : own = entries := by
    rw [LawfulStore.read_ok hread, ← hbalance, balance, pendingOf_of_not_open hclosed,
      List.append_nil]
  rw [r.openThread_eq hclosed hread, hentries]
  exact Delivery.announces_deliverAll Accumulation.knowsEnds_empty _

/-- **Opening a thread** announces the ends that its account has to offer, unless it is open already
or its transcript cannot be read. -/
theorem openThread_announces [LawfulStore σ] (hknows : r.KnowsEnds heard)
    (hbalance : ∀ threadId, r.balance threadId = account threadId) (threadId : String) :
    let e : RegistryEvent σ := .openThread threadId
    r.host.Announces (e.step r).host (e.ends r account heard) ∧
      (e.step r).KnowsEnds (e.hear r heard) := by
  intro e
  rw [RegistryEvent.step, RegistryEvent.ends, RegistryEvent.hear]
  cases hget : r.get? threadId with
  | some s =>
    have hopen : r.openThread threadId = (.ok s, r) := by
      rw [openThread, hget]
    rw [hopen]
    exact ⟨.none rfl, hknows⟩
  | none =>
    cases hread : TranscriptStore.read r.store threadId with
    | error failure =>
      have hopen : r.openThread threadId = (.error failure, r) := by
        simp only [openThread, hget, hread]
      rw [hopen]
      -- The thread stays closed, so nothing is asked of it.
      refine ⟨.none rfl, fun other s hs => ?_⟩
      have hne : other ≠ threadId := by
        rintro rfl
        cases hget.symm.trans hs
      dsimp only
      rw [Function.update_of_ne hne]
      exact hknows other s hs
    | ok entries =>
      have hannounces := opened_announces hget hread (hbalance threadId)
      rw [r.openThread_eq hget hread] at hannounces ⊢
      exact ⟨hannounces, hknows.insert rfl Accumulation.knowsEnds_empty⟩

/-- **An event of a thread** announces the end that it is the first to report. -/
theorem session_announces (hknows : r.KnowsEnds heard) (threadId : String) (event : SessionEvent) :
    let e : RegistryEvent σ := .session threadId event
    r.host.Announces (e.step r).host (e.ends r account heard) ∧
      (e.step r).KnowsEnds (e.hear r heard) := by
  intro e
  rw [RegistryEvent.ends, RegistryEvent.hear]
  rcases r.session_cases threadId event with ⟨hget, hstep⟩ | ⟨s, hget, hstep⟩
  · rw [hstep, hget]
    exact ⟨.none rfl, hknows⟩
  · obtain ⟨hannounces, hstate⟩ := SessionEvent.announces_step (hknows threadId s hget) r.host event
    rw [hstep, hget]
    exact ⟨hannounces, hknows.insert rfl hstate⟩

/-- Writing leaves every session with what it remembers. -/
theorem flush_announces_none (hknows : r.KnowsEnds heard) :
    r.host.Announces r.flush.2.host [] ∧ r.flush.2.KnowsEnds heard := by
  rcases r.flush_cases with ⟨-, heq⟩ | ⟨store, -, heq⟩ | ⟨failure, store, -, heq⟩
  · rw [heq]
    exact ⟨.none rfl, hknows⟩
  · rw [heq]
    exact ⟨.none rfl, hknows.map (fun _ s => s.takePending.2) rfl fun _ _ => rfl⟩
  · rw [heq]
    exact ⟨.none rfl, hknows.map (fun id s => s.takePending.2.requeue (EntryBatch.ofThread
      (EntryBatch.without r.allPending failure.writtenThreads) id)) rfl fun _ _ => rfl⟩

/-- A thread that is closed is dropped, or stays as it is. -/
theorem teardown_announces_none (hknows : r.KnowsEnds heard) (threadId : String) :
    r.host.Announces (r.teardown threadId).2.host [] ∧
      (r.teardown threadId).2.KnowsEnds heard := by
  rcases r.teardown_cases threadId with heq | ⟨s, hget, ⟨store, -, heq⟩ | ⟨failure, store, -, heq⟩⟩
  · rw [heq]
    exact ⟨.none rfl, hknows⟩
  · rw [heq]
    exact ⟨.none rfl, hknows.erase rfl⟩
  · rw [heq]
    have hsame : KnowsEnds { r with
        store
        sessions := r.sessions.insert threadId { s with pending := s.pending ++ [] } }
        (Function.update heard threadId (heard threadId)) :=
      hknows.insert rfl (hknows threadId s hget)
    rw [Function.update_eq_self] at hsame
    exact ⟨.none rfl, hsame⟩

end Operations

end Registry

/-! ## 5. Every run -/

variable {σ : Type} [TranscriptStore σ]

/-- The ends that a sequence of events announces. -/
def Registry.ends (r : Registry σ) (account : String → List TranscriptEntry)
    (heard : String → List Json) : List (RegistryEvent σ) → List (String × String)
  | [] => []
  | e :: rest => e.ends r account heard
      ++ (e.step r).ends (fun threadId => e.book r threadId (account threadId)) (e.hear r heard) rest

variable [LawfulStore σ] {r : Registry σ} {account : String → List TranscriptEntry}
  {heard : String → List Json}

/-- **One event** announces the ends it should, and sessions know what ended. -/
theorem RegistryEvent.announces_step (hknows : r.KnowsEnds heard)
    (hbalance : ∀ threadId, r.balance threadId = account threadId) (e : RegistryEvent σ) :
    r.host.Announces (e.step r).host (e.ends r account heard) ∧
      (e.step r).KnowsEnds (e.hear r heard) := by
  cases e with
  | openThread threadId => exact Registry.openThread_announces hknows hbalance threadId
  | session threadId event => exact Registry.session_announces hknows threadId event
  | flush => exact Registry.flush_announces_none hknows
  | teardown threadId => exact Registry.teardown_announces_none hknows threadId
  | delete threadId => exact ⟨.none rfl, hknows.erase rfl⟩
  | outside change => exact ⟨.none rfl, hknows⟩

namespace Registry

theorem announces_run (htidy : r.Tidy) (hknows : r.KnowsEnds heard)
    (hbalance : ∀ threadId, r.balance threadId = account threadId)
    {events : List (RegistryEvent σ)} (hok : r.Succeeds events) :
    r.host.Announces (r.run events).host (r.ends account heard events) := by
  induction events generalizing r account heard with
  | nil => exact .none rfl
  | cons e rest ih =>
    obtain ⟨hstep, hrest⟩ := hok
    obtain ⟨hfirst, hnext⟩ := e.announces_step hknows hbalance
    obtain ⟨htidy', hbooked⟩ := RegistryEvent.step_balances htidy hstep
    refine hfirst.trans (ih htidy' hnext (fun threadId => ?_) hrest)
    rw [hbooked, hbalance]

/-- **Opening a thread announces again what its transcript records.** Start with no thread open, and
let happen what may, as long as deletions succeed and nobody else touches what is stored. What is
announced on the way is, event by event: the end of a call, when it is the first one since the
thread was opened or attached and since the last reset; and all such ends in the account of a
thread, when the thread is opened and was not open. So opening is silent for a thread that is open,
for one that cannot be read, and for one in whose account no call ends, and for no other. -/
theorem openings_announce_recorded_ends (r : Registry σ) (hclosed : r.sessions = [])
    (events : List (RegistryEvent σ)) (hok : r.Succeeds events) :
    let stored := LawfulStore.entries r.store
    let now := r.run events
    r.host.Announces now.host (r.ends stored (fun _ => []) events) ∧
      ∀ threadId, let account := r.ledger threadId (stored threadId) events
        (∀ s, now.get? threadId = some s → now.openThread threadId = (.ok s, now)) ∧
        (∀ failure r', now.openThread threadId = (.error failure, r') → r' = now) ∧
        ∀ s r', now.get? threadId = none → now.openThread threadId = (.ok s, r') →
          now.host.Announces r'.host
              (Traffic.firstEnds (TranscriptEntry.payloads account)) ∧
            (r'.host.announced = now.host.announced ↔
              ∀ e ∈ account, Traffic.endedCall? e.payload = none) := by
  intro stored now
  have hstart : ∀ threadId, r.balance threadId = stored threadId := by
    intro threadId
    rw [balance, pendingOf_of_closed hclosed, List.append_nil]
  obtain ⟨-, hledger⟩ := run_balances (tidy_of_closed hclosed) hok
  refine ⟨announces_run (tidy_of_closed hclosed) (knowsEnds_of_closed hclosed _) hstart hok,
    fun threadId => ?_⟩
  intro account
  have hbalance : now.balance threadId = account := by
    rw [hledger, hstart]
  refine ⟨fun s hget => ?_, fun failure r' hopen => ?_, fun s r' hget hopen => ?_⟩
  · rw [openThread, hget]
  · rw [openThread] at hopen
    split at hopen
    · cases hopen
    · split at hopen
      · exact (Prod.mk.inj hopen).2.symm
      · cases hopen
  · cases hread : TranscriptStore.read now.store threadId with
    | error failure =>
      simp only [openThread, hget, hread] at hopen
      cases hopen
    | ok entries =>
      have hannounces := opened_announces hget hread hbalance
      rw [hopen] at hannounces
      refine ⟨hannounces, hannounces.eq_iff.trans (Traffic.firstEnds_eq_nil_iff.trans ?_)⟩
      exact List.forall_mem_map

/-- A thread in which a call ends, and its end is reported twice, before the thread is closed. -/
def endedCallRun : List (RegistryEvent MemoryStore) :=
  let result : Json := Traffic.chunkPayload "u" "tool-result"
    [("toolCallId", .string "k"), ("toolName", .string "write"), ("output", .bool true)]
  [.openThread "t", .session "t" (.attach "s"), .session "t" (.receive result),
    .session "t" (.receive result), .teardown "t"]

/-- In the sample the end is announced once, and once more when the thread is opened again. -/
theorem openings_announce_recorded_ends_sample :
    let r : Registry MemoryStore :=
      { store := {}, host := { ids := .numbered "item", clock := .numbered "time" } }
    let now := r.run endedCallRun
    r.sessions = [] ∧ r.Succeeds endedCallRun ∧
      r.host.Announces now.host [("k", "write")] ∧
      ∃ s r', now.openThread "t" = (.ok s, r') ∧ now.host.Announces r'.host [("k", "write")] := by
  intro r now
  have hok : r.Succeeds endedCallRun := ⟨trivial, trivial, trivial, trivial, trivial, trivial⟩
  have hlive : r.ends (LawfulStore.entries r.store) (fun _ => []) endedCallRun
      = [("k", "write")] := by decide +kernel
  have hrecorded : Traffic.firstEnds (TranscriptEntry.payloads
      (r.ledger "t" (LawfulStore.entries r.store "t") endedCallRun)) = [("k", "write")] := by
    decide +kernel
  have hclosed : (now.get? "t").isNone = true := by decide +kernel
  have hopens : (now.openThread "t").1.isOk = true := by decide +kernel
  obtain ⟨hannounced, hopenings⟩ := r.openings_announce_recorded_ends rfl endedCallRun hok
  obtain ⟨-, -, hopening⟩ := hopenings "t"
  rw [hlive] at hannounced
  rw [hrecorded] at hopening
  refine ⟨rfl, hok, hannounced, ?_⟩
  rcases hresult : now.openThread "t" with ⟨failure | s, r'⟩
  · rw [hresult] at hopens
    cases hopens
  · exact ⟨s, r', rfl, (hopening s r' (Option.isNone_iff_eq_none.1 hclosed) hresult).1⟩

/-- **Opening a thread is not silent.** -/
theorem reopening_announces_again :
    let r : Registry MemoryStore :=
      { store := {}, host := { ids := .numbered "item", clock := .numbered "time" } }
    let closed := r.run endedCallRun
    let opened := (closed.openThread "t").2
    closed.sessions.isEmpty = true ∧
      closed.host.announced.map (·.call) = [("k", "write")] ∧
      opened.host.announced.map (·.call) = [("k", "write"), ("k", "write")] := by
  decide +kernel

end Registry

end AgentFeed
