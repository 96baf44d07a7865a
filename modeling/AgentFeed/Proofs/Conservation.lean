import AgentFeed.Proofs.SessionRun
import AgentFeed.Proofs.StoreLaws
import AgentFeed.Proofs.Stretch
import AgentFeed.Registry

/-!
# No traffic is lost

Recorded traffic is pending in a session or stored in a transcript, and moves from the first to the
second when it is written. A store that fails half way leaves some threads of a batch written and
others not; the registry then takes back just those that were not, in front of anything newer.

`Registry.ledger` is the account of a thread that only looks at what is recorded and deleted. Over
every run, what is stored of a thread and what is pending for it add up to its ledger
(`run_balances`): no entry is missing, none is there twice, and none is out of order. One event at a
time this is `RegistryEvent.step_balances`, with a lemma for each operation of the registry.
-/

namespace AgentFeed

/-! ## 1. Runs of a registry -/

/-- What happens to a registry. -/
inductive RegistryEvent (σ : Type) where
  /-- A thread is opened. -/
  | openThread (threadId : String)
  /-- Something happens to a thread, if it is open. -/
  | session (threadId : String) (event : SessionEvent)
  /-- The recorded traffic of all open threads is written. -/
  | flush
  /-- A thread is closed, its traffic written first. -/
  | teardown (threadId : String)
  /-- A thread is closed and its transcript deleted. -/
  | delete (threadId : String)
  /-- Something happens to the store that is none of the registry's doing. -/
  | outside (change : σ → σ)

namespace Registry

variable {σ : Type}

/-- The traffic of a thread that waits to be written. -/
def pendingOf (r : Registry σ) (threadId : String) : List TranscriptEntry :=
  ((r.get? threadId).map (·.pending)).getD []

end Registry

namespace RegistryEvent

variable {σ : Type} [TranscriptStore σ]

/-- The registry after an event. -/
def step (r : Registry σ) : RegistryEvent σ → Registry σ
  | .openThread threadId => (r.openThread threadId).2
  | .session threadId event =>
    match r.withSession threadId fun s h => ((), event.step s h) with
    | some (_, r) => r
    | none => r
  | .flush => r.flush.2
  | .teardown threadId => (r.teardown threadId).2
  | .delete threadId => (r.delete threadId).2
  | .outside change => { r with store := change r.store }

/-- The account of a thread after an event: what is recorded is added, and a deleted thread begins
anew. -/
def book (r : Registry σ) (threadId : String) (account : List TranscriptEntry) :
    RegistryEvent σ → List TranscriptEntry
  | .session other event =>
    if other = threadId then
      account ++ ((r.get? threadId).map (event.recorded · r.host)).getD []
    else account
  | .delete other => if other = threadId then [] else account
  | _ => account

/-- A deletion is successful, and nobody else touches what is stored. -/
def Succeeds [LawfulStore σ] (r : Registry σ) : RegistryEvent σ → Prop
  | .delete threadId => (r.delete threadId).1 = .ok ()
  | .outside change =>
    ∀ threadId, LawfulStore.entries (change r.store) threadId = LawfulStore.entries r.store threadId
  | _ => True

end RegistryEvent

namespace Registry

section Runs

variable {σ : Type} [TranscriptStore σ]

/-- The registry after a sequence of events. -/
def run (r : Registry σ) (events : List (RegistryEvent σ)) : Registry σ :=
  events.foldl RegistryEvent.step r

/-- The account of a thread after a sequence of events. -/
def ledger (r : Registry σ) (threadId : String) (account : List TranscriptEntry) :
    List (RegistryEvent σ) → List TranscriptEntry
  | [] => account
  | e :: rest => (e.step r).ledger threadId (e.book r threadId account) rest

/-- All events of a run succeed when they come. -/
def Succeeds [LawfulStore σ] (r : Registry σ) : List (RegistryEvent σ) → Prop
  | [] => True
  | e :: rest => e.Succeeds r ∧ (e.step r).Succeeds rest

end Runs

/-! ## 2. Sessions in their places -/

variable {σ : Type}

/-- Every session stands under its own thread, once, and records traffic of that thread only. -/
structure Tidy (r : Registry σ) : Prop where
  /-- No thread is open twice. -/
  sorted : r.sessions.Sorted
  /-- A session stands under its thread. -/
  threadId_eq : ∀ threadId s, r.get? threadId = some s → s.threadId = threadId
  /-- Pending traffic belongs to the thread. -/
  pending_eq : ∀ threadId s, r.get? threadId = some s → ∀ e ∈ s.pending, e.threadId = threadId

theorem tidy_of_closed {r : Registry σ} (h : r.sessions = []) : r.Tidy := by
  refine ⟨h ▸ Table.sorted_nil, ?_, ?_⟩
  · intro threadId s hs
    rw [get?, h] at hs
    cases hs
  · intro threadId s hs
    rw [get?, h] at hs
    cases hs

theorem pendingOf_of_closed {r : Registry σ} (h : r.sessions = []) (threadId : String) :
    r.pendingOf threadId = [] := by
  rw [pendingOf, get?, h]
  rfl

variable {r r' : Registry σ} {threadId : String}

theorem Tidy.insert (h : r.Tidy) {s : ThreadSession}
    (hsessions : r'.sessions = r.sessions.insert threadId s) (hid : s.threadId = threadId)
    (hpending : ∀ e ∈ s.pending, e.threadId = threadId) : r'.Tidy := by
  have hget : ∀ other s', r'.get? other = some s' →
      threadId = other ∧ s = s' ∨ r.get? other = some s' := by
    intro other s' hs'
    rw [get?, hsessions, Table.get?_insert] at hs'
    by_cases heq : threadId = other
    · rw [if_pos heq] at hs'
      exact .inl ⟨heq, Option.some.inj hs'⟩
    · rw [if_neg heq] at hs'
      exact .inr hs'
  refine ⟨hsessions ▸ h.sorted.insert threadId s, ?_, ?_⟩
  · intro other s' hs'
    rcases hget other s' hs' with ⟨rfl, rfl⟩ | hold
    · exact hid
    · exact h.threadId_eq other s' hold
  · intro other s' hs'
    rcases hget other s' hs' with ⟨rfl, rfl⟩ | hold
    · exact hpending
    · exact h.pending_eq other s' hold

theorem Tidy.erase (h : r.Tidy) (hsessions : r'.sessions = r.sessions.erase threadId) :
    r'.Tidy := by
  have hget : ∀ other s, r'.get? other = some s → r.get? other = some s := by
    intro other s hs
    rw [get?, hsessions, Table.get?_erase] at hs
    split at hs
    · cases hs
    · exact hs
  refine ⟨hsessions ▸ h.sorted.erase threadId, ?_, ?_⟩
  · exact fun other s hs => h.threadId_eq other s (hget other s hs)
  · exact fun other s hs => h.pending_eq other s (hget other s hs)

theorem Tidy.map (h : r.Tidy) (change : String → ThreadSession → ThreadSession)
    (hsessions : r'.sessions = r.sessions.map fun (id, s) => (id, change id s))
    (hid : ∀ id s, (change id s).threadId = s.threadId)
    (hpending : ∀ id s, ∀ e ∈ (change id s).pending, e.threadId = id) : r'.Tidy := by
  have hget : ∀ other s, r'.get? other = some s →
      ∃ old, r.get? other = some old ∧ s = change other old := by
    intro other s hs
    rw [get?, hsessions, Table.get?_map, Option.map_eq_some_iff] at hs
    obtain ⟨old, hold, heq⟩ := hs
    exact ⟨old, hold, heq.symm⟩
  refine ⟨hsessions ▸ h.sorted.map change, ?_, ?_⟩
  · intro other s hs
    obtain ⟨old, hold, rfl⟩ := hget other s hs
    exact (hid other old).trans (h.threadId_eq other old hold)
  · intro other s hs
    obtain ⟨old, -, rfl⟩ := hget other s hs
    exact hpending other old

theorem pendingOf_insert {s : ThreadSession}
    (hsessions : r'.sessions = r.sessions.insert threadId s) (other : String) :
    r'.pendingOf other = if threadId = other then s.pending else r.pendingOf other := by
  rw [pendingOf, get?, hsessions, Table.get?_insert]
  by_cases h : threadId = other
  · rw [if_pos h, if_pos h]
    rfl
  · rw [if_neg h, if_neg h]
    rfl

theorem pendingOf_erase (hsessions : r'.sessions = r.sessions.erase threadId) (other : String) :
    r'.pendingOf other = if threadId = other then [] else r.pendingOf other := by
  rw [pendingOf, get?, hsessions, Table.get?_erase]
  by_cases h : threadId = other
  · rw [if_pos h, if_pos h]
    rfl
  · rw [if_neg h, if_neg h]
    rfl

theorem pendingOf_map (change : String → ThreadSession → ThreadSession)
    (hsessions : r'.sessions = r.sessions.map fun (id, s) => (id, change id s)) (other : String) :
    r'.pendingOf other = ((r.get? other).map fun s => (change other s).pending).getD [] := by
  rw [pendingOf, get?, hsessions, Table.get?_map, Option.map_map]
  rfl

/-- **The batch of all pending traffic** has of every thread what is pending for it. -/
theorem Tidy.ofThread_allPending (h : r.Tidy) (threadId : String) :
    EntryBatch.ofThread r.allPending threadId = r.pendingOf threadId := by
  have hall : ∀ sessions : Table String ThreadSession, sessions.Sorted →
      (∀ pair ∈ sessions, ∀ e ∈ pair.2.pending, e.threadId = pair.1) →
      EntryBatch.ofThread (sessions.flatMap fun (_, s) => s.pending) threadId
        = ((sessions.get? threadId).map (·.pending)).getD [] := by
    intro sessions
    induction sessions with
    | nil => exact fun _ _ => rfl
    | cons pair rest ih =>
      intro hsorted howned
      obtain ⟨id, s⟩ := pair
      obtain ⟨hbelow, hrest⟩ := Table.sorted_cons.1 hsorted
      obtain ⟨hs, howned⟩ := List.forall_mem_cons.1 howned
      rw [List.flatMap_cons, EntryBatch.ofThread_append, Table.get?_cons]
      by_cases heq : id = threadId
      · -- The thread is open here, and not again further on.
        have hnone : EntryBatch.ofThread (rest.flatMap fun (_, s) => s.pending) threadId = [] := by
          refine EntryBatch.ofThread_eq_nil fun e he hthread => ?_
          obtain ⟨later, hlater, hmem⟩ := List.mem_flatMap.1 he
          have hlt : id < later.1 := hbelow later hlater
          rw [← howned later hlater e hmem, hthread, heq] at hlt
          exact String.lt_irrefl _ hlt
        rw [if_pos heq, hnone, List.append_nil]
        exact EntryBatch.ofThread_eq_self fun e he => (hs e he).trans heq
      · rw [if_neg heq, ih hrest howned, EntryBatch.ofThread_eq_nil, List.nil_append]
        exact fun e he hthread => heq ((hs e he).symm.trans hthread)
  refine hall r.sessions h.sorted fun pair hpair => ?_
  exact h.pending_eq pair.1 pair.2 (h.sorted.get?_eq_some_iff.2 hpair)

/-- What is pending for a thread when just the threads that were written have lost their traffic. -/
theorem Tidy.pendingOf_requeued (h : r.Tidy) {written : List String}
    (hsessions : r'.sessions = r.sessions.map fun (id, s) => (id, s.takePending.2.requeue
      (EntryBatch.ofThread (EntryBatch.without r.allPending written) id))) (threadId : String) :
    r'.pendingOf threadId = if threadId ∈ written then [] else r.pendingOf threadId := by
  have hkept : EntryBatch.ofThread (EntryBatch.without r.allPending written) threadId
      = if threadId ∈ written then [] else r.pendingOf threadId := by
    rw [EntryBatch.ofThread_without, h.ofThread_allPending]
  rw [pendingOf_map (fun id s => s.takePending.2.requeue
    (EntryBatch.ofThread (EntryBatch.without r.allPending written) id)) hsessions, hkept]
  cases hget : r.get? threadId with
  | some s => exact List.append_nil _
  | none =>
    rw [pendingOf, hget, Option.map_none, Option.map_none, Option.getD_none, ite_self]

/-! ## 3. One operation -/

section Operations

variable [TranscriptStore σ]

/-- Opening a thread changes nothing but the session of a thread that was closed. -/
theorem openThread_cases (r : Registry σ) (threadId : String) :
    (r.openThread threadId).2 = r ∨
      r.get? threadId = none ∧ ∃ s host, s.threadId = threadId ∧ s.pending = [] ∧
        (r.openThread threadId).2
          = { r with sessions := r.sessions.insert threadId s, host } := by
  rw [openThread]
  cases hget : r.get? threadId with
  | some s => exact .inl rfl
  | none =>
    cases TranscriptStore.read r.store threadId with
    | error e => exact .inl rfl
    | ok entries => exact .inr ⟨rfl, _, _, rfl, rfl, rfl⟩

/-- Nothing happens to a thread that is closed. -/
theorem session_cases (r : Registry σ) (threadId : String) (event : SessionEvent) :
    r.get? threadId = none ∧ (RegistryEvent.session threadId event).step r = r ∨
      ∃ s, r.get? threadId = some s ∧ (RegistryEvent.session threadId event).step r
        = { r with
            sessions := r.sessions.insert threadId (event.step s r.host).1
            host := (event.step s r.host).2 } := by
  rw [RegistryEvent.step, withSession]
  cases hget : r.get? threadId with
  | none => exact .inl ⟨rfl, rfl⟩
  | some s => exact .inr ⟨s, rfl, rfl⟩

/-- Writing empties all sessions, or leaves in them what was not written. -/
theorem flush_cases (r : Registry σ) :
    r.allPending = [] ∧ r.flush = (.ok 0, r) ∨
      (∃ store, TranscriptStore.append r.store r.allPending = (.ok (), store) ∧
        r.flush = (.ok r.allPending.length,
          { r with store, sessions := r.sessions.map fun (id, s) => (id, s.takePending.2) })) ∨
      ∃ e store, TranscriptStore.append r.store r.allPending = (.error e, store) ∧
        r.flush = (.error e,
          { r with
            store
            sessions := r.sessions.map fun (id, s) => (id, s.takePending.2.requeue
              (EntryBatch.ofThread (EntryBatch.without r.allPending e.writtenThreads) id)) }) := by
  rw [flush]
  by_cases hempty : r.allPending.isEmpty = true
  · rw [if_pos hempty]
    exact .inl ⟨List.isEmpty_iff.1 hempty, rfl⟩
  · rw [if_neg hempty]
    right
    rcases TranscriptStore.append r.store r.allPending with ⟨e | done, store⟩
    · refine .inr ⟨e, store, rfl, ?_⟩
      simp only [Table.mapValues, List.map_map]
      rfl
    · exact .inl ⟨store, rfl, rfl⟩

/-- A thread is closed when its traffic was written, and is as before if that failed. -/
theorem teardown_cases (r : Registry σ) (threadId : String) :
    (r.teardown threadId).2 = r ∨ ∃ s, r.get? threadId = some s ∧
      ((∃ store, TranscriptStore.append r.store s.pending = (.ok (), store) ∧
        (r.teardown threadId).2
          = { r with store, sessions := r.sessions.erase threadId }) ∨
      ∃ e store, TranscriptStore.append r.store s.pending = (.error e, store) ∧
        (r.teardown threadId).2
          = { r with
              store
              sessions := r.sessions.insert threadId { s with pending := s.pending ++ [] } }) := by
  rw [teardown]
  cases hget : r.get? threadId with
  | none => exact .inl rfl
  | some s =>
    refine .inr ⟨s, rfl, ?_⟩
    simp only [ThreadSession.takePending]
    rcases TranscriptStore.append r.store s.pending with ⟨e | done, store⟩
    · exact .inr ⟨e, store, rfl, rfl⟩
    · exact .inl ⟨store, rfl, rfl⟩

theorem Tidy.openThread (h : r.Tidy) (threadId : String) : (r.openThread threadId).2.Tidy := by
  rcases r.openThread_cases threadId with heq | ⟨-, s, host, hid, hpending, heq⟩
  · rw [heq]
    exact h
  · rw [heq]
    refine h.insert rfl hid fun e he => ?_
    rw [hpending] at he
    exact absurd he List.not_mem_nil

theorem Tidy.session (h : r.Tidy) (threadId : String) (event : SessionEvent) :
    ((RegistryEvent.session threadId event).step r).Tidy := by
  rcases r.session_cases threadId event with ⟨-, heq⟩ | ⟨s, hget, heq⟩
  · rw [heq]
    exact h
  · have hid := h.threadId_eq threadId s hget
    rw [heq]
    refine h.insert rfl ((event.threadId_step s r.host).trans hid) ?_
    rw [event.pending_step]
    intro e he
    rcases List.mem_append.1 he with he | he
    · exact h.pending_eq threadId s hget e he
    · exact (event.threadId_of_mem_recorded s r.host he).trans hid

theorem Tidy.flush (h : r.Tidy) : r.flush.2.Tidy := by
  rcases r.flush_cases with ⟨-, heq⟩ | ⟨store, -, heq⟩ | ⟨e, store, -, heq⟩
  · rw [heq]
    exact h
  · rw [heq]
    exact h.map (fun _ s => s.takePending.2) rfl (fun _ _ => rfl)
      fun _ _ e he => absurd he List.not_mem_nil
  · rw [heq]
    refine h.map (fun id s => s.takePending.2.requeue
      (EntryBatch.ofThread (EntryBatch.without r.allPending e.writtenThreads) id)) rfl
      (fun _ _ => rfl) fun id s entry hentry => ?_
    exact EntryBatch.threadId_of_mem_ofThread ((List.append_nil _).subst hentry)

theorem Tidy.teardown (h : r.Tidy) (threadId : String) : (r.teardown threadId).2.Tidy := by
  rcases r.teardown_cases threadId with heq | ⟨s, hget, ⟨store, -, heq⟩ | ⟨e, store, -, heq⟩⟩
  · rw [heq]
    exact h
  · rw [heq]
    exact h.erase rfl
  · rw [heq]
    refine h.insert rfl (h.threadId_eq threadId s hget) fun entry hentry => ?_
    exact h.pending_eq threadId s hget entry ((List.append_nil s.pending).subst hentry)

theorem Tidy.delete (h : r.Tidy) (threadId : String) : (r.delete threadId).2.Tidy :=
  h.erase rfl

/-- **Every event leaves the sessions in their places**, whatever the store does. -/
theorem Tidy.step (h : r.Tidy) (e : RegistryEvent σ) : (e.step r).Tidy := by
  cases e with
  | openThread threadId => exact h.openThread threadId
  | session threadId event => exact h.session threadId event
  | flush => exact h.flush
  | teardown threadId => exact h.teardown threadId
  | delete threadId => exact h.delete threadId
  | outside change => exact ⟨h.sorted, h.threadId_eq, h.pending_eq⟩

theorem Tidy.run (h : r.Tidy) (events : List (RegistryEvent σ)) : (r.run events).Tidy := by
  induction events generalizing r with
  | nil => exact h
  | cons e rest ih => exact ih (h.step e)

end Operations

/-- All that is known of a thread: what is stored, then what is pending. -/
def balance [TranscriptStore σ] [LawfulStore σ] (r : Registry σ) (threadId : String) :
    List TranscriptEntry :=
  LawfulStore.entries r.store threadId ++ r.pendingOf threadId

theorem pendingOf_of_get? {s : ThreadSession} (h : r.get? threadId = some s) :
    r.pendingOf threadId = s.pending := by
  rw [pendingOf, h]
  rfl

theorem pendingOf_of_not_open (h : r.get? threadId = none) : r.pendingOf threadId = [] := by
  rw [pendingOf, h]
  rfl

section Balances

variable [TranscriptStore σ] [LawfulStore σ]

theorem openThread_balances (h : r.Tidy) (threadId : String) :
    (r.openThread threadId).2.Tidy ∧
      ∀ other, (r.openThread threadId).2.balance other = r.balance other := by
  refine ⟨h.openThread threadId, fun other => ?_⟩
  rcases r.openThread_cases threadId with heq | ⟨hget, s, host, -, hpending, heq⟩
  · rw [heq]
  · rw [heq, balance, pendingOf_insert rfl, balance]
    split
    · next hother => rw [hpending, ← hother, pendingOf_of_not_open hget]
    · rfl

theorem session_balances (h : r.Tidy) (threadId : String) (event : SessionEvent) :
    ((RegistryEvent.session threadId event).step r).Tidy ∧
      ∀ other, ((RegistryEvent.session threadId event).step r).balance other
        = (RegistryEvent.session threadId event).book r other (r.balance other) := by
  refine ⟨h.session threadId event, fun other => ?_⟩
  rcases r.session_cases threadId event with ⟨hget, heq⟩ | ⟨s, hget, heq⟩
  · rw [heq, RegistryEvent.book]
    split
    · next hother =>
      rw [← hother, hget]
      exact (List.append_nil _).symm
    · rfl
  · rw [heq, balance, pendingOf_insert rfl, balance, RegistryEvent.book]
    split
    · next hother =>
      rw [event.pending_step, ← hother, pendingOf_of_get? hget, hget, List.append_assoc]
      rfl
    · rfl

/-- **Writing moves traffic and neither loses nor repeats any**, also where it fails. -/
theorem flush_balances (h : r.Tidy) :
    r.flush.2.Tidy ∧ ∀ threadId, r.flush.2.balance threadId = r.balance threadId := by
  refine ⟨h.flush, fun threadId => ?_⟩
  rcases r.flush_cases with ⟨-, heq⟩ | ⟨store, happend, heq⟩ | ⟨e, store, happend, heq⟩
  · rw [heq]
  · rw [heq, balance, pendingOf_map (fun _ s => s.takePending.2) rfl, balance,
      LawfulStore.append_ok happend, h.ofThread_allPending, List.append_assoc]
    cases r.get? threadId <;> exact congrArg _ (List.append_nil _)
  · -- What was written is counted as stored, and all else as pending: no entry is on both sides.
    rw [heq, balance, h.pendingOf_requeued rfl, balance, LawfulStore.append_error happend,
      h.ofThread_allPending, List.append_assoc]
    congr 1
    split
    · exact List.append_nil _
    · exact List.nil_append _

theorem teardown_balances (h : r.Tidy) (threadId : String) :
    (r.teardown threadId).2.Tidy ∧
      ∀ other, (r.teardown threadId).2.balance other = r.balance other := by
  refine ⟨h.teardown threadId, fun other => ?_⟩
  rcases r.teardown_cases threadId with heq | ⟨s, hget, hcases⟩
  · rw [heq]
  · have howned := h.pending_eq threadId s hget
    rcases hcases with ⟨store, happend, heq⟩ | ⟨e, store, happend, heq⟩
    · rw [heq, balance, pendingOf_erase rfl, balance, LawfulStore.append_ok happend]
      split
      · next hother =>
        rw [← hother, EntryBatch.ofThread_eq_self howned, pendingOf_of_get? hget, List.append_nil]
      · next hother =>
        rw [EntryBatch.ofThread_eq_nil fun e he heq => hother ((howned e he).symm.trans heq),
          List.append_nil]
    · -- The batch has one thread only, so a failure means that nothing of it was written.
      rw [heq, balance, pendingOf_insert rfl, balance,
        LawfulStore.append_error_single happend howned]
      split
      · next hother => rw [← hother, pendingOf_of_get? hget, List.append_nil]
      · rfl

theorem delete_balances (h : r.Tidy) (threadId : String)
    (hok : (r.delete threadId).1 = .ok ()) :
    (r.delete threadId).2.Tidy ∧ ∀ other, (r.delete threadId).2.balance other
      = if threadId = other then [] else r.balance other := by
  simp only [delete] at hok ⊢
  have hdelete : TranscriptStore.delete r.store threadId
      = (.ok (), (TranscriptStore.delete r.store threadId).2) := Prod.ext hok rfl
  refine ⟨h.delete threadId, fun other => ?_⟩
  rw [balance, pendingOf_erase rfl, LawfulStore.delete_ok hdelete, balance]
  by_cases heq : threadId = other
  · rw [if_pos heq, if_pos heq, if_pos heq.symm]
    rfl
  · rw [if_neg heq, if_neg heq, if_neg (Ne.symm heq)]

end Balances

end Registry

/-! ## 4. Every run -/

variable {σ : Type} [TranscriptStore σ] [LawfulStore σ] {r : Registry σ}

/-- **One event.** What is stored and pending changes by what the event records or deletes. -/
theorem RegistryEvent.step_balances (h : r.Tidy) {e : RegistryEvent σ} (hok : e.Succeeds r) :
    (e.step r).Tidy ∧ ∀ threadId, (e.step r).balance threadId
      = e.book r threadId (r.balance threadId) := by
  cases e with
  | openThread threadId => exact Registry.openThread_balances h threadId
  | session threadId event => exact Registry.session_balances h threadId event
  | flush => exact Registry.flush_balances h
  | teardown threadId => exact Registry.teardown_balances h threadId
  | delete threadId => exact Registry.delete_balances h threadId hok
  | outside change =>
    refine ⟨⟨h.sorted, h.threadId_eq, h.pending_eq⟩, fun threadId => ?_⟩
    exact congrArg (· ++ r.pendingOf threadId) (hok threadId)

namespace Registry

theorem run_balances (h : r.Tidy) {events : List (RegistryEvent σ)} (hok : r.Succeeds events) :
    (r.run events).Tidy ∧ ∀ threadId, (r.run events).balance threadId
      = r.ledger threadId (r.balance threadId) events := by
  induction events generalizing r with
  | nil => exact ⟨h, fun _ => rfl⟩
  | cons e rest ih =>
    obtain ⟨hstep, hrest⟩ := hok
    obtain ⟨htidy, hbalance⟩ := RegistryEvent.step_balances h hstep
    obtain ⟨hrun, hledger⟩ := ih htidy hrest
    refine ⟨hrun, fun threadId => (hledger threadId).trans ?_⟩
    rw [hbalance]
    rfl

omit [LawfulStore σ] in
/-- Nothing is pending after all traffic was written. -/
theorem pendingOf_flush (h : r.Tidy) {written : Nat} (hok : r.flush.1 = .ok written)
    (threadId : String) : r.flush.2.pendingOf threadId = [] := by
  rcases r.flush_cases with ⟨hnone, heq⟩ | ⟨store, -, heq⟩ | ⟨e, store, -, heq⟩
  · rw [heq, ← h.ofThread_allPending, hnone]
    rfl
  · rw [heq, pendingOf_map (fun _ s => s.takePending.2) rfl]
    cases r.get? threadId <;> rfl
  · rw [heq] at hok
    cases hok

/-- **No traffic is lost, repeated or put out of order.** Start with no thread open, and let happen
what may, whichever threads the store refuses and whenever it does, as long as deletions succeed.
Then for every thread what is stored and what is pending make up its ledger: what was stored at the
start and what was recorded since, in order, or since the thread was last deleted. Once everything
could be written, it is all stored. -/
theorem stored_and_pending_make_up_ledger (r : Registry σ) (hclosed : r.sessions = [])
    (events : List (RegistryEvent σ)) (hok : r.Succeeds events) (threadId : String) :
    let now := r.run events
    let account := r.ledger threadId (LawfulStore.entries r.store threadId) events
    LawfulStore.entries now.store threadId ++ now.pendingOf threadId = account ∧
      ∀ written, now.flush.1 = .ok written →
        LawfulStore.entries now.flush.2.store threadId = account := by
  intro now account
  obtain ⟨htidy, hledger⟩ := run_balances (tidy_of_closed hclosed) hok
  have hstart : r.balance threadId = LawfulStore.entries r.store threadId := by
    rw [balance, pendingOf_of_closed hclosed, List.append_nil]
  have hbalance : now.balance threadId = account := by
    rw [hledger threadId, hstart]
  refine ⟨hbalance, fun written hwritten => ?_⟩
  calc LawfulStore.entries now.flush.2.store threadId
      = now.flush.2.balance threadId := by
        rw [balance, pendingOf_flush htidy hwritten, List.append_nil]
    _ = now.balance threadId := (flush_balances htidy).2 threadId
    _ = account := hbalance

/-- Two threads, one of which cannot be reached when the traffic is written first. -/
def sampleRun : List (RegistryEvent MemoryStore) :=
  [.openThread "a", .openThread "b",
    .session "a" (.receive (Traffic.logPayload "one")),
    .session "b" (.receive (Traffic.logPayload "two")),
    .outside fun s => (s.block "b").2,
    .flush,
    .session "b" (.send true "three" none),
    .outside fun s => (s.unblock "b").2]

/-- In the sample the second thread has two entries in its ledger, and both are stored in the end.
-/
theorem stored_and_pending_make_up_ledger_sample :
    let r : Registry MemoryStore :=
      { store := {}, host := { ids := .numbered "item", clock := .numbered "time" } }
    let account := r.ledger "b" (LawfulStore.entries r.store "b") sampleRun
    r.sessions = [] ∧ r.Succeeds sampleRun ∧
      (r.run (sampleRun.take 5)).flush.1.isOk = false ∧
      account.map (·.ts) = ["time-3", "time-5"] ∧
      LawfulStore.entries (r.run sampleRun).store "b" ++ (r.run sampleRun).pendingOf "b" = account ∧
      ∃ written, (r.run sampleRun).flush.1 = .ok written ∧
        LawfulStore.entries (r.run sampleRun).flush.2.store "b" = account := by
  intro r account
  have hok : r.Succeeds sampleRun :=
    ⟨trivial, trivial, trivial, trivial, MemoryStore.entries_block _ _, trivial, trivial,
      MemoryStore.entries_unblock _ _, trivial⟩
  have hflush : (r.run sampleRun).flush.1.isOk = true := by decide +kernel
  obtain ⟨hbalance, hstored⟩ := r.stored_and_pending_make_up_ledger rfl sampleRun hok "b"
  refine ⟨rfl, hok, by decide +kernel, by decide +kernel, hbalance, ?_⟩
  cases hresult : (r.run sampleRun).flush.1 with
  | ok written => exact ⟨written, rfl, hstored written hresult⟩
  | error e =>
    rw [hresult] at hflush
    cases hflush

end Registry

end AgentFeed
