import AgentFeed.Proofs.Conservation
import AgentFeed.Proofs.Interruption

/-!
# A thread that is opened again

A thread is closed, its traffic is written, and later it is opened again: does it show what it
showed? It does where every event since the thread was first opened was faithful, that is where no
prompt was refused and nothing but messages that stand alone came in an interrupted turn. Turns are
interrupted by attaching a session and by closing a thread; the next message that resets ends the
interruption.

Where the rest of an interrupted turn does arrive, the answer may be no: the session begins a new
item for it, and a replay continues the old one.

`Registry.AccountedFor` says of one thread of a registry that it is tied to the account of its
traffic, open or closed. Every event keeps this, whichever thread it is about
(`RegistryEvent.accountedFor_step`).
-/

namespace AgentFeed

/-! ## 1. Interruptions in a registry -/

namespace RegistryEvent

variable {σ : Type}

/-- Whether the turn under way in a thread is interrupted after an event. When a thread is closed,
what its session remembers is lost; a thread that is deleted begins anew. -/
def interruption (r : Registry σ) (threadId : String) (before : Bool) : RegistryEvent σ → Bool
  | .session other event =>
    if other = threadId then ((r.get? threadId).map (event.interruption · before)).getD before
    else before
  | .teardown other =>
    before || (other = threadId && (r.get? threadId).any fun s => !s.state.isEmpty)
  | .delete other => other ≠ threadId && before
  | _ => before

/-- Whether a thread shows an event as a replay will. -/
def isFaithful (r : Registry σ) (threadId : String) (interrupted : Bool) :
    RegistryEvent σ → Bool
  | .session other event =>
    other ≠ threadId || (r.get? threadId).all (event.isFaithful · interrupted)
  | _ => true

end RegistryEvent

namespace Registry

section Runs

variable {σ : Type} [TranscriptStore σ]

/-- Whether a thread shows all events of a run as a replay will, when they come. -/
def isFaithful (r : Registry σ) (threadId : String) (interrupted : Bool) :
    List (RegistryEvent σ) → Bool
  | [] => true
  | e :: rest => e.isFaithful r threadId interrupted
    && (e.step r).isFaithful threadId (e.interruption r threadId interrupted) rest

end Runs

/-! ## 2. Threads that are left alone -/

variable {σ : Type}

/-- Nothing happens to a thread, except that its traffic may be written. -/
structure LeavesAlone (threadId : String) (r r' : Registry σ) : Prop where
  /-- Previews keep their length. -/
  previewLimit : r'.previewLimit = r.previewLimit
  /-- Feeds keep their bound. -/
  maxItems : r'.maxItems = r.maxItems
  /-- Ids and times may be drawn for other threads. -/
  ahead : r.host.Ahead r'.host
  /-- The session keeps what it shows and remembers. -/
  get?_eq : ∃ pending : ThreadSession → List TranscriptEntry,
    r'.get? threadId = (r.get? threadId).map fun s => { s with pending := pending s }

namespace LeavesAlone

variable {r r' : Registry σ} {threadId other : String}

/-- A thread whose place in the table of sessions is as before is left alone. -/
theorem of_get? (hlimit : r'.previewLimit = r.previewLimit) (hbound : r'.maxItems = r.maxItems)
    (hahead : r.host.Ahead r'.host) (hget : r'.get? threadId = r.get? threadId) :
    LeavesAlone threadId r r' := by
  refine ⟨hlimit, hbound, hahead, (·.pending), ?_⟩
  rw [hget]
  exact Option.map_id'.symm

theorem refl (r : Registry σ) (threadId : String) : LeavesAlone threadId r r :=
  of_get? rfl rfl (.refl _) rfl

variable [TranscriptStore σ]

theorem flush (r : Registry σ) (threadId : String) : LeavesAlone threadId r r.flush.2 := by
  rcases r.flush_cases with ⟨-, heq⟩ | ⟨store, -, heq⟩ | ⟨e, store, -, heq⟩
  · rw [heq]
    exact refl r threadId
  · rw [heq]
    refine ⟨rfl, rfl, .refl _, fun _ => [], ?_⟩
    exact Table.get?_map (fun _ s => s.takePending.2) r.sessions threadId
  · rw [heq]
    let kept (id : String) : List TranscriptEntry :=
      EntryBatch.ofThread (EntryBatch.without r.allPending e.writtenThreads) id
    refine ⟨rfl, rfl, .refl _, fun _ => kept threadId ++ [], ?_⟩
    exact Table.get?_map (fun id s => s.takePending.2.requeue (kept id)) r.sessions threadId

theorem openThread (r : Registry σ) (hother : other ≠ threadId) :
    LeavesAlone threadId r (r.openThread other).2 := by
  rw [Registry.openThread]
  cases r.get? other with
  | some s => exact refl r threadId
  | none =>
    cases TranscriptStore.read r.store other with
    | error e => exact refl r threadId
    | ok entries =>
      have hahead := (ThreadSession.start other r.previewLimit r.maxItems).ahead_restore r.host
        entries
      exact of_get? rfl rfl hahead (Table.get?_insert_of_ne r.sessions _ hother)

theorem session (r : Registry σ) (hother : other ≠ threadId) (event : SessionEvent) :
    LeavesAlone threadId r ((RegistryEvent.session other event).step r) := by
  rcases r.session_cases other event with ⟨-, heq⟩ | ⟨s, -, heq⟩
  · rw [heq]
    exact refl r threadId
  · rw [heq]
    exact of_get? rfl rfl (event.ahead_step s r.host) (Table.get?_insert_of_ne r.sessions _ hother)

theorem teardown (r : Registry σ) (hother : other ≠ threadId) :
    LeavesAlone threadId r (r.teardown other).2 := by
  rcases r.teardown_cases other with heq | ⟨s, -, ⟨store, -, heq⟩ | ⟨e, store, -, heq⟩⟩
  · rw [heq]
    exact refl r threadId
  · rw [heq]
    exact of_get? rfl rfl (.refl _) (Table.get?_erase_of_ne r.sessions hother)
  · rw [heq]
    exact of_get? rfl rfl (.refl _) (Table.get?_insert_of_ne r.sessions _ hother)

theorem delete (r : Registry σ) (hother : other ≠ threadId) :
    LeavesAlone threadId r (r.delete other).2 :=
  of_get? rfl rfl (.refl _) (Table.get?_erase_of_ne r.sessions hother)

end LeavesAlone

/-! ## 3. Threads and their accounts -/

variable [TranscriptStore σ] [LawfulStore σ]

/-- A thread is tied to the account of its traffic: its session is, if it is open, and if it is
closed then a replay of the account remembers nothing that was lost. -/
structure AccountedFor (host' : Host) (threadId : String) (interrupted : Bool)
    (r : Registry σ) : Prop where
  /-- Sessions are in their places. -/
  tidy : r.Tidy
  /-- Ids to come are new. -/
  neverRepeats : r.host.ids.NeverRepeats
  /-- The session of an open thread shows what a replay of its account shows. -/
  opened : ∀ s, r.get? threadId = some s → s.Accounted r.previewLimit r.maxItems host'
    (r.balance threadId) interrupted r.host
  /-- A closed thread will be opened where a replay of its account leaves off. -/
  closed : r.get? threadId = none → interrupted = true ∨
    (replay r.previewLimit host' (TranscriptEntry.payloads (r.balance threadId))).state = .empty

namespace AccountedFor

variable {r r' : Registry σ} {host' : Host} {threadId : String} {interrupted : Bool}

theorem of_open (htidy : r.Tidy) (hids : r.host.ids.NeverRepeats) {s : ThreadSession}
    (hget : r.get? threadId = some s)
    (haccount : s.Accounted r.previewLimit r.maxItems host' (r.balance threadId) interrupted
      r.host) :
    r.AccountedFor host' threadId interrupted := by
  refine ⟨htidy, hids, fun s' hs => ?_, fun hnone => ?_⟩
  · rw [hget, Option.some_inj] at hs
    exact hs ▸ haccount
  · rw [hget] at hnone
    cases hnone

theorem of_not_open (htidy : r.Tidy) (hids : r.host.ids.NeverRepeats)
    (hget : r.get? threadId = none)
    (hstate : interrupted = true ∨ (replay r.previewLimit host'
      (TranscriptEntry.payloads (r.balance threadId))).state = .empty) :
    r.AccountedFor host' threadId interrupted := by
  refine ⟨htidy, hids, fun s hs => ?_, fun _ => hstate⟩
  rw [hget] at hs
  cases hs

theorem of_closed {r : Registry σ} (hclosed : r.sessions = []) (hids : r.host.ids.NeverRepeats)
    (host' : Host) {threadId : String} (hempty : LawfulStore.entries r.store threadId = []) :
    r.AccountedFor host' threadId false := by
  have hget : r.get? threadId = none := by
    rw [get?, hclosed]
    rfl
  refine of_not_open (tidy_of_closed hclosed) hids hget (.inr ?_)
  rw [balance, hempty, pendingOf_of_not_open hget]
  rfl

theorem of_leavesAlone (ha : r.AccountedFor host' threadId interrupted)
    (hleaves : LeavesAlone threadId r r') (htidy : r'.Tidy)
    (hbalance : r'.balance threadId = r.balance threadId) {later : Bool}
    (hlater : interrupted = true → later = true) : r'.AccountedFor host' threadId later := by
  obtain ⟨hlimit, hbound, hahead, pending, hget⟩ := hleaves
  have hids := hahead.neverRepeats ha.neverRepeats
  cases hopen : r.get? threadId with
  | some s =>
    rw [hopen, Option.map_some] at hget
    refine of_open htidy hids hget ?_
    rw [hlimit, hbound, hbalance]
    exact (((ha.opened s hopen).later hahead).weaken hlater).withPending (pending s)
  | none =>
    rw [hopen, Option.map_none] at hget
    refine of_not_open htidy hids hget ?_
    rw [hlimit, hbalance]
    exact (ha.closed hopen).imp_left hlater

/-- Opening a thread restores its session from the account. -/
theorem openThread (ha : r.AccountedFor host' threadId interrupted)
    (hids' : host'.ids.NeverRepeats) :
    (r.openThread threadId).2.AccountedFor host' threadId interrupted := by
  obtain ⟨htidy, hbalance⟩ := openThread_balances ha.tidy threadId
  cases hget : r.get? threadId with
  | some s =>
    have heq : (r.openThread threadId).2 = r := by rw [Registry.openThread, hget]
    rw [heq]
    exact ha
  | none =>
    cases hread : TranscriptStore.read r.store threadId with
    | error e =>
      have heq : (r.openThread threadId).2 = r := by
        rw [Registry.openThread, hget]
        simp only [hread]
      rw [heq]
      exact ha
    | ok entries =>
      have hentries : entries = r.balance threadId := by
        rw [balance, pendingOf_of_not_open hget, List.append_nil]
        exact LawfulStore.read_ok hread
      have hopen := r.openThread_eq hget hread
      have hbalance' := hbalance threadId
      rw [hopen] at htidy hbalance' ⊢
      subst hentries
      have hahead := (ThreadSession.start threadId r.previewLimit r.maxItems).ahead_restore r.host
        (r.balance threadId)
      refine of_open htidy (hahead.neverRepeats ha.neverRepeats) (get?_putSession _ _) ?_
      rw [hbalance']
      exact .restore threadId r.previewLimit r.maxItems ha.neverRepeats hids' (ha.closed hget)

/-- A faithful event keeps an open thread tied to its account. -/
theorem session (ha : r.AccountedFor host' threadId interrupted) {event : SessionEvent}
    (hfaithful : (r.get? threadId).all (event.isFaithful · interrupted) = true) :
    ((RegistryEvent.session threadId event).step r).AccountedFor host' threadId
      (((r.get? threadId).map (event.interruption · interrupted)).getD interrupted) := by
  obtain ⟨htidy, hbalance⟩ := session_balances ha.tidy threadId event
  have hbalance' := hbalance threadId
  rcases r.session_cases threadId event with ⟨hget, heq⟩ | ⟨s, hget, heq⟩
  · rw [heq, hget]
    exact ha
  · rw [hget] at hfaithful ⊢
    rw [RegistryEvent.book, if_pos rfl, hget] at hbalance'
    rw [heq] at htidy hbalance' ⊢
    have hids := (event.ahead_step s r.host).neverRepeats ha.neverRepeats
    refine of_open htidy hids (Table.get?_insert_self r.sessions _ _) ?_
    rw [hbalance']
    exact (ha.opened s hget).step hfaithful

/-- When a thread is closed, what its session remembers is lost. -/
theorem teardown (ha : r.AccountedFor host' threadId interrupted)
    (hids' : host'.ids.NeverRepeats) :
    (r.teardown threadId).2.AccountedFor host' threadId
      (interrupted || (r.get? threadId).any fun s => !s.state.isEmpty) := by
  obtain ⟨htidy, hbalance⟩ := teardown_balances ha.tidy threadId
  have hlater : interrupted = true →
      (interrupted || (r.get? threadId).any fun s => !s.state.isEmpty) = true := by
    rintro rfl
    rfl
  rcases r.teardown_cases threadId with heq | ⟨s, hget, ⟨store, -, heq⟩ | ⟨e, store, -, heq⟩⟩
  · have hleaves : LeavesAlone threadId r (r.teardown threadId).2 := by
      rw [heq]
      exact .refl r threadId
    exact ha.of_leavesAlone hleaves htidy (hbalance threadId) hlater
  · have hbalance' := hbalance threadId
    rw [heq] at htidy hbalance' ⊢
    refine of_not_open htidy ha.neverRepeats (Table.get?_erase_self r.sessions _) ?_
    rw [hbalance', hget, Option.any_some]
    by_cases hempty : s.state.isEmpty = true
    · refine ((ha.opened s hget).replay_state hids' hempty).imp_left ?_
      rintro rfl
      rfl
    · exact .inl (by simp [hempty])
  · have hleaves : LeavesAlone threadId r (r.teardown threadId).2 := by
      rw [heq]
      refine ⟨rfl, rfl, .refl _, (·.pending ++ []), ?_⟩
      rw [get?, Table.get?_insert_self, hget]
      rfl
    exact ha.of_leavesAlone hleaves htidy (hbalance threadId) hlater

/-- A thread that is deleted has nothing left to account for. -/
theorem delete (ha : r.AccountedFor host' threadId interrupted)
    (hok : (r.delete threadId).1 = .ok ()) :
    (r.delete threadId).2.AccountedFor host' threadId false := by
  obtain ⟨htidy, hbalance⟩ := delete_balances ha.tidy threadId hok
  refine of_not_open htidy ha.neverRepeats (Table.get?_erase_self r.sessions _) (.inr ?_)
  rw [hbalance, if_pos rfl]
  rfl

end AccountedFor

end Registry

/-! ## 4. Every run -/

variable {σ : Type} [TranscriptStore σ] [LawfulStore σ] {r : Registry σ} {host' : Host}
  {threadId : String} {interrupted : Bool}

/-- **Every event keeps a thread tied to its account**, whichever thread it is about. -/
theorem RegistryEvent.accountedFor_step (ha : r.AccountedFor host' threadId interrupted)
    (hids' : host'.ids.NeverRepeats) {e : RegistryEvent σ} (hok : e.Succeeds r)
    (hfaithful : e.isFaithful r threadId interrupted = true) :
    (e.step r).AccountedFor host' threadId (e.interruption r threadId interrupted) := by
  obtain ⟨htidy, hbalance⟩ := e.step_balances ha.tidy hok
  have hbook := hbalance threadId
  -- An event of another thread leaves this one alone, and its account and interruption too.
  cases e with
  | openThread other =>
    by_cases hother : other = threadId
    · rw [hother]
      exact ha.openThread hids'
    · exact ha.of_leavesAlone (.openThread r hother) htidy hbook id
  | session other event =>
    by_cases hother : other = threadId
    · subst hother
      simp only [isFaithful, ne_eq, not_true, decide_false, Bool.false_or] at hfaithful
      rw [interruption, if_pos rfl]
      exact ha.session hfaithful
    · rw [book, if_neg hother] at hbook
      rw [interruption, if_neg hother]
      exact ha.of_leavesAlone (.session r hother event) htidy hbook id
  | flush => exact ha.of_leavesAlone (.flush r threadId) htidy hbook id
  | teardown other =>
    by_cases hother : other = threadId
    · subst hother
      simp only [interruption, decide_true, Bool.true_and]
      exact ha.teardown hids'
    · simp only [interruption, hother, decide_false, Bool.false_and, Bool.or_false]
      exact ha.of_leavesAlone (.teardown r hother) htidy hbook id
  | delete other =>
    by_cases hother : other = threadId
    · subst hother
      simp only [interruption, ne_eq, not_true, decide_false, Bool.false_and]
      exact ha.delete hok
    · rw [book, if_neg hother] at hbook
      simp only [interruption, ne_eq, hother, not_false_eq_true, decide_true, Bool.true_and]
      exact ha.of_leavesAlone (.delete r hother) htidy hbook id
  | outside change =>
    have hleaves : Registry.LeavesAlone threadId r { r with store := change r.store } :=
      .of_get? rfl rfl (.refl _) rfl
    exact ha.of_leavesAlone hleaves htidy hbook id

namespace Registry

theorem accountedFor_run (ha : r.AccountedFor host' threadId interrupted)
    (hids' : host'.ids.NeverRepeats) {events : List (RegistryEvent σ)} (hok : r.Succeeds events)
    (hfaithful : r.isFaithful threadId interrupted events = true) :
    ∃ later, (r.run events).AccountedFor host' threadId later := by
  induction events generalizing r interrupted with
  | nil => exact ⟨interrupted, ha⟩
  | cons e rest ih =>
    obtain ⟨hstep, hrest⟩ := hok
    rw [isFaithful, Bool.and_eq_true] at hfaithful
    exact ih (RegistryEvent.accountedFor_step ha hids' hstep hfaithful.1) hrest hfaithful.2

omit [LawfulStore σ] in
/-- A thread that was closed was open, and its session is handed back with nothing pending. -/
theorem teardown_eq_ok {closed : ThreadSession} {r' : Registry σ}
    (h : r.teardown threadId = (.ok (some closed), r')) :
    ∃ s store, r.get? threadId = some s ∧ closed = { s with pending := [] } ∧
      r' = { r with store, sessions := r.sessions.erase threadId } := by
  rw [teardown] at h
  cases hget : r.get? threadId with
  | none =>
    rw [hget] at h
    cases h
  | some s =>
    rw [hget] at h
    simp only [ThreadSession.takePending] at h
    cases happend : TranscriptStore.append r.store s.pending with
    | mk result store =>
      rw [happend] at h
      cases result with
      | error e => cases h
      | ok done =>
        cases h
        exact ⟨s, store, rfl, rfl, rfl⟩

/-- **A thread that is opened again shows what it showed.** Start with no thread open and a thread
without a transcript, and let happen what may to this thread and others, as long as it is faithful.
If the thread is then closed, and its transcript can be read, opening it gives a session with the
bodies of the one that was handed back when it was closed. -/
theorem reopened_thread_shows_what_it_showed (r : Registry σ) (hclosed : r.sessions = [])
    (hids : r.host.ids.NeverRepeats) (threadId : String)
    (hempty : LawfulStore.entries r.store threadId = []) (events : List (RegistryEvent σ))
    (hok : r.Succeeds events) (hfaithful : r.isFaithful threadId false events = true)
    {closed : ThreadSession} {r₁ : Registry σ}
    (hteardown : (r.run events).teardown threadId = (.ok (some closed), r₁))
    {found : List TranscriptEntry} (hread : TranscriptStore.read r₁.store threadId = .ok found) :
    ∃ reopened r₂, r₁.openThread threadId = (.ok reopened, r₂) ∧
      reopened.feed.items.map (·.body) = closed.feed.items.map (·.body) := by
  obtain ⟨later, ha⟩ :=
    accountedFor_run (AccountedFor.of_closed hclosed hids r.host hempty) hids hok hfaithful
  obtain ⟨s, store, hget, hs, hr₁⟩ := teardown_eq_ok hteardown
  have hnone : r₁.get? threadId = none := by
    rw [hr₁]
    exact Table.get?_erase_self _ _
  -- What is read back is the account of the thread: all of it was written.
  have hfound : (r.run events).balance threadId = found := by
    have hbalance := (teardown_balances ha.tidy threadId).2 threadId
    rw [hteardown] at hbalance
    calc (r.run events).balance threadId = r₁.balance threadId := hbalance.symm
      _ = LawfulStore.entries r₁.store threadId := by
        rw [balance, pendingOf_of_not_open hnone, List.append_nil]
      _ = found := (LawfulStore.read_ok hread).symm
  have hnever : r₁.host.ids.NeverRepeats := by
    rw [hr₁]
    exact ha.neverRepeats
  have hrestored : ThreadSession.Accounted r₁.previewLimit r₁.maxItems r.host found true _ _ :=
    .restore threadId r₁.previewLimit r₁.maxItems hnever hids (.inl rfl)
  have hshown := (ha.opened s hget).bodies_eq hids
  refine ⟨_, _, openThread_eq hnone hread, (hrestored.bodies_eq hids).trans ?_⟩
  rw [hs, hshown, hfound, hr₁]

/-- A message with some assistant text of a turn `t`. -/
def sampleText (text : String) : RegistryEvent MemoryStore :=
  .session "thread" (.receive (Traffic.chunkPayload "t" "text-delta" [("text", .string text)]))

/-- A turn after which the thread is closed and opened again, and another turn of the same name. -/
def sampleTurns : List (RegistryEvent MemoryStore) :=
  [.openThread "thread", .session "thread" (.attach "here"),
    .session "thread" (.send true "Hi" (some "a")), sampleText "Hel", sampleText "lo",
    .teardown "thread", .openThread "thread", .session "thread" (.attach "here"),
    .session "thread" (.send true "Well?" (some "b")),
    .session "thread" (.receive (Traffic.chunkPayload "t" "start" [])), sampleText "Fine"]

/-- In the sample the first turn is interrupted when the thread is closed. The prompt that comes
next stands alone, and then a turn begins; so all is shown again in the end. -/
theorem reopened_thread_shows_what_it_showed_sample :
    let r : Registry MemoryStore :=
      { store := {}, host := { ids := .numbered "item", clock := .constant "now" } }
    r.sessions = [] ∧ r.host.ids.NeverRepeats ∧ LawfulStore.entries r.store "thread" = [] ∧
      r.Succeeds sampleTurns ∧ r.isFaithful "thread" false sampleTurns = true ∧
      ∃ closed r₁ reopened r₂, (r.run sampleTurns).teardown "thread" = (.ok (some closed), r₁) ∧
        r₁.openThread "thread" = (.ok reopened, r₂) ∧
        closed.feed.items.map (·.text?) = [some "Hi", some "Hello", some "Well?", some "Fine"] ∧
        reopened.feed.items.map (·.body) = closed.feed.items.map (·.body) := by
  intro r
  have hids : r.host.ids.NeverRepeats := Supply.numbered_neverRepeats "item"
  have hok : r.Succeeds sampleTurns :=
    ⟨trivial, trivial, trivial, trivial, trivial, trivial, trivial, trivial, trivial, trivial,
      trivial, trivial⟩
  have hfaithful : r.isFaithful "thread" false sampleTurns = true := by decide +kernel
  have hclosed : ((r.run sampleTurns).teardown "thread").1.toOption.join.map
      (fun s => s.feed.items.map (·.text?))
        = some [some "Hi", some "Hello", some "Well?", some "Fine"] := by decide +kernel
  have hread : (TranscriptStore.read ((r.run sampleTurns).teardown "thread").2.store
      "thread").isOk = true := by decide +kernel
  rcases hteardown : (r.run sampleTurns).teardown "thread" with ⟨e | closed?, r₁⟩
  · rw [hteardown] at hclosed
    cases hclosed
  · rw [hteardown] at hclosed hread
    cases closed? with
    | none => cases hclosed
    | some closed =>
      cases hfound : TranscriptStore.read r₁.store "thread" with
      | error e =>
        rw [hfound] at hread
        cases hread
      | ok found =>
        obtain ⟨reopened, r₂, hopen, hbodies⟩ := r.reopened_thread_shows_what_it_showed rfl hids
          "thread" rfl sampleTurns hok hfaithful hteardown hfound
        exact ⟨rfl, hids, rfl, hok, hfaithful, closed, r₁, reopened, r₂, rfl, hopen,
          Option.some.inj hclosed, hbodies⟩

/-- A turn in the midst of which the session is attached anew. -/
def sampleInterruption : List (RegistryEvent MemoryStore) :=
  [.openThread "thread", .session "thread" (.attach "here"), sampleText "Hel",
    .session "thread" (.attach "here"), sampleText "lo"]

/-- **An interrupted turn is merged.** Where the rest of a turn comes after the session was attached
anew, it is shown by an item of its own, until the thread is opened again and both are one. -/
theorem interrupted_turn_is_merged :
    let r : Registry MemoryStore :=
      { store := {}, host := { ids := .numbered "item", clock := .constant "now" } }
    r.sessions = [] ∧ r.host.ids.NeverRepeats ∧ LawfulStore.entries r.store "thread" = [] ∧
      r.Succeeds sampleInterruption ∧
      ∃ closed r₁ reopened r₂,
        (r.run sampleInterruption).teardown "thread" = (.ok (some closed), r₁) ∧
        r₁.openThread "thread" = (.ok reopened, r₂) ∧
        closed.feed.items.map (·.text?) = [some "Hel", some "lo"] ∧
        reopened.feed.items.map (·.text?) = [some "Hello"] ∧
        reopened.feed.items.map (·.body) ≠ closed.feed.items.map (·.body) := by
  intro r
  have hok : r.Succeeds sampleInterruption := ⟨trivial, trivial, trivial, trivial, trivial, trivial⟩
  have hclosed : ((r.run sampleInterruption).teardown "thread").1.toOption.join.map
      (fun s => s.feed.items.map (·.text?)) = some [some "Hel", some "lo"] := by decide +kernel
  have hreopened :
      (((r.run sampleInterruption).teardown "thread").2.openThread "thread").1.toOption.map
        (fun s => s.feed.items.map (·.text?)) = some [some "Hello"] := by decide +kernel
  rcases hteardown : (r.run sampleInterruption).teardown "thread" with ⟨e | closed?, r₁⟩
  · rw [hteardown] at hclosed
    cases hclosed
  · rw [hteardown] at hclosed hreopened
    cases closed? with
    | none => cases hclosed
    | some closed =>
      rcases hopen : r₁.openThread "thread" with ⟨e | reopened, r₂⟩
      · rw [hopen] at hreopened
        cases hreopened
      · rw [hopen] at hreopened
        have hone := Option.some.inj hreopened
        have htwo := Option.some.inj hclosed
        refine ⟨rfl, Supply.numbered_neverRepeats "item", rfl, hok, closed, r₁, reopened, r₂, rfl,
          hopen, htwo, hone, fun hsame => ?_⟩
        -- One item against two.
        have hlength := congrArg List.length hsame
        have hshort := congrArg List.length hone
        have hlong := congrArg List.length htwo
        simp only [List.length_map, List.length_cons, List.length_nil] at hlength hshort hlong
        omega

end Registry

end AgentFeed
