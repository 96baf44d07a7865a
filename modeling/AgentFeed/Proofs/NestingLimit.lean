import AgentFeed.Proofs.Conservation
import AgentFeed.Proofs.DirectoryFiles
import AgentFeed.Proofs.Opening
import AgentFeed.Wire.Message

/-!
# Payloads that are nested too deep

A thread records a payload just as it came, and a store writes what was recorded. Read back, the
payload is inside its entry, one level further down than when it came. So a payload that uses all
the levels that a value may have is taken, shown and written, and from then on the transcript of its
thread cannot be read (`Registry.deepest_payload_shuts_thread`).

This is the only way in which a thread can make its own transcript unreadable, as far as it gets no
doubles (`Registry.saved_thread_reads_back`): what it records of prompts is always read back, and so
is any payload that has a level to spare.
-/

namespace AgentFeed

/-! ## 1. What a thread records -/

/-- The payload of a prompt could have been read from a text, and it is flat. -/
theorem WireMessage.userPayload_shape (text id : String) (sessionId : Option String) :
    (userPayload text id sessionId).Canonical ∧
      (userPayload text id sessionId).integersOnly = true ∧
      (userPayload text id sessionId).depth = 1 := by
  have hsorted : Table.Sorted (Table.ofPairs
      ([("type", .string "user_message"), ("text", .string text), ("clientMessageId", .string id)]
        ++ Json.optional "sessionId" (sessionId.map .string))) := Table.sorted_ofPairs _
  cases sessionId with
  | none => exact ⟨⟨hsorted, trivial, trivial, trivial, trivial⟩, rfl, rfl⟩
  | some sessionId => exact ⟨⟨hsorted, trivial, trivial, trivial, trivial, trivial⟩, rfl, rfl⟩

/-- A payload that is recorded has arrived, or is that of a prompt. -/
theorem SessionEvent.payload_of_mem_recorded {s : ThreadSession} {h : Host} {e : SessionEvent}
    {entry : TranscriptEntry} (hmem : entry ∈ e.recorded s h) :
    e = .receive entry.payload ∨
      ∃ text id sessionId, entry.payload = WireMessage.userPayload text id sessionId := by
  cases e with
  | attach sessionId => exact absurd hmem List.not_mem_nil
  | receive payload =>
    rw [recorded] at hmem
    split_ifs at hmem
    · exact absurd hmem List.not_mem_nil
    · rw [List.mem_singleton.1 hmem]
      exact .inl rfl
  | send accepted text clientMessageId =>
    rw [recorded] at hmem
    split_ifs at hmem
    · rw [List.mem_singleton.1 hmem]
      exact .inr ⟨_, _, _, rfl⟩
    · exact absurd hmem List.not_mem_nil

/-- The same for all that is pending after a sequence of events. -/
theorem ThreadSession.payload_of_mem_pending {s : ThreadSession} {h : Host}
    (hnone : s.pending = []) (events : List SessionEvent) {entry : TranscriptEntry}
    (hmem : entry ∈ (s.run h events).1.pending) :
    .receive entry.payload ∈ events ∨
      ∃ text id sessionId, entry.payload = WireMessage.userPayload text id sessionId := by
  induction events using List.reverseRecOn with
  | nil =>
    rw [run, List.foldl_nil, hnone] at hmem
    exact absurd hmem List.not_mem_nil
  | append_singleton events e ih =>
    rw [run_concat, SessionEvent.pending_step, List.mem_append] at hmem
    rcases hmem with hbefore | hnow
    · exact (ih hbefore).imp_left (List.mem_append_left [e])
    · refine (SessionEvent.payload_of_mem_recorded hnow).imp_left fun heq => ?_
      rw [← heq]
      exact List.mem_append_right _ (List.mem_singleton_self e)

/-- A thread that is not attached records whatever arrives. -/
theorem ThreadSession.pending_receive {s : ThreadSession} (h : Host)
    (hsession : s.sessionId = none) (hnone : s.pending = []) (payload : Json) :
    (s.run h [.receive payload]).1.pending = [⟨h.clock.head, s.threadId, .server, payload⟩] := by
  have hown : ¬s.isForeign payload = true := by
    rw [isForeign, hsession]
    exact Bool.false_ne_true
  have hstep := SessionEvent.pending_step s h (.receive payload)
  rw [hnone, SessionEvent.recorded, if_neg hown] at hstep
  exact hstep

/-- Arrays nested in one another. -/
def Json.nested : Nat → Json
  | 0 => .null
  | n + 1 => .array [nested n]

namespace Json

theorem canonical_nested (n : Nat) : (nested n).Canonical := by
  induction n with
  | zero => trivial
  | succ n ih => exact ⟨ih, trivial⟩

theorem integersOnly_nested (n : Nat) : (nested n).integersOnly = true := by
  induction n with
  | zero => rfl
  | succ n ih => rw [nested, integersOnly, itemsIntegersOnly, ih]; rfl

theorem depth_nested (n : Nat) : (nested n).depth = n := by
  induction n with
  | zero => rfl
  | succ n ih => rw [nested, depth, itemsDepth, itemsDepth, ih, Nat.max_zero]

/-- Arrays in one another are read from their text, as long as there are not too many. -/
theorem parse?_nested {n : Nat} (h : n ≤ depthLimit) :
    parse? (nested n).compact = some (nested n) := by
  rw [parse?_compact (canonical_nested n) (integersOnly_nested n), depth_nested, if_pos h]

end Json

/-! ## 2. One thread of a registry -/

namespace Registry

section OneThread

variable {σ : Type} [TranscriptStore σ] {r : Registry σ} {threadId : String} {s : ThreadSession}

/-- Events of one thread happen to its session, and to nothing else. -/
theorem run_sessions (htidy : r.Tidy) (hopen : r.get? threadId = some s)
    (events : List SessionEvent) :
    (r.run (events.map (.session threadId))).Tidy ∧
      (r.run (events.map (.session threadId))).store = r.store ∧
      (r.run (events.map (.session threadId))).host = (s.run r.host events).2 ∧
      (r.run (events.map (.session threadId))).get? threadId = some (s.run r.host events).1 := by
  induction events using List.reverseRecOn with
  | nil => exact ⟨htidy, rfl, rfl, hopen⟩
  | append_singleton events e ih =>
    obtain ⟨htidy', hstore, hhost, hget⟩ := ih
    have hconcat : r.run ((events ++ [e]).map (.session threadId))
        = (RegistryEvent.session threadId e).step (r.run (events.map (.session threadId))) := by
      rw [run, List.map_append, List.foldl_append]
      rfl
    rw [hconcat, ThreadSession.run_concat]
    rcases session_cases (r.run (events.map (.session threadId))) threadId e with
      ⟨hnone, -⟩ | ⟨s', hs', hstep⟩
    · rw [hget] at hnone
      cases hnone
    · obtain rfl := Option.some.inj (hget.symm.trans hs')
      refine ⟨htidy'.session threadId e, ?_⟩
      rw [hstep, hhost]
      exact ⟨hstore, rfl, Table.get?_insert_self _ _ _⟩

/-- The store after the traffic of a thread was written with success: with that of all threads, or
when the thread was closed. -/
def Saves (r : Registry σ) (threadId : String) (store : σ) : Prop :=
  r.flush.1.isOk = true ∧ store = r.flush.2.store ∨
    (r.teardown threadId).1.isOk = true ∧ store = (r.teardown threadId).2.store

end OneThread

/-! ## 3. What is read back -/

variable {r : Registry DirectoryStore} {threadId : String} {s : ThreadSession}

/-- Writing the traffic of a thread is appending a batch in which just this traffic is its own. -/
theorem Saves.exists_append {store : DirectoryStore} (h : r.Saves threadId store) (htidy : r.Tidy)
    (hopen : r.get? threadId = some s) :
    ∃ batch, r.store.append batch = (.ok (), store) ∧
      EntryBatch.ofThread batch threadId = s.pending := by
  rcases h with ⟨hok, rfl⟩ | ⟨hok, rfl⟩
  · refine ⟨r.allPending, ?_, ?_⟩
    · rcases r.flush_cases with ⟨hnone, heq⟩ | ⟨store, happend, heq⟩ | ⟨e, store, -, heq⟩
      · rw [hnone, heq]
        rfl
      · rw [heq]
        exact happend
      · rw [heq] at hok
        cases hok
    · rw [htidy.ofThread_allPending, pendingOf_of_get? hopen]
  · refine ⟨s.pending, ?_, EntryBatch.ofThread_eq_self (htidy.pending_eq threadId s hopen)⟩
    rw [teardown, hopen] at hok ⊢
    simp only [ThreadSession.takePending] at hok ⊢
    cases happend : TranscriptStore.append r.store s.pending with
    | mk result store =>
      rw [happend] at hok
      cases result with
      | error e => cases hok
      | ok done => exact happend

/-- **What is read of a thread** that was open with nothing recorded and nothing stored, and whose
traffic was written: the outcome of the traffic. -/
theorem exists_read_of_saves (htidy : r.Tidy) (hopen : r.get? threadId = some s)
    (hempty : r.store.prepared.read threadId = .ok [])
    (hexact : ∀ e ∈ s.pending, e.IsExact) {store : DirectoryStore}
    (hsaves : r.Saves threadId store) :
    ∃ number, store.read threadId
      = TranscriptText.outcome (store.path threadId) number s.pending := by
  obtain ⟨batch, happend, hbatch⟩ := hsaves.exists_append htidy hopen
  obtain ⟨before, hbefore, hkeeps⟩ := DirectoryStore.Keeps.start hempty
  have hlater := hkeeps.append batch
  rw [happend, List.nil_append] at hlater
  have hadded : EntryBatch.added (.ok ()) batch threadId = s.pending := hbatch
  rw [hadded] at hlater
  exact hlater.exists_read_eq hbefore hexact

/-- Whether a thread can be opened that is not open: whether its transcript can be read. -/
theorem isOk_openThread (hclosed : r.get? threadId = none) :
    (r.openThread threadId).1.isOk = (r.store.read threadId).isOk := by
  have hread : TranscriptStore.read r.store threadId = r.store.read threadId := rfl
  rw [openThread, hclosed, hread]
  cases r.store.read threadId <;> rfl

/-- **A thread reads back what it recorded, if nothing of it is nested too deep.** Of a thread that
has no transcript and gets no doubles, let events happen, and let the traffic be written with
success, for this thread or for all. Then the transcript of the thread is the traffic if every
payload in it is nested at most 126 levels, as it is when this holds of all that arrived. Otherwise
the transcript cannot be read. Accordingly the thread can be opened again, or not. -/
theorem saved_thread_reads_back (r : Registry DirectoryStore) (htidy : r.Tidy) {threadId : String}
    {s : ThreadSession} (hopen : r.get? threadId = some s) (hnone : s.pending = [])
    (hempty : r.store.prepared.read threadId = .ok []) (events : List SessionEvent)
    (hevents : ∀ payload, .receive payload ∈ events →
      payload.Canonical ∧ payload.integersOnly = true)
    {store : DirectoryStore}
    (hsaves : (r.run (events.map (.session threadId))).Saves threadId store) :
    let recorded := (r.run (events.map (.session threadId))).pendingOf threadId
    let fits := ∀ e ∈ recorded, e.payload.depth ≤ 126
    ((∀ payload, .receive payload ∈ events → payload.depth ≤ 126) → fits) ∧
      (fits → store.read threadId = .ok recorded) ∧
      (¬fits → ∃ line, store.read threadId
        = .error (.malformedLine (store.path threadId) line)) ∧
      ∀ later : Registry DirectoryStore, later.store = store → later.get? threadId = none →
        ((later.openThread threadId).1.isOk = true ↔ fits) := by
  intro recorded fits
  obtain ⟨htidy', hstore, -, hget⟩ := run_sessions htidy hopen events
  have hrecorded : recorded = (s.run r.host events).1.pending := pendingOf_of_get? hget
  have hpayload : ∀ e ∈ recorded, .receive e.payload ∈ events ∨
      ∃ text id sessionId, e.payload = WireMessage.userPayload text id sessionId :=
    fun e he => ThreadSession.payload_of_mem_pending hnone events (hrecorded ▸ he)
  have hexact : ∀ e ∈ recorded, e.IsExact := by
    intro e he
    rcases hpayload e he with harrived | ⟨text, id, sessionId, heq⟩
    · obtain ⟨hcanonical, hintegers⟩ := hevents e.payload harrived
      exact ⟨hcanonical, hintegers⟩
    · obtain ⟨hcanonical, hintegers, -⟩ := WireMessage.userPayload_shape text id sessionId
      rw [← heq] at hcanonical hintegers
      exact ⟨hcanonical, hintegers⟩
  obtain ⟨number, hread⟩ := exists_read_of_saves htidy' hget (hstore.symm ▸ hempty)
    (hrecorded ▸ hexact) hsaves
  rw [← hrecorded] at hread
  have hgood : fits → store.read threadId = .ok recorded :=
    fun h => hread.trans (TranscriptText.outcome_of_fits _ number h)
  have hbad : ¬fits → ∃ line, store.read threadId
      = .error (.malformedLine (store.path threadId) line) := by
    intro h
    simp only [fits, not_forall, Nat.not_le] at h
    obtain ⟨e, he, hdeep⟩ := h
    rw [hread]
    exact TranscriptText.exists_outcome_of_tooDeep _ number ⟨e, he, hdeep⟩
  refine ⟨fun harrived e he => ?_, hgood, hbad, fun later hlater hclosed => ?_⟩
  · rcases hpayload e he with hin | ⟨text, id, sessionId, heq⟩
    · exact harrived e.payload hin
    · rw [heq, (WireMessage.userPayload_shape text id sessionId).2.2]
      decide
  · rw [isOk_openThread hclosed, hlater]
    refine ⟨fun hok => ?_, fun h => ?_⟩
    · by_contra h
      obtain ⟨line, herror⟩ := hbad h
      rw [herror] at hok
      cases hok
    · rw [hgood h]
      rfl

/-- A registry with one thread open, whose transcripts are on an empty disk. -/
def sampleOpened : Registry DirectoryStore :=
  ({ store := .sample, host := { ids := .numbered "item", clock := .numbered "time" } :
    Registry DirectoryStore }.openThread "thread").2

theorem sampleOpened_spec : sampleOpened.Tidy ∧ sampleOpened.store = .sample ∧
    ∃ s, sampleOpened.get? "thread" = some s ∧ s.sessionId = none ∧ s.pending = [] := by
  have hread : TranscriptStore.read DirectoryStore.sample "thread" = .ok [] :=
    DirectoryStore.read_sample.1
  refine ⟨(tidy_of_closed rfl).openThread "thread", ?_, ?_⟩
  · rw [sampleOpened, openThread_eq rfl hread]
    rfl
  · rw [sampleOpened, openThread_eq rfl hread]
    exact ⟨_, get?_putSession _ _, rfl, rfl⟩

/-- A payload that has just one level to spare, and a prompt. -/
def sampleArrivals : List SessionEvent :=
  [.attach "here", .receive (Json.nested 126), .send true "\"" none]

/-- In the sample the payload and the prompt are read back. -/
theorem saved_thread_reads_back_sample :
    let now := sampleOpened.run (sampleArrivals.map (.session "thread"))
    sampleOpened.Tidy ∧ (∃ s, sampleOpened.get? "thread" = some s ∧ s.pending = []) ∧
      sampleOpened.store.prepared.read "thread" = .ok [] ∧
      (∀ payload, .receive payload ∈ sampleArrivals →
        payload.Canonical ∧ payload.integersOnly = true) ∧
      now.Saves "thread" now.flush.2.store ∧
      (now.pendingOf "thread").map (·.payload.depth) = [126, 1] ∧
      now.flush.2.store.read "thread" = .ok (now.pendingOf "thread") := by
  intro now
  obtain ⟨htidy, hstore, s, hopen, -, hnone⟩ := sampleOpened_spec
  have hempty : sampleOpened.store.prepared.read "thread" = .ok [] :=
    hstore ▸ DirectoryStore.read_sample.2
  have hreceived : ∀ payload, .receive payload ∈ sampleArrivals → payload = Json.nested 126 := by
    intro payload hmem
    simpa [sampleArrivals] using hmem
  have hevents : ∀ payload, .receive payload ∈ sampleArrivals →
      payload.Canonical ∧ payload.integersOnly = true := fun payload hmem =>
    hreceived payload hmem ▸ ⟨Json.canonical_nested 126, Json.integersOnly_nested 126⟩
  have hsaves : now.Saves "thread" now.flush.2.store := .inl ⟨by decide +kernel, rfl⟩
  obtain ⟨hfits, hread, -, -⟩ := saved_thread_reads_back sampleOpened htidy hopen hnone hempty
    sampleArrivals hevents hsaves
  refine ⟨htidy, ⟨s, hopen, hnone⟩, hempty, hevents, hsaves, by decide +kernel,
    hread (hfits fun payload hmem => ?_)⟩
  rw [hreceived payload hmem, Json.depth_nested]

/-- **The deepest payload shuts its thread.** A payload that is nested as deep as a value may be is
read from its text, recorded, and written when the thread is closed. After that the transcript
cannot be read, and the thread cannot be opened. -/
theorem deepest_payload_shuts_thread :
    let payload := Json.nested Json.depthLimit
    let now := sampleOpened.run [.session "thread" (.receive payload)]
    let closed := now.teardown "thread"
    Json.parse? payload.compact = some payload ∧ sampleOpened.store.read "thread" = .ok [] ∧
      (now.pendingOf "thread").map (·.payload) = [payload] ∧ closed.1.isOk = true ∧
      (∃ line, closed.2.store.read "thread"
        = .error (.malformedLine (closed.2.store.path "thread") line)) ∧
      (closed.2.openThread "thread").1.isOk = false := by
  intro payload now closed
  obtain ⟨htidy, hstore, s, hopen, hsession, hnone⟩ := sampleOpened_spec
  obtain ⟨htidy', hstore', -, hget⟩ := run_sessions htidy hopen [.receive payload]
  have hpending := ThreadSession.pending_receive sampleOpened.host hsession hnone payload
  have hexact : ∀ e ∈ (s.run sampleOpened.host [.receive payload]).1.pending, e.IsExact := by
    intro e he
    rw [hpending, List.mem_singleton] at he
    rw [he]
    exact ⟨Json.canonical_nested _, Json.integersOnly_nested _⟩
  have hempty : now.store.prepared.read "thread" = .ok [] :=
    hstore' ▸ hstore ▸ DirectoryStore.read_sample.2
  have hclosed : closed.1.isOk = true := by decide +kernel
  have hgone : closed.2.get? "thread" = none := by
    rw [← Option.isNone_iff_eq_none]
    decide +kernel
  obtain ⟨number, hread⟩ := exists_read_of_saves htidy' hget hempty hexact
    (.inr ⟨hclosed, rfl⟩ : now.Saves "thread" closed.2.store)
  have hdeep : ∃ e ∈ (s.run sampleOpened.host [.receive payload]).1.pending,
      126 < e.payload.depth := by
    rw [hpending]
    refine ⟨_, List.mem_singleton_self _, ?_⟩
    rw [Json.depth_nested]
    decide
  obtain ⟨line, hline⟩ := TranscriptText.exists_outcome_of_tooDeep _ number hdeep
  refine ⟨Json.parse?_nested (Nat.le_refl _), hstore ▸ DirectoryStore.read_sample.1, ?_, hclosed,
    ⟨line, hread.trans hline⟩, ?_⟩
  · have hrecorded : now.pendingOf "thread"
        = (s.run sampleOpened.host [.receive payload]).1.pending := pendingOf_of_get? hget
    rw [hrecorded, hpending]
    rfl
  · rw [isOk_openThread hgone, hread.trans hline]
    rfl

end Registry

end AgentFeed
