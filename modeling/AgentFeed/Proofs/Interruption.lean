import AgentFeed.Proofs.LiveReplay
import AgentFeed.Proofs.Opening

/-!
# Interrupted turns

A session forgets what it remembers when it is attached, and when its thread is closed and opened
again. None of this is recorded, so a replay of the traffic goes on remembering: the turn under way
is *interrupted* for the session and not for the replay. Until a message resets both, they agree on
those messages only that stand alone, which are shown alike whatever is remembered.

`ThreadSession.Accounted` ties an open thread to the account of its traffic: with the memory that a
replay would have, and with all of its traffic pending, the session would mirror that replay. Events
that are faithful keep the tie (`Accounted.step`), and so does a restore from the account
(`Accounted.restore`). What is stored and what is pending does not matter here, and neither do ids
and announcements of other threads, which draw from the same host.
-/

namespace AgentFeed

/-! ## 1. Messages that stand alone -/

/-- Whether an action neither looks at what is remembered nor adds to it. -/
def Action.standsAlone : Action → Bool
  | .idle => true
  | .reset => true
  | .note _ => true
  | _ => false

theorem Action.step_of_standsAlone {a : Action} (h : a.standsAlone = true) (freshId : String)
    (s memory : Accumulation) :
    a.step freshId memory
      = { a.step freshId s with state := if a.isReset then .empty else memory } := by
  cases a with
  | idle => rfl
  | reset => rfl
  | note body => rfl
  | _ => exact absurd h (by simp [standsAlone])

/-- Whether a message is shown alike whatever is remembered, and adds nothing to that. -/
def Dispatcher.standsAlone (d : Dispatcher) : WireMessage → Bool
  | .assistantMessage _ => false
  | .reasoning _ _ => false
  | m => (d.action .empty m).standsAlone

theorem Dispatcher.action_of_standsAlone {d : Dispatcher} {m : WireMessage}
    (h : d.standsAlone m = true) (s : Accumulation) :
    d.action s m = d.action .empty m ∧ (d.action .empty m).standsAlone = true := by
  cases m with
  | assistantMessage text => exact absurd h (by simp [standsAlone])
  | reasoning kind text => exact absurd h (by simp [standsAlone])
  | _ => exact ⟨rfl, h⟩

theorem Dispatcher.standsAlone_userMessage (d : Dispatcher) (text : String) (id : Option String) :
    d.standsAlone (.userMessage text id) = true := by
  simp only [standsAlone, action]
  split <;> rfl

/-! ## 2. Another memory, other announcements -/

theorem Accumulation.eq_empty_of_rename {ρ : String → String} {s : Accumulation}
    (h : s.rename ρ = .empty) : s = .empty := by
  have hempty : (s.rename ρ).isEmpty = true := by
    rw [h]
    rfl
  refine s.eq_empty_of_isEmpty ?_
  simpa only [isEmpty, rename, Table.mapValues, List.isEmpty_map] using hempty

/-- The host as if these calls had been announced, and no others. -/
def Host.withAnnounced (h : Host) (calls : List ToolSettled) : Host :=
  { h with announced := calls }

theorem Host.Ahead.drawn {h h' : Host} (hahead : h.Ahead h') (calls : List ToolSettled) :
    (h.withAnnounced calls).Drawn (h'.withAnnounced calls) :=
  ⟨⟨hahead.nth, hahead.taken⟩, rfl⟩

/-- What a session remembers against what a replay remembers: the same, unless the turn was
interrupted and the session has nothing left of it. -/
def Accumulation.Resumes (s : Accumulation) (interrupted : Bool) (memory : Accumulation) : Prop :=
  memory = s ∨ interrupted = true ∧ s = .empty

namespace Delivery

variable {σ : Type} [FeedSink σ]

/-- What was announced before does not matter to a step. -/
theorem take_withAnnounced (d : Delivery σ) (outcome : Dispatcher × Step)
    (calls : List ToolSettled) :
    take { d with host := d.host.withAnnounced calls } outcome
      = { d.take outcome with
          host := (d.take outcome).host.withAnnounced (calls ++ outcome.2.settled.toList) } := by
  obtain ⟨dispatcher, state, edit, settled⟩ := outcome
  rcases edit with _ | (body | ⟨id, change⟩)
  · rfl
  · rfl
  · rfl

theorem exists_message_withAnnounced (d : Delivery σ) (m : WireMessage)
    (calls : List ToolSettled) :
    ∃ calls', message { d with host := d.host.withAnnounced calls } m
      = { d.message m with host := (d.message m).host.withAnnounced calls' } :=
  ⟨_, d.take_withAnnounced (d.dispatcher.apply d.host.ids.head d.state m) calls⟩

/-- What is remembered does not matter to a message that stands alone. -/
theorem message_of_standsAlone (d : Delivery σ) {m : WireMessage}
    (h : d.dispatcher.standsAlone m = true) (memory : Accumulation) :
    message { d with state := memory } m
      = { d.message m with state := if m.resets then .empty else memory } := by
  obtain ⟨hmemory, halone⟩ := Dispatcher.action_of_standsAlone h memory
  obtain ⟨hstate, -⟩ := Dispatcher.action_of_standsAlone h d.state
  have hreset : (d.dispatcher.action .empty m).isReset = m.resets :=
    d.dispatcher.isReset_action .empty m
  have hstep := Action.step_of_standsAlone halone d.host.ids.head d.state memory
  rw [message_eq, message_eq]
  simp only [perform, hmemory, hstate, hstep, hreset, take]

/-- A message does the same to a thread with the memory of a replay, as long as it stands alone
where the two memories differ. -/
theorem exists_message_resumes (d : Delivery σ) {m : WireMessage} {interrupted : Bool}
    {memory : Accumulation} (hmemory : d.state.Resumes interrupted memory)
    (halone : interrupted = true → d.dispatcher.standsAlone m = true)
    (calls : List ToolSettled) :
    ∃ memory' calls',
      message { d with state := memory, host := d.host.withAnnounced calls } m
        = { d.message m with
            state := memory', host := (d.message m).host.withAnnounced calls' } ∧
      (d.message m).state.Resumes (interrupted && !m.resets) memory' := by
  obtain ⟨calls', hcalls⟩ := exists_message_withAnnounced { d with state := memory } m calls
  rcases hmemory with rfl | ⟨rfl, hempty⟩
  · exact ⟨_, calls', hcalls, .inl rfl⟩
  · have hsame := d.message_of_standsAlone (halone rfl)
    have hlive : (d.message m).state = if m.resets then .empty else d.state :=
      congrArg (·.state) (hsame d.state)
    refine ⟨if m.resets then .empty else memory, calls', hcalls.trans ?_, ?_⟩
    · rw [hsame memory]
    · rw [hlive, hempty, ite_self]
      by_cases hreset : m.resets = true
      · rw [if_pos hreset]
        exact .inl rfl
      · rw [if_neg hreset]
        exact .inr ⟨by simpa using hreset, rfl⟩

end Delivery

/-! ## 3. What is drawn from a host -/

namespace Delivery

variable {σ : Type} [FeedSink σ]

theorem ahead_message (d : Delivery σ) (m : WireMessage) : d.host.Ahead (d.message m).host := by
  rw [message, take]
  rcases (d.dispatcher.apply d.host.ids.head d.state m).2.edit with _ | (body | ⟨id, change⟩)
  · exact ⟨rfl, Nat.le_refl _⟩
  · exact ⟨rfl, Nat.le_succ _⟩
  · exact ⟨rfl, Nat.le_refl _⟩

theorem ahead_deliverAll (d : Delivery σ) (payloads : List Json) :
    d.host.Ahead (d.deliverAll payloads).host := by
  induction payloads generalizing d with
  | nil => exact .refl _
  | cons p rest ih => exact (d.ahead_message (WireMessage.decode p)).trans (ih (d.payload p))

end Delivery

theorem ThreadSession.ahead_restore (s : ThreadSession) (h : Host)
    (entries : List TranscriptEntry) : h.Ahead (s.restore h entries).2 :=
  Delivery.ahead_deliverAll
    { dispatcher := s.dispatcher, state := .empty, sink := s.feed, host := h }
    (TranscriptEntry.payloads entries)

theorem SessionEvent.ahead_step (s : ThreadSession) (h : Host) (e : SessionEvent) :
    h.Ahead (e.step s h).2 := by
  rcases e.step_cases s h with ⟨sessionId, hstep⟩ | hstep | ⟨drawn, m, hdrawn, hsession⟩
  · rw [hstep]
    exact .refl h
  · rw [hstep]
    exact .refl h
  · have hhost : (e.step s h).2 = ((s.delivery drawn).message m).host :=
      congrArg (·.host) hsession
    rw [hhost]
    exact hdrawn.toAhead.trans ((s.delivery drawn).ahead_message m)

/-! ## 4. Events -/

namespace SessionEvent

/-- Whether the turn under way is interrupted after an event: the session has forgotten something
that was not forgotten by a replay. -/
def interruption (s : ThreadSession) (before : Bool) : SessionEvent → Bool
  | .attach _ => before || !s.state.isEmpty
  | .receive payload => before && (s.isForeign payload || !Traffic.resets payload)
  | .send _ _ _ => before

/-- Whether a session shows an event as a replay will: no prompt is refused, and what comes in an
interrupted turn stands alone. -/
def isFaithful (s : ThreadSession) (interrupted : Bool) : SessionEvent → Bool
  | .attach _ => true
  | .receive payload =>
    !interrupted || s.isForeign payload || s.dispatcher.standsAlone (WireMessage.decode payload)
  | .send accepted _ _ => accepted

variable {s : ThreadSession} {h : Host} {e : SessionEvent} {m : WireMessage}

theorem interruption_of_shown (hshown : e.shown? s h = some m) (before : Bool) :
    e.interruption s before = (before && !m.resets) := by
  cases e with
  | attach sessionId => cases hshown
  | receive payload =>
    obtain ⟨hforeign, rfl⟩ := (shown?_receive_eq_some s h).1 hshown
    simp [interruption, Traffic.resets, hforeign]
  | send accepted text clientMessageId =>
    cases hshown
    simp [interruption, WireMessage.resets, WireMessage.update?]

/-- A turn that is interrupted stays so where nothing is shown. -/
theorem interruption_of_not_shown (hnone : e.shown? s h = none) :
    e.interruption s true = true := by
  cases e with
  | attach sessionId => rfl
  | receive payload =>
    have hforeign := (shown?_receive_eq_none s h).1 hnone
    simp [interruption, hforeign]
  | send accepted text clientMessageId => cases hnone

/-- What is shown on a faithful event stands alone if the turn is interrupted. -/
theorem standsAlone_of_isFaithful (hshown : e.shown? s h = some m)
    (hfaithful : e.isFaithful s true = true) : s.dispatcher.standsAlone m = true := by
  cases e with
  | attach sessionId => cases hshown
  | receive payload =>
    obtain ⟨hforeign, rfl⟩ := (shown?_receive_eq_some s h).1 hshown
    simpa [isFaithful, hforeign] using hfaithful
  | send accepted text clientMessageId =>
    cases hshown
    exact s.dispatcher.standsAlone_userMessage text _

/-- A faithful event on which something is shown is orderly, whatever is remembered. -/
theorem isOrderly_of_isFaithful (hshown : e.shown? s h = some m) {interrupted : Bool}
    (hfaithful : e.isFaithful s interrupted = true) (s' : ThreadSession) :
    e.isOrderly s' = true := by
  cases e with
  | attach sessionId => cases hshown
  | receive payload => rfl
  | send accepted text clientMessageId => exact hfaithful

end SessionEvent

namespace ThreadSession

/-- The session as it would be with the memory of a replay, and with all traffic of its thread
pending. -/
def resumed (s : ThreadSession) (memory : Accumulation) (account : List TranscriptEntry) :
    ThreadSession :=
  { s with state := memory, pending := account }

/-- A session shows a message with the memory of a replay as it does with its own. -/
theorem exists_step_resumed (s : ThreadSession) (h : Host) {e : SessionEvent} {m : WireMessage}
    (hshown : e.shown? s h = some m) {interrupted : Bool} {memory : Accumulation}
    (hmemory : s.state.Resumes interrupted memory)
    (halone : interrupted = true → s.dispatcher.standsAlone m = true)
    (account : List TranscriptEntry) (calls : List ToolSettled) :
    ∃ memory' calls', e.step (s.resumed memory account) (h.withAnnounced calls)
        = ((e.step s h).1.resumed memory' (account ++ e.recorded s h),
            (e.step s h).2.withAnnounced calls') ∧
      (e.step s h).1.state.Resumes (interrupted && !m.resets) memory' := by
  -- The memory and the announcements do not matter to what is drawn, shown and recorded.
  have hdrawn : e.drawn (h.withAnnounced calls) = (e.drawn h).withAnnounced calls := by
    cases e with
    | send accepted text clientMessageId => cases clientMessageId <;> rfl
    | _ => rfl
  have hshown' : e.shown? (s.resumed memory account) (h.withAnnounced calls) = some m := by
    cases e <;> exact hshown
  have hrecorded : e.recorded (s.resumed memory account) (h.withAnnounced calls)
      = e.recorded s h := by
    cases e <;> rfl
  obtain ⟨memory', calls', hmessage, hstate⟩ :=
    (s.delivery (e.drawn h)).exists_message_resumes hmemory halone calls
  have hstep := e.step_of_shown s h hshown
  have hresumed := e.step_of_shown (s.resumed memory account) (h.withAnnounced calls) hshown'
  have hdelivery :
      ((s.resumed memory account).delivery (e.drawn (h.withAnnounced calls))).message m
        = { (s.delivery (e.drawn h)).message m with
            state := memory'
            host := ((s.delivery (e.drawn h)).message m).host.withAnnounced calls' } := by
    rw [hdrawn]
    exact hmessage
  refine ⟨memory', calls', ?_, ?_⟩
  · simp only [hdelivery, hrecorded] at hresumed
    rw [hresumed, hstep]
    rfl
  · rw [hstep]
    exact hstate

/-! ## 5. Sessions and the account of their traffic -/

/-- With the memory of a replay, with all traffic of its thread pending and with none but its own
announcements, a session mirrors the replay of that traffic. -/
def Accounted (previewLimit bound : Nat) (host' : Host) (account : List TranscriptEntry)
    (interrupted : Bool) (s : ThreadSession) (h : Host) : Prop :=
  ∃ memory before calls d, s.state.Resumes interrupted memory ∧
    Mirrors previewLimit bound before host' (s.resumed memory account) (h.withAnnounced calls) d

namespace Accounted

variable {previewLimit bound : Nat} {host' : Host} {account : List TranscriptEntry}
  {interrupted : Bool} {s : ThreadSession} {h : Host}

/-- **A faithful event keeps a session and its account together.** -/
theorem step (ha : Accounted previewLimit bound host' account interrupted s h) {e : SessionEvent}
    (hfaithful : e.isFaithful s interrupted = true) :
    Accounted previewLimit bound host' (account ++ e.recorded s h)
      (e.interruption s interrupted) (e.step s h).1 (e.step s h).2 := by
  obtain ⟨memory, before, calls, d, hmemory, hm⟩ := ha
  cases hshown : e.shown? s h with
  | some m =>
    have halone : interrupted = true → s.dispatcher.standsAlone m = true := by
      rintro rfl
      exact SessionEvent.standsAlone_of_isFaithful hshown hfaithful
    obtain ⟨memory', calls', hstep, hmemory'⟩ :=
      s.exists_step_resumed h hshown hmemory halone account calls
    obtain ⟨d', hm'⟩ := hm.step
      (SessionEvent.isOrderly_of_isFaithful hshown hfaithful (s.resumed memory account))
    rw [hstep] at hm'
    rw [SessionEvent.interruption_of_shown hshown]
    exact ⟨memory', before, calls', d', hmemory', hm'⟩
  | none =>
    rcases e.step_of_not_shown s h hshown with ⟨sessionId, rfl⟩ | ⟨hstep, hrecorded⟩
    · refine ⟨memory, before, calls, d, ?_, ?_⟩
      · -- What is forgotten here is what makes the turn an interrupted one.
        rcases hmemory with rfl | ⟨rfl, -⟩
        · by_cases hempty : s.state.isEmpty = true
          · exact .inl (s.state.eq_empty_of_isEmpty hempty)
          · exact .inr ⟨by simp [SessionEvent.interruption, hempty], rfl⟩
        · exact .inr ⟨rfl, rfl⟩
      · rw [SessionEvent.recorded, List.append_nil]
        exact ⟨hm.tail, hm.coherent, hm.twin⟩
    · rw [hstep, hrecorded, List.append_nil]
      refine ⟨memory, before, calls, d, hmemory.imp_right ?_, hm⟩
      rintro ⟨rfl, hempty⟩
      exact ⟨SessionEvent.interruption_of_not_shown hshown, hempty⟩

/-- Other threads draw ids and times from the same host, and announce calls to it. -/
theorem later (ha : Accounted previewLimit bound host' account interrupted s h) {h' : Host}
    (hahead : h.Ahead h') : Accounted previewLimit bound host' account interrupted s h' := by
  obtain ⟨memory, before, calls, d, hmemory, hm⟩ := ha
  exact ⟨memory, before, calls, _, hmemory, hm.later (hahead.drawn calls)⟩

theorem weaken (ha : Accounted previewLimit bound host' account interrupted s h) {later : Bool}
    (hlater : interrupted = true → later = true) :
    Accounted previewLimit bound host' account later s h := by
  obtain ⟨memory, before, calls, d, hmemory, hm⟩ := ha
  exact ⟨memory, before, calls, d, hmemory.imp_right fun hlost => ⟨hlater hlost.1, hlost.2⟩, hm⟩

/-- It does not matter which part of the traffic is still to be written. -/
theorem withPending (ha : Accounted previewLimit bound host' account interrupted s h)
    (pending : List TranscriptEntry) :
    Accounted previewLimit bound host' account interrupted { s with pending } h :=
  ha

/-- A session that is restored from the account of its thread remembers nothing. The turn is
interrupted by this if a replay does remember something. -/
theorem restore (threadId : String) (previewLimit bound : Nat) {host : Host}
    (hids : host.ids.NeverRepeats) (hids' : host'.ids.NeverRepeats)
    (hmemory : interrupted = true ∨
      (replay previewLimit host' (TranscriptEntry.payloads account)).state = .empty) :
    let opened := (ThreadSession.start threadId previewLimit bound).restore host account
    Accounted previewLimit bound host' account interrupted opened.1 opened.2 := by
  intro opened
  let d := replay previewLimit host (TranscriptEntry.payloads account)
  have hcoherent : d.Coherent :=
    (Delivery.coherent_start { previewLimit } hids).deliverAll (TranscriptEntry.payloads account)
  have htail := isTailOf_restore_start threadId previewLimit bound host account
  refine ⟨d.state, host.announced, opened.2.announced, d, ?_, ?_, hcoherent, ?_⟩
  · rcases hmemory with rfl | hempty
    · exact .inr ⟨rfl, rfl⟩
    · -- The two replays remember the same, up to the names of items.
      obtain ⟨ρ, hρ⟩ := hids'.exists_renaming hcoherent.distinct
      have htwin := Delivery.twin_replayInto { previewLimit } host' hids ρ.injective
        (TranscriptEntry.payloads account) hρ
      have hrenamed : d.state.rename ρ = .empty := htwin.state.symm.trans hempty
      exact .inl (Accumulation.eq_empty_of_rename hrenamed)
  · exact { htail with state := rfl }
  · intro ρ hρ
    exact Delivery.twin_replayInto { previewLimit } host' hids ρ.injective
      (TranscriptEntry.payloads account) hρ

/-- A replay remembers nothing where its session does not, unless the turn was interrupted. -/
theorem replay_state (ha : Accounted previewLimit bound host' account interrupted s h)
    (hids' : host'.ids.NeverRepeats) (hempty : s.state.isEmpty = true) :
    interrupted = true ∨
      (replay previewLimit host' (TranscriptEntry.payloads account)).state = .empty := by
  obtain ⟨memory, before, calls, d, hmemory, htail, hcoherent, htwin⟩ := ha
  rcases hmemory with rfl | ⟨hinterrupted, -⟩
  · right
    obtain ⟨ρ, hρ⟩ := hids'.exists_renaming hcoherent.distinct
    have hstate : s.state = d.state := htail.state
    have hreplayed := (htwin ρ hρ).state
    rw [← hstate, s.state.eq_empty_of_isEmpty hempty] at hreplayed
    exact hreplayed
  · exact .inl hinterrupted

/-- **A session shows what a replay of its account shows**, as far back as its feed goes. -/
theorem bodies_eq (ha : Accounted previewLimit bound host' account interrupted s h)
    (hids' : host'.ids.NeverRepeats) :
    s.feed.items.map (·.body) = (Feed.lastItems bound
      (replay previewLimit host' (TranscriptEntry.payloads account)).sink.items).map (·.body) := by
  obtain ⟨memory, before, calls, d, -, htail, hcoherent, htwin⟩ := ha
  obtain ⟨ρ, hρ⟩ := hids'.exists_renaming hcoherent.distinct
  have hitems : s.feed.items = Feed.lastItems bound d.sink.items := htail.feed.items_eq
  have hbodies := (htwin ρ hρ).feed.items_eq.1
  rw [hitems]
  exact Feed.map_lastItems_congr hbodies.symm bound

end Accounted

end ThreadSession

end AgentFeed
