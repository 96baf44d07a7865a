import AgentFeed.Session

/-!
# Runs of a session

What happens to an open thread, apart from opening it, is a sequence of three kinds of event: it is
attached to a server session, a message arrives, or a prompt is sent. `SessionEvent.step` is one of
them and `ThreadSession.run` a sequence.

An event draws ids and times for itself (`drawn`), shows at most one message (`shown?`) and records
at most one entry (`recorded`). These three say all that it does: `step_of_shown` where a message is
shown, and `step_of_not_shown` where none is. Traffic that was recorded is never taken back
(`pending_step`).
-/

namespace AgentFeed

/-- What happens to an open thread. -/
inductive SessionEvent where
  /-- The thread is attached to a server session. -/
  | attach (sessionId : String)
  /-- A message arrives from the server. -/
  | receive (payload : Json)
  /-- A prompt is handed to the transport, which accepts it or not. -/
  | send (accepted : Bool) (text : String) (clientMessageId : Option String)

namespace SessionEvent

/-- The session and the host after an event. -/
def step (s : ThreadSession) (h : Host) : SessionEvent → ThreadSession × Host
  | .attach sessionId => (s.attach sessionId, h)
  | .receive payload => (s.receive h payload).2
  | .send accepted text clientMessageId => (s.send h accepted text clientMessageId).2

/-- The traffic that an event records. -/
def recorded (s : ThreadSession) (h : Host) : SessionEvent → List TranscriptEntry
  | .attach _ => []
  | .receive payload =>
    if s.isForeign payload then []
    else [{ ts := h.clock.head, threadId := s.threadId, direction := .server, payload }]
  | .send accepted text clientMessageId =>
    if accepted then
      [{ ts := h.clock.head, threadId := s.threadId, direction := .client,
         payload := WireMessage.userPayload text (clientMessageId.getD h.ids.head) s.sessionId }]
    else []

/-- The host after an event has drawn from it what it needs for itself. -/
def drawn (h : Host) : SessionEvent → Host
  | .attach _ => h
  | .receive _ => h.takeTime.2
  | .send _ _ none => h.takeId.2.takeTime.2
  | .send _ _ (some _) => h.takeTime.2

/-- The message that is shown on an event. -/
def shown? (s : ThreadSession) (h : Host) : SessionEvent → Option WireMessage
  | .attach _ => none
  | .receive payload => if s.isForeign payload then none else some (WireMessage.decode payload)
  | .send _ text clientMessageId =>
    some (.userMessage text (some (clientMessageId.getD h.ids.head)))

variable (s : ThreadSession) (h : Host) (e : SessionEvent)

@[simp] theorem shown?_receive_eq_some {payload : Json} {m : WireMessage} :
    (receive payload).shown? s h = some m
      ↔ s.isForeign payload = false ∧ WireMessage.decode payload = m := by
  rw [shown?]
  cases s.isForeign payload <;> simp

@[simp] theorem shown?_receive_eq_none {payload : Json} :
    (receive payload).shown? s h = none ↔ s.isForeign payload = true := by
  rw [shown?]
  cases s.isForeign payload <;> simp

/-- An event on which nothing is shown attaches the session, or does nothing. -/
theorem step_of_not_shown (hnone : e.shown? s h = none) :
    (∃ sessionId, e = .attach sessionId) ∨ e.step s h = (s, h) ∧ e.recorded s h = [] := by
  cases e with
  | attach sessionId => exact .inl ⟨sessionId, rfl⟩
  | receive payload =>
    have hforeign := (shown?_receive_eq_none s h).1 hnone
    refine .inr ⟨?_, ?_⟩
    · rw [step, ThreadSession.receive, if_pos hforeign]
    · rw [recorded, if_pos hforeign]
  | send accepted text clientMessageId => cases hnone

/-- **An event on which a message is shown** delivers the message and records its traffic. -/
theorem step_of_shown {m : WireMessage} (hshown : e.shown? s h = some m) :
    let d := (s.delivery (e.drawn h)).message m
    e.step s h = ({ s.afterDelivery d with pending := s.pending ++ e.recorded s h }, d.host) := by
  cases e with
  | attach sessionId => cases hshown
  | receive payload =>
    obtain ⟨hforeign, rfl⟩ := (shown?_receive_eq_some s h).1 hshown
    have hown : ¬s.isForeign payload = true := by simp [hforeign]
    rw [step, ThreadSession.receive, if_neg hown, recorded, if_neg hown]
    rfl
  | send accepted text clientMessageId =>
    cases hshown
    cases clientMessageId with
    | none =>
      cases accepted with
      | true => rfl
      | false =>
        simp only [recorded, Bool.false_eq_true, if_false, List.append_nil]
        rfl
    | some id =>
      cases accepted with
      | true => rfl
      | false =>
        simp only [recorded, Bool.false_eq_true, if_false, List.append_nil]
        rfl

theorem threadId_step : (e.step s h).1.threadId = s.threadId := by
  cases e with
  | attach sessionId => rfl
  | receive payload =>
    rw [step, ThreadSession.receive]
    split <;> rfl
  | send accepted text clientMessageId =>
    cases clientMessageId <;> cases accepted <;> rfl

/-- **An event adds to the recorded traffic, and does nothing else to it.** -/
theorem pending_step : (e.step s h).1.pending = s.pending ++ e.recorded s h := by
  cases e with
  | attach sessionId => exact (List.append_nil _).symm
  | receive payload =>
    rw [step, ThreadSession.receive, recorded]
    split
    · exact (List.append_nil _).symm
    · rfl
  | send accepted text clientMessageId =>
    cases clientMessageId <;> cases accepted <;> first | rfl | exact (List.append_nil _).symm

theorem threadId_of_mem_recorded {entry : TranscriptEntry} (hmem : entry ∈ e.recorded s h) :
    entry.threadId = s.threadId := by
  cases e with
  | attach sessionId => exact absurd hmem List.not_mem_nil
  | receive payload =>
    rw [recorded] at hmem
    split at hmem
    · exact absurd hmem List.not_mem_nil
    · rw [List.mem_singleton.1 hmem]
  | send accepted text clientMessageId =>
    rw [recorded] at hmem
    split at hmem
    · rw [List.mem_singleton.1 hmem]
    · exact absurd hmem List.not_mem_nil

end SessionEvent

namespace ThreadSession

/-- The session and the host after a sequence of events. -/
def run (s : ThreadSession) (h : Host) (events : List SessionEvent) : ThreadSession × Host :=
  events.foldl (fun now e => e.step now.1 now.2) (s, h)

theorem run_concat (s : ThreadSession) (h : Host) (events : List SessionEvent) (e : SessionEvent) :
    s.run h (events ++ [e]) = e.step (s.run h events).1 (s.run h events).2 := by
  rw [run, List.foldl_append]
  rfl

end ThreadSession

end AgentFeed
