import AgentFeed.Proofs.Followers
import AgentFeed.Proofs.ReplaySplit
import AgentFeed.Proofs.ResetIsolation

/-!
# Prompts are shown once

A prompt reaches a session on three ways: from a transcript that is restored, when it is sent, and
when the server sends it back. A session shows the first prompt with a client message id and skips
the others, whichever way they come, and whatever was forgotten in between: the ids that were seen
are part of the dispatcher, which no reset touches.

Each event hands messages to a thread (`LifeEvent.thread`, `LifeEvent.messages`), one for one. So the
life of a session is a single list of messages, `ThreadSession.messages`, and the ids that were seen
are those of its prompts (`ThreadSession.mem_seen_life`). Traffic of another server session is not in
the list, which is why it does not use up an id. What is recorded is another list, and does not
depend on what was shown.
-/

namespace AgentFeed

/-! ## 1. Messages one after another -/

/-- The client message ids of the prompts among some messages. -/
def WireMessage.promptIds (messages : List WireMessage) : List String :=
  messages.filterMap promptId?

theorem WireMessage.promptIds_append (first second : List WireMessage) :
    promptIds (first ++ second) = promptIds first ++ promptIds second :=
  List.filterMap_append

theorem Dispatcher.hasSeen_eq_true_iff {d : Dispatcher} {id : Option String} :
    d.hasSeen id = true ↔ ∃ c ∈ d.seen, id = some c := by
  rw [hasSeen, Option.any_eq_true]
  constructor
  · rintro ⟨c, rfl, hc⟩
    exact ⟨c, List.contains_iff_mem.1 hc, rfl⟩
  · rintro ⟨c, hc, rfl⟩
    exact ⟨c, rfl, List.contains_iff_mem.2 hc⟩

namespace Delivery

variable {σ : Type} [FeedSink σ]

/-- The thread after a list of messages. -/
def messages (d : Delivery σ) (ms : List WireMessage) : Delivery σ :=
  ms.foldl message d

theorem deliverAll_eq_messages (d : Delivery σ) (payloads : List Json) :
    d.deliverAll payloads = d.messages (payloads.map WireMessage.decode) := by
  rw [messages, List.foldl_map]
  rfl

theorem mem_seen_messages (d : Delivery σ) (ms : List WireMessage) (id : String) :
    id ∈ (d.messages ms).dispatcher.seen ↔
      id ∈ d.dispatcher.seen ∨ id ∈ WireMessage.promptIds ms := by
  induction ms generalizing d with
  | nil => exact ⟨.inl, fun hor => hor.resolve_right List.not_mem_nil⟩
  | cons m rest ih =>
    have hnext : (d.message m).dispatcher = d.dispatcher.after m := by
      rw [message_eq]
      rfl
    rw [messages, List.foldl_cons, ← messages, ih, hnext, Dispatcher.mem_seen_after, or_assoc]
    refine or_congr_right ?_
    simp only [WireMessage.promptIds, List.mem_filterMap, List.mem_cons, or_and_right, exists_or,
      exists_eq_left]

/-- A prompt is skipped if it was seen, and shown and remembered otherwise. -/
theorem message_userMessage (d : Delivery σ) (text : String) (id : Option String) :
    d.message (.userMessage text id)
      = if d.dispatcher.hasSeen id then d
        else { d.noted (.message .user text) with
                dispatcher := d.dispatcher.after (.userMessage text id) } := by
  rw [message_eq, Dispatcher.action]
  split
  · next hseen =>
    obtain ⟨c, hc, rfl⟩ := Dispatcher.hasSeen_eq_true_iff.1 hseen
    rw [perform_idle, Dispatcher.after, if_pos (List.contains_iff_mem.2 hc)]
  · exact d.perform_note _ _

/-- Nothing that a thread shows changes the room of its feed. -/
theorem bound_message (d : Delivery LiveFeed) (m : WireMessage) :
    (d.message m).sink.bound = d.sink.bound := by
  rw [message, take]
  rcases (d.dispatcher.apply d.host.ids.head d.state m).2.edit with _ | (body | ⟨id, change⟩)
  · rfl
  · exact LiveFeed.bound_after d.sink (.append _)
  · exact LiveFeed.bound_after d.sink (.update _ _)

theorem bound_messages (d : Delivery LiveFeed) (ms : List WireMessage) :
    (d.messages ms).sink.bound = d.sink.bound := by
  induction ms generalizing d with
  | nil => rfl
  | cons m rest ih => exact (ih (d.message m)).trans (d.bound_message m)

end Delivery

/-! ## 2. One event -/

namespace LifeEvent

variable (s : ThreadSession) (h : Host)

/-- The thread that an event hands messages to. -/
def thread : LifeEvent → Delivery LiveFeed
  | .restore _ => { dispatcher := s.dispatcher, state := .empty, sink := s.feed, host := h }
  | .event e => s.delivery (e.drawn h)

/-- The messages that an event hands to the thread, one after another. -/
def messages : LifeEvent → List WireMessage
  | .restore entries => (TranscriptEntry.payloads entries).map WireMessage.decode
  | .event e => (e.shown? s h).toList

/-- The traffic that an event records. What is restored was recorded before. -/
def recorded : LifeEvent → List TranscriptEntry
  | .restore _ => []
  | .event e => e.recorded s h

/-- **An event is the messages it hands over.** The feed and the ids seen are as they leave them, and
so is what is remembered, unless the event makes the session forget it. -/
theorem step_eq_messages (e : LifeEvent) :
    let d := (e.thread s h).messages (e.messages s h)
    (e.step s h).1.feed = d.sink ∧ (e.step s h).1.dispatcher = d.dispatcher ∧
      (e.step s h).1.state = (if e.resets s then .empty else d.state) ∧
      (e.step s h).1.pending = s.pending ++ e.recorded s h := by
  cases e with
  | restore entries =>
    dsimp only [thread, messages]
    rw [← Delivery.deliverAll_eq_messages]
    exact ⟨rfl, rfl, rfl, (List.append_nil _).symm⟩
  | event e =>
    dsimp only [thread, messages]
    have hstate : ∀ state, (e.step s h).1.state = state →
        (e.step s h).1.state = if (event e).resets s then .empty else state := by
      intro state heq
      split
      · next hreset => exact state_of_resets hreset h
      · exact heq
    cases hshown : e.shown? s h with
    | some m =>
      have hstep := e.step_of_shown s h hshown
      refine ⟨?_, ?_, hstate _ ?_, e.pending_step s h⟩
      · rw [step, hstep]
        rfl
      · rw [step, hstep]
        rfl
      · rw [hstep]
        rfl
    | none =>
      rcases e.step_of_not_shown s h hshown with ⟨sessionId, rfl⟩ | ⟨hstep, -⟩
      · exact ⟨rfl, rfl, rfl, (List.append_nil _).symm⟩
      · refine ⟨?_, ?_, hstate _ ?_, e.pending_step s h⟩
        · rw [step, hstep]
          rfl
        · rw [step, hstep]
          rfl
        · rw [hstep]
          rfl

end LifeEvent

/-! ## 3. The life of a session -/

namespace ThreadSession

/-- All messages that events hand to the thread of a session. -/
def messages (s : ThreadSession) (h : Host) : List LifeEvent → List WireMessage
  | [] => []
  | e :: rest => e.messages s h ++ (e.step s h).1.messages (e.step s h).2 rest

/-- All traffic that events record. -/
def recorded (s : ThreadSession) (h : Host) : List LifeEvent → List TranscriptEntry
  | [] => []
  | e :: rest => e.recorded s h ++ (e.step s h).1.recorded (e.step s h).2 rest

/-- **The ids that were seen are those of all prompts.** -/
theorem mem_seen_life (s : ThreadSession) (h : Host) (events : List LifeEvent) (id : String) :
    id ∈ (s.life h events).1.dispatcher.seen ↔
      id ∈ s.dispatcher.seen ∨ id ∈ WireMessage.promptIds (s.messages h events) := by
  induction events generalizing s h with
  | nil => exact ⟨.inl, fun hor => hor.resolve_right List.not_mem_nil⟩
  | cons e rest ih =>
    have hthread : (e.thread s h).dispatcher = s.dispatcher := by cases e <;> rfl
    have hstep : id ∈ (e.step s h).1.dispatcher.seen ↔
        id ∈ s.dispatcher.seen ∨ id ∈ WireMessage.promptIds (e.messages s h) := by
      rw [(e.step_eq_messages s h).2.1, Delivery.mem_seen_messages, hthread]
    rw [life, List.foldl_cons, ← life, ih, hstep, messages, WireMessage.promptIds_append,
      List.mem_append, or_assoc]

theorem pending_life (s : ThreadSession) (h : Host) (events : List LifeEvent) :
    (s.life h events).1.pending = s.pending ++ s.recorded h events := by
  induction events generalizing s h with
  | nil => exact (List.append_nil _).symm
  | cons e rest ih =>
    rw [life, List.foldl_cons, ← life, ih, (e.step_eq_messages s h).2.2.2, recorded,
      List.append_assoc]

theorem bound_life (s : ThreadSession) (h : Host) (events : List LifeEvent) :
    (s.life h events).1.feed.bound = s.feed.bound := by
  induction events generalizing s h with
  | nil => rfl
  | cons e rest ih =>
    have hthread : (e.thread s h).sink = s.feed := by cases e <;> rfl
    rw [life, List.foldl_cons, ← life, ih, (e.step_eq_messages s h).1, Delivery.bound_messages,
      hthread]

/-- **A prompt is shown once.** Whatever happened to a session before, look at the messages that the
next event hands to it, and at any prompt among them. If a prompt with its client message id was
handed over before, in the same event or in any earlier one, nothing at all changes; otherwise, and
always without an id, the prompt is appended to the feed, so that it is shown last, behind as many of
the items before it as there is room for; and nothing is remembered but its id.
Traffic of another server session does nothing, so it uses up no id. The traffic waiting to be
written is what the events recorded, in their order, whether or not it was shown. -/
theorem prompts_are_shown_once (threadId : String) (previewLimit bound : Nat) (host : Host)
    (before : List LifeEvent) (e : LifeEvent) :
    let start := ThreadSession.start threadId previewLimit bound
    let now := start.life host before
    let after := e.step now.1 now.2
    let thread := e.thread now.1 now.2
    let messages := e.messages now.1 now.2
    after.1.feed = (thread.messages messages).sink ∧
      after.1.state = (if e.resets now.1 then .empty else (thread.messages messages).state) ∧
      (∀ first text id rest, messages = first ++ .userMessage text id :: rest →
        let d := thread.messages first
        let next := d.message (.userMessage text id)
        let earlier := WireMessage.promptIds (start.messages host before ++ first)
        ((∃ c ∈ earlier, id = some c) → next = d) ∧
          ((∀ c ∈ earlier, id ≠ some c) →
            let prompt : FeedItem := ⟨d.host.ids.head, d.host.clock.head, .message .user text⟩
            next.sink = d.sink.append prompt ∧
              next.sink.items = Feed.lastItems bound (d.sink.items ++ [prompt]) ∧
              next.state = d.state)) ∧
      (∀ payload, e = .event (.receive payload) → now.1.isForeign payload = true →
        after = now ∧ messages = []) ∧
      now.1.pending = start.recorded host before := by
  intro start now after thread messages
  obtain ⟨hfeed, -, hstate, -⟩ := e.step_eq_messages now.1 now.2
  refine ⟨hfeed, hstate, ?_, ?_, start.pending_life host before⟩
  · intro first text id rest hmessages d next earlier
    have hseen : ∀ c, c ∈ d.dispatcher.seen ↔
        c ∈ WireMessage.promptIds (start.messages host before ++ first) := by
      intro c
      have hthread : thread.dispatcher = now.1.dispatcher := by cases e <;> rfl
      rw [Delivery.mem_seen_messages, hthread, start.mem_seen_life,
        WireMessage.promptIds_append, List.mem_append]
      exact or_congr_left (or_iff_right List.not_mem_nil)
    have hnext := d.message_userMessage text id
    constructor
    · rintro ⟨c, hc, rfl⟩
      rw [if_pos (Dispatcher.hasSeen_eq_true_iff.2 ⟨c, (hseen c).2 hc, rfl⟩)] at hnext
      exact hnext
    · intro hnew prompt
      rw [if_neg] at hnext
      · have hsink : next.sink = d.sink.append prompt := congrArg Delivery.sink hnext
        have hstate := congrArg Delivery.state hnext
        have hthread : thread.sink = now.1.feed := by cases e <;> rfl
        have hbound : d.sink.bound = bound := by
          rw [Delivery.bound_messages, hthread]
          exact start.bound_life host before
        refine ⟨hsink, ?_, hstate⟩
        rw [hsink, LiveFeed.items_append, hbound]
      · rw [Dispatcher.hasSeen_eq_true_iff]
        rintro ⟨c, hc, hid⟩
        exact hnew c ((hseen c).1 hc) hid
  · rintro payload rfl hforeign
    have hnone := (SessionEvent.shown?_receive_eq_none now.1 now.2).2 hforeign
    refine ⟨?_, ?_⟩
    · rcases SessionEvent.step_of_not_shown now.1 now.2 _ hnone with
        ⟨sessionId, hattach⟩ | ⟨hstep, -⟩
      · cases hattach
      · exact hstep
    · exact congrArg Option.toList hnone

/-- A prompt as the server sends it in one of its sessions. -/
def promptOf (sessionId text id : String) : Json :=
  .object [("type", .string "user_message"), ("sessionId", .string sessionId),
    ("text", .string text), ("clientMessageId", .string id)]

/-- A session that was restored with one prompt, is attached, has failed to send another one, and
has got a third one that belongs to another server session. -/
def promptedLife : List LifeEvent :=
  [.restore [⟨"then", "thread", .client, promptOf "s" "one" "a"⟩], .event (.attach "s"),
    .event (.send false "two" (some "b")), .event (.receive (promptOf "other" "three" "c"))]

/-- The prompt that could not be sent is not shown a second time when it comes back, but the one of
the other server session is shown when it comes in the right one. -/
theorem prompts_are_shown_once_sample :
    let start := ThreadSession.start "thread" 200 500
    let host : Host := { ids := .numbered "item", clock := .constant "now" }
    let now := start.life host promptedLife
    let ids := WireMessage.promptIds (start.messages host promptedLife)
    let second := LifeEvent.event (.receive (promptOf "s" "two" "b"))
    let third := LifeEvent.event (.receive (promptOf "s" "three" "c"))
    second.messages now.1 now.2 = [.userMessage "two" (some "b")] ∧
      (∃ c ∈ ids, some "b" = some c) ∧
      (second.thread now.1 now.2).message (.userMessage "two" (some "b"))
        = second.thread now.1 now.2 ∧
      third.messages now.1 now.2 = [.userMessage "three" (some "c")] ∧
      (∀ c ∈ ids, some "c" ≠ some c) ∧
      ((third.thread now.1 now.2).message (.userMessage "three" (some "c"))).sink
        = (third.thread now.1 now.2).sink.append
            ⟨"item-3", "now", .message .user "three"⟩ ∧
      (third.thread now.1 now.2).sink.items.map (·.render) = ["[user] one", "[user] two"] ∧
      ((third.thread now.1 now.2).message (.userMessage "three" (some "c"))).sink.items
        = Feed.lastItems 500 ((third.thread now.1 now.2).sink.items
            ++ [⟨"item-3", "now", .message .user "three"⟩]) ∧
      now.1.pending = [] := by
  intro start host now ids second third
  have hsecond : second.messages now.1 now.2 = [.userMessage "two" (some "b")] := rfl
  have hthird : third.messages now.1 now.2 = [.userMessage "three" (some "c")] := rfl
  have hids : ids = ["a", "b"] := rfl
  have hfresh : (third.thread now.1 now.2).host.ids.head = "item-3" := by decide +kernel
  have hseen : ∃ c ∈ ids, some "b" = some c := ⟨"b", by rw [hids]; decide, rfl⟩
  have hnew : ∀ c ∈ ids, some "c" ≠ some c := by
    rw [hids]
    decide
  obtain ⟨-, -, hprompts, -, -⟩ := prompts_are_shown_once "thread" 200 500 host promptedLife second
  obtain ⟨-, -, hothers, -, hpending⟩ :=
    prompts_are_shown_once "thread" 200 500 host promptedLife third
  have hshown := (hothers [] "three" (some "c") [] hthird).2 (by
    rw [List.append_nil]
    exact hnew)
  rw [← hfresh]
  refine ⟨hsecond, hseen, ?_, hthird, hnew, hshown.1, by decide +kernel, hshown.2.1, hpending⟩
  refine (hprompts [] "two" (some "b") [] hsecond).1 ?_
  rw [List.append_nil]
  exact hseen

end ThreadSession

end AgentFeed
