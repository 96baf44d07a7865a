import AgentFeed.Proofs.LiveTail
import AgentFeed.Proofs.SessionRun
import AgentFeed.Proofs.Stretch
import AgentFeed.Proofs.Twins

/-!
# Live processing and replay agree

A session shows the traffic as it comes, and a transcript of that traffic can be replayed later. The
two draw ids at different moments, since a prompt takes an id of its own and is replayed with the
one it got; the live feed is cut, the other is not; and messages for another server session are not
recorded. None of this shows: what was recorded since a thread was opened replays to what its feed
showed.

`Mirrors` ties a session to a thread with a plain feed at the same place, and that thread to its
replay. An event keeps the tie (`Mirrors.step`), as long as the run is orderly: no prompt is
refused, as it would be shown and not recorded, and a session is attached only where nothing is
remembered that a replay would go on remembering.
-/

namespace AgentFeed

/-! ## 1. Messages, states and hosts -/

/-- The payload of a prompt is decoded to the prompt. -/
theorem WireMessage.decode_userPayload (text id : String) (sessionId : Option String) :
    decode (userPayload text id sessionId) = .userMessage text (some id) := by
  cases sessionId with
  | none => rfl
  | some sessionId => rfl

theorem Accumulation.eq_empty_of_isEmpty {s : Accumulation} (h : s.isEmpty = true) :
    s = .empty := by
  obtain ⟨_, _, _, _, _, _, _, _, _, _, _⟩ := s
  simp only [isEmpty, Bool.and_eq_true, List.isEmpty_iff, Option.isNone_iff_eq_none] at h
  obtain ⟨⟨⟨⟨⟨⟨⟨⟨⟨⟨rfl, rfl⟩, rfl⟩, rfl⟩, rfl⟩, rfl⟩, rfl⟩, rfl⟩, rfl⟩, rfl⟩, rfl⟩ := h
  rfl

/-- A host from which ids and times may have been drawn since, and to which calls may have been
announced. -/
structure Host.Ahead (h h' : Host) : Prop where
  /-- The ids come from the same sequence. -/
  nth : h'.ids.nth = h.ids.nth
  /-- Ids may have been taken. -/
  taken : h.ids.taken ≤ h'.ids.taken

namespace Host.Ahead

variable {h h' h'' : Host}

theorem refl (h : Host) : h.Ahead h :=
  ⟨rfl, Nat.le_refl _⟩

theorem trans (hfirst : h.Ahead h') (hsecond : h'.Ahead h'') : h.Ahead h'' :=
  ⟨hsecond.nth.trans hfirst.nth, hfirst.taken.trans hsecond.taken⟩

theorem neverRepeats (hahead : h.Ahead h') (hids : h.ids.NeverRepeats) :
    h'.ids.NeverRepeats := by
  intro i j heq
  rw [hahead.nth] at heq
  exact hids i j heq

end Host.Ahead

/-- A host from which nothing but ids and times was drawn. -/
structure Host.Drawn (h h' : Host) : Prop extends Host.Ahead h h' where
  /-- Nothing was announced. -/
  announced : h'.announced = h.announced

namespace SessionEvent

variable (s : ThreadSession) (h : Host) (e : SessionEvent)

theorem drawn_spec : h.Drawn (e.drawn h) := by
  cases e with
  | attach sessionId => exact ⟨.refl h, rfl⟩
  | receive payload => exact ⟨⟨rfl, Nat.le_refl _⟩, rfl⟩
  | send accepted text clientMessageId =>
    cases clientMessageId with
    | none => exact ⟨⟨rfl, Nat.le_succ _⟩, rfl⟩
    | some id => exact ⟨⟨rfl, Nat.le_refl _⟩, rfl⟩

/-- An event attaches the session, or does nothing, or shows a message after ids and times were
drawn for it. -/
theorem step_cases :
    (∃ sessionId, e.step s h = (s.attach sessionId, h)) ∨ e.step s h = (s, h) ∨
      ∃ drawn m, h.Drawn drawn ∧
        (e.step s h).1.delivery (e.step s h).2 = (s.delivery drawn).message m := by
  cases hshown : e.shown? s h with
  | none =>
    rcases e.step_of_not_shown s h hshown with ⟨sessionId, rfl⟩ | ⟨hstep, -⟩
    · exact .inl ⟨sessionId, rfl⟩
    · exact .inr (.inl hstep)
  | some m =>
    refine .inr (.inr ⟨e.drawn h, m, e.drawn_spec h, ?_⟩)
    rw [e.step_of_shown s h hshown]
    rfl

end SessionEvent

namespace Delivery

theorem Coherent.withHost {d : Delivery Feed} (h : d.Coherent) {host : Host}
    (hahead : d.host.Ahead host) : Coherent { d with host } where
  neverRepeats := hahead.neverRepeats h.neverRepeats
  issued := by
    intro id hid
    obtain ⟨i, hi, hnth⟩ := h.issued id hid
    exact ⟨i, Nat.lt_of_lt_of_le hi hahead.taken, by rw [hahead.nth, hnth]⟩
  distinct := h.distinct
  held_nodup := h.held_nodup
  held_owner := h.held_owner
  held_fits := h.held_fits

theorem Twin.withHost {ρ : String → String} {before before' : List ToolSettled}
    {d e : Delivery Feed} (h : Twin ρ before before' d e) {host : Host}
    (hdrawn : d.host.Drawn host) : Twin ρ before before' { d with host } e where
  dispatcher := h.dispatcher
  state := h.state
  feed := h.feed
  announced := by
    obtain ⟨ended, hd, he⟩ := h.announced
    exact ⟨ended, hdrawn.announced.trans hd, he⟩

end Delivery

/-! ## 2. Orderly runs -/

/-- Whether a session and the replay of its traffic can both take note of an event. -/
def SessionEvent.isOrderly (s : ThreadSession) : SessionEvent → Bool
  | .attach _ => s.state.isEmpty
  | .receive _ => true
  | .send accepted _ _ => accepted

namespace ThreadSession

/-- Whether all events of a run are orderly when they come. -/
def isOrderly (s : ThreadSession) (h : Host) : List SessionEvent → Bool
  | [] => true
  | e :: rest => e.isOrderly s && (e.step s h).1.isOrderly (e.step s h).2 rest

theorem isOrderly_concat (s : ThreadSession) (h : Host) (events : List SessionEvent)
    (e : SessionEvent) :
    s.isOrderly h (events ++ [e]) = (s.isOrderly h events && e.isOrderly (s.run h events).1) := by
  induction events generalizing s h with
  | nil =>
    rw [List.nil_append, isOrderly, isOrderly, isOrderly, Bool.and_true, Bool.true_and]
    rfl
  | cons first rest ih =>
    rw [List.cons_append, isOrderly, isOrderly, ih, Bool.and_assoc]
    rfl

/-! ## 3. Sessions and their replay -/

/-- The replay of the traffic that a session has recorded. -/
def replayed (s : ThreadSession) (previewLimit : Nat) (host : Host) : Delivery Feed :=
  replay previewLimit host (TranscriptEntry.payloads s.pending)

/-- A session is a thread with a plain feed seen through a window, and that thread is a twin of the
replay, whatever renaming takes its items to those of the replay. -/
structure Mirrors (previewLimit bound : Nat) (before : List ToolSettled) (host' : Host)
    (s : ThreadSession) (h : Host) (d : Delivery Feed) : Prop where
  /-- The session shows the end of the plain feed. -/
  tail : (s.delivery h).IsTailOf bound d
  /-- The plain feed and the state agree. -/
  coherent : d.Coherent
  /-- Replaying the recorded traffic gives the same. -/
  twin : ∀ ρ : Equiv.Perm String,
    (∀ n id, d.sink.ids[n]? = some id → ρ id = host'.ids.nth (host'.ids.taken + n)) →
      Delivery.Twin ρ before host'.announced d (s.replayed previewLimit host')

namespace Mirrors

variable {previewLimit bound : Nat} {before : List ToolSettled} {host' : Host} {s : ThreadSession}
  {h : Host} {d : Delivery Feed}

theorem start (threadId : String) (previewLimit bound : Nat) {host host' : Host}
    (hids : host.ids.NeverRepeats) :
    Mirrors previewLimit bound host.announced host'
      (ThreadSession.start threadId previewLimit bound) host
      { dispatcher := { previewLimit }, state := .empty, sink := Feed.empty, host } where
  tail := Delivery.isTailOf_start bound none _ .empty host
  coherent := Delivery.coherent_start _ hids
  twin ρ _ := Delivery.Twin.start ρ _ host host'

/-- Ids and times may be drawn from the host. -/
theorem later (hm : Mirrors previewLimit bound before host' s h d) {drawn : Host}
    (hdrawn : h.Drawn drawn) :
    Mirrors previewLimit bound before host' s drawn { d with host := drawn } := by
  have hd : d.host.Drawn drawn := hm.tail.host ▸ hdrawn
  exact
    { tail := { hm.tail with host := rfl }
      coherent := hm.coherent.withHost hd.toAhead
      twin := fun ρ hρ => (hm.twin ρ hρ).withHost hd }

/-- A session that shows a message and records its payload. -/
theorem message (hm : Mirrors previewLimit bound before host' s h d) {m : WireMessage}
    {entry : TranscriptEntry} (hdecode : WireMessage.decode entry.payload = m)
    {s' : ThreadSession} {h' : Host} (hsession : s'.delivery h' = (s.delivery h).message m)
    (hpending : s'.pending = s.pending ++ [entry]) :
    Mirrors previewLimit bound before host' s' h' (d.message m) := by
  refine ⟨?_, hm.coherent.message m, fun ρ hρ => ?_⟩
  · rw [hsession]
    exact hm.tail.message m
  · have htwin := hm.twin ρ fun n id hid => hρ n id (hm.coherent.ids_message m hid)
    have hreplayed :
        s'.replayed previewLimit host' = (s.replayed previewLimit host').message m := by
      rw [replayed, replayed, hpending, TranscriptEntry.payloads, List.map_append, replay,
        replayInto, ← hdecode]
      exact Delivery.deliverAll_concat _ _ entry.payload
    rw [hreplayed]
    refine htwin.message ρ.injective m fun id hid => ?_
    -- The replay has drawn an id for each of its items, and has as many as the plain feed.
    have hsize : (s.replayed previewLimit host').sink.size = d.sink.size := htwin.feed.size_eq
    have hhead := Delivery.head_replayInto { previewLimit } host'
      (TranscriptEntry.payloads s.pending)
    calc ρ id = host'.ids.nth (host'.ids.taken + d.sink.size) := hρ _ id hid
      _ = (s.replayed previewLimit host').host.ids.head := by
        rw [← hsize]
        exact hhead.symm

/-- **An orderly event keeps a session and its replay together.** -/
theorem step (hm : Mirrors previewLimit bound before host' s h d) {e : SessionEvent}
    (horderly : e.isOrderly s = true) :
    ∃ d', Mirrors previewLimit bound before host' (e.step s h).1 (e.step s h).2 d' := by
  cases e with
  | attach sessionId =>
    -- Nothing was remembered, so nothing is forgotten.
    have hempty : Accumulation.empty = s.state := (s.state.eq_empty_of_isEmpty horderly).symm
    exact ⟨d, { hm.tail with state := hempty.trans hm.tail.state }, hm.coherent, hm.twin⟩
  | receive payload =>
    rw [SessionEvent.step, ThreadSession.receive]
    by_cases hforeign : s.isForeign payload = true
    · rw [if_pos hforeign]
      exact ⟨d, hm⟩
    · rw [if_neg hforeign]
      have hdrawn : h.Drawn h.takeTime.2 := ⟨⟨rfl, Nat.le_refl _⟩, rfl⟩
      exact ⟨_, (hm.later hdrawn).message rfl rfl rfl⟩
  | send accepted text clientMessageId =>
    have haccepted : accepted = true := horderly
    subst haccepted
    -- Without an id of its own the prompt takes one, which the replay does not draw again.
    cases clientMessageId with
    | none =>
      have hdrawn : h.Drawn h.takeId.2.takeTime.2 := ⟨⟨rfl, Nat.le_succ _⟩, rfl⟩
      exact ⟨_, (hm.later hdrawn).message (WireMessage.decode_userPayload _ _ _) rfl rfl⟩
    | some id =>
      have hdrawn : h.Drawn h.takeTime.2 := ⟨⟨rfl, Nat.le_refl _⟩, rfl⟩
      exact ⟨_, (hm.later hdrawn).message (WireMessage.decode_userPayload _ _ _) rfl rfl⟩

end Mirrors

/-- An orderly run keeps a session and its replay together. -/
theorem mirrors_run (threadId : String) (previewLimit bound : Nat) (host host' : Host)
    (hids : host.ids.NeverRepeats) {events : List SessionEvent}
    (horderly : (start threadId previewLimit bound).isOrderly host events = true) :
    ∃ d, Mirrors previewLimit bound host.announced host'
      ((start threadId previewLimit bound).run host events).1
      ((start threadId previewLimit bound).run host events).2 d := by
  induction events using List.reverseRecOn with
  | nil => exact ⟨_, Mirrors.start threadId previewLimit bound hids⟩
  | append_singleton events e ih =>
    rw [isOrderly_concat, Bool.and_eq_true] at horderly
    obtain ⟨d, hm⟩ := ih horderly.1
    rw [run_concat]
    exact hm.step horderly.2

/-! ## 4. Every run -/

/-- **Live processing and replay agree.** Whatever happens to a thread from its opening on, as long
as the run is orderly and no source of ids repeats one: replaying the recorded traffic gives a feed
whose last items, as many as the live feed keeps, have the bodies of the live feed; and there is one
renaming of ids that takes the items of the live feed to them, and the calls announced live to those
announced by the replay. -/
theorem live_feed_agrees_with_replay (threadId : String) (previewLimit bound : Nat)
    (host host' : Host) (hids : host.ids.NeverRepeats) (hids' : host'.ids.NeverRepeats)
    (events : List SessionEvent)
    (horderly : (start threadId previewLimit bound).isOrderly host events = true) :
    let live := (start threadId previewLimit bound).run host events
    let replayed := replay previewLimit host' (TranscriptEntry.payloads live.1.pending)
    let shown := Feed.lastItems bound replayed.sink.items
    shown.map (·.body) = live.1.feed.items.map (·.body) ∧
      ∃ (ρ : Equiv.Perm String) (ended : List ToolSettled),
        shown.map (·.id) = live.1.feed.items.map (ρ ·.id) ∧
          live.2.announced = host.announced ++ ended ∧
          replayed.host.announced = host'.announced ++ ended.map (ToolSettled.rename ρ) := by
  intro live replayed shown
  obtain ⟨d, htail, hcoherent, htwin⟩ :=
    mirrors_run threadId previewLimit bound host host' hids horderly
  obtain ⟨ρ, hρ⟩ := hids'.exists_renaming hcoherent.distinct
  obtain ⟨-, -, hfeed, ended, hlive, hreplayed⟩ := htwin ρ hρ
  obtain ⟨hbodies, hnames⟩ := hfeed.items_eq
  have hitems : live.1.feed.items = Feed.lastItems bound d.sink.items := htail.feed.items_eq
  refine ⟨?_, ρ, ended, ?_, ?_, hreplayed⟩
  · rw [hitems]
    exact Feed.map_lastItems_congr hbodies bound
  · rw [hitems]
    exact Feed.map_lastItems_congr hnames bound
  · rw [← hlive, ← htail.host]
    rfl

/-- A prompt, and a turn that answers it with a tool call and some text; a line of another server
session comes in between. -/
def sampleEvents : List SessionEvent :=
  [.attach "here", .send true "Look it up" none,
    .receive (Traffic.chunkPayload "t" "start" []),
    .receive (Traffic.chunkPayload "t" "tool-input-delta"
      [("toolCallId", .string "k"), ("delta", .string "1")]),
    .receive (Json.ofMembers
      [("type", .string "log"), ("line", .string "Hello"), ("sessionId", .string "elsewhere")]),
    .receive (Traffic.chunkPayload "t" "tool-result"
      [("toolCallId", .string "k"), ("toolName", .string "grep"), ("output", .bool true)]),
    .receive (Traffic.chunkPayload "t" "text-delta" [("text", .string "Done")])]

/-- In the sample the prompt takes an id of its own, so the call is the third id live and the second
in the replay; the live feed has dropped the prompt. -/
theorem live_feed_agrees_with_replay_sample :
    let host : Host := { ids := .numbered "live", clock := .constant "now" }
    let host' : Host := { ids := .numbered "item", clock := .constant "later" }
    let live := (start "thread" 200 2).run host sampleEvents
    let replayed := replay 200 host' (TranscriptEntry.payloads live.1.pending)
    host.ids.NeverRepeats ∧ host'.ids.NeverRepeats ∧
      (start "thread" 200 2).isOrderly host sampleEvents = true ∧
      live.1.feed.items.length = 2 ∧ replayed.sink.items.length = 3 ∧
      (Feed.lastItems 2 replayed.sink.items).map (·.body) = live.1.feed.items.map (·.body) ∧
      ∃ ρ : Equiv.Perm String,
        (Feed.lastItems 2 replayed.sink.items).map (·.id) = live.1.feed.items.map (ρ ·.id) ∧
          ρ "live-3" = "item-2" := by
  intro host host' live replayed
  have horderly : (start "thread" 200 2).isOrderly host sampleEvents = true := by decide +kernel
  have hlive : live.2.announced = [⟨"k", "grep", "live-3", .done⟩] := by decide +kernel
  have hreplayed : replayed.host.announced = [⟨"k", "grep", "item-2", .done⟩] := by decide +kernel
  obtain ⟨hbodies, ρ, ended, hids, hended, hrenamed⟩ :=
    live_feed_agrees_with_replay "thread" 200 2 host host' (Supply.numbered_neverRepeats "live")
      (Supply.numbered_neverRepeats "item") sampleEvents horderly
  refine ⟨Supply.numbered_neverRepeats "live", Supply.numbered_neverRepeats "item", horderly,
    by decide +kernel, by decide +kernel, hbodies, ρ, hids, ?_⟩
  have hone : ended = [⟨"k", "grep", "live-3", .done⟩] := hended.symm.trans hlive
  rw [hone] at hrenamed
  have hcalls := hrenamed.symm.trans hreplayed
  simpa [host', ToolSettled.rename] using hcalls

end ThreadSession

end AgentFeed
