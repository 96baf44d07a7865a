import AgentFeed.Proofs.LiveReplay
import AgentFeed.Proofs.OlderItems

/-!
# Items outlive a reset

When a session forgets what it remembered, the items in its feed are finished: nothing that arrives
later changes them, even if it uses the same turns, streams, tool keys or tool names again. They can
only be dropped from the old end, as far as newer items take their room.

The reason is that from a reset on a session builds on the feed it has as on a base
(`ThreadSession.BuildsOn`): it is a thread that started with an empty feed, shown behind the base.
Every event keeps this, a restore included, and every reset begins a new base.

How much room a session has for items decides what is dropped, and nothing else. So the base and the
items behind it are told once for sessions with any room, and those of the session that drops nothing
say what the items are (`ThreadSession.Outlives`).
-/

namespace AgentFeed

/-! ## 1. The life of a session -/

/-- What happens to a session, being rebuilt from a transcript included. -/
inductive LifeEvent where
  /-- The feed is rebuilt from a transcript. -/
  | restore (entries : List TranscriptEntry)
  /-- Something happens to the open thread. -/
  | event (e : SessionEvent)

namespace LifeEvent

/-- The session and the host after an event. -/
def step (s : ThreadSession) (h : Host) : LifeEvent → ThreadSession × Host
  | .restore entries => s.restore h entries
  | .event e => e.step s h

/-- Whether a session forgets what it remembered: it was rebuilt or attached, or it accepted a
message that resets. -/
def resets (s : ThreadSession) : LifeEvent → Bool
  | .restore _ => true
  | .event (.attach _) => true
  | .event (.receive payload) => !s.isForeign payload && Traffic.resets payload
  | .event (.send _ _ _) => false

theorem state_of_resets {s : ThreadSession} {e : LifeEvent} (hreset : e.resets s = true)
    (h : Host) : (e.step s h).1.state = .empty := by
  match e with
  | .restore entries => rfl
  | .event (.attach sessionId) => rfl
  | .event (.receive payload) =>
    rw [resets, Bool.and_eq_true, Bool.not_eq_true'] at hreset
    rw [step, SessionEvent.step, ThreadSession.receive, if_neg (by simp [hreset.1])]
    exact Delivery.state_payload_of_resets _ hreset.2

end LifeEvent

namespace ThreadSession

/-- The session and the host after a sequence of events. -/
def life (s : ThreadSession) (h : Host) (events : List LifeEvent) : ThreadSession × Host :=
  events.foldl (fun now e => e.step now.1 now.2) (s, h)

theorem life_append (s : ThreadSession) (h : Host) (first second : List LifeEvent) :
    s.life h (first ++ second) = (s.life h first).1.life (s.life h first).2 second :=
  List.foldl_append

/-- A restore can be interrupted where it resets, and be gone on with. -/
theorem restore_append (s : ThreadSession) (h : Host) (first rest : List TranscriptEntry)
    {boundary : TranscriptEntry} (hreset : Traffic.resets boundary.payload = true) :
    s.restore h (first ++ boundary :: rest)
      = (s.restore h (first ++ [boundary])).1.restore
          (s.restore h (first ++ [boundary])).2 rest := by
  let d := replayInto s.dispatcher s.feed h (TranscriptEntry.payloads (first ++ [boundary]))
  have hstate : d.state = .empty := by
    simp only [d, replayInto, TranscriptEntry.payloads, List.map_append, List.map_cons,
      List.map_nil, Delivery.deliverAll_concat]
    exact Delivery.state_payload_of_resets _ hreset
  -- The second restore starts with nothing remembered, just as the first has left off.
  have hrest : replayInto d.dispatcher d.sink d.host (TranscriptEntry.payloads rest)
      = d.deliverAll (TranscriptEntry.payloads rest) := by
    rw [replayInto, ← hstate]
  have hall : replayInto s.dispatcher s.feed h
      (TranscriptEntry.payloads (first ++ boundary :: rest))
        = d.deliverAll (TranscriptEntry.payloads rest) := by
    simp only [d, replayInto]
    rw [← Delivery.deliverAll_append, TranscriptEntry.payloads, TranscriptEntry.payloads,
      TranscriptEntry.payloads, ← List.map_append, List.append_assoc]
    rfl
  calc s.restore h (first ++ boundary :: rest)
      = ({ s with
            dispatcher := (d.deliverAll (TranscriptEntry.payloads rest)).dispatcher
            state := .empty
            feed := (d.deliverAll (TranscriptEntry.payloads rest)).sink },
          (d.deliverAll (TranscriptEntry.payloads rest)).host) := by
        rw [restore, hall]
    _ = (s.restore h (first ++ [boundary])).1.restore
          (s.restore h (first ++ [boundary])).2 rest := by
        rw [← hrest]
        rfl

theorem life_restore_append (s : ThreadSession) (h : Host) (first rest : List TranscriptEntry)
    {boundary : TranscriptEntry} (hreset : Traffic.resets boundary.payload = true)
    (after : List LifeEvent) :
    s.life h (.restore (first ++ boundary :: rest) :: after)
      = s.life h (.restore (first ++ [boundary]) :: .restore rest :: after) := by
  simp only [life, List.foldl_cons, LifeEvent.step, s.restore_append h first rest hreset]

/-! ## 2. Sessions on a base -/

/-- Sessions that differ in nothing but their room, with their hosts. The feed of each is the end of
a base and of what a thread, starting with an empty feed, has shown since. -/
structure BuildsOn (base : Feed) (s : Nat → ThreadSession) (h : Nat → Host) (d : Delivery Feed) :
    Prop where
  /-- Each session shows the end of both, as much as it has room for. -/
  tail : ∀ room, ((s room).delivery (h room)).IsTailOf room (d.onto base)
  /-- All are attached to the same server session. -/
  attached : ∀ room, (s room).sessionId = (s 0).sessionId
  /-- The state is an index of what was shown since. -/
  coherent : d.Coherent

namespace BuildsOn

variable {base : Feed} {s : Nat → ThreadSession} {h : Nat → Host} {d : Delivery Feed}

theorem start (threadId : String) (previewLimit : Nat) {host : Host}
    (hids : host.ids.NeverRepeats) :
    BuildsOn .empty (ThreadSession.start threadId previewLimit) (fun _ => host)
      { dispatcher := { previewLimit }, state := .empty, sink := .empty, host } where
  tail room := Delivery.isTailOf_start room none _ .empty host
  attached _ := rfl
  coherent := Delivery.coherent_start _ hids

theorem host_eq (hb : BuildsOn base s h d) (room : Nat) : h room = d.host :=
  (hb.tail room).host

/-- What a session shows is the end of the base and of newer items. -/
theorem items_eq (hb : BuildsOn base s h d) (room : Nat) :
    (s room).feed.items = Feed.lastItems room (base.items ++ d.sink.items) := by
  rw [← Feed.items_onto]
  exact (hb.tail room).feed.items_eq

/-- Sessions that remember nothing build on the feed they have. -/
theorem renew (hb : BuildsOn base s h d) (hstate : d.state = .empty) :
    BuildsOn (d.onto base).sink s h { d with sink := .empty } where
  tail := hb.tail
  attached := hb.attached
  coherent := by
    rw [hstate]
    exact Delivery.coherent_start _ hb.coherent.neverRepeats

/-- Ids and times may be drawn from the hosts. -/
theorem later (hb : BuildsOn base s h d) {drawn : Host} (hdrawn : d.host.Drawn drawn) :
    BuildsOn base s (fun _ => drawn) { d with host := drawn } where
  tail room := { hb.tail room with host := rfl }
  attached := hb.attached
  coherent := hb.coherent.withHost hdrawn.toAhead

theorem message (hb : BuildsOn base s h d) (m : WireMessage) {s' : Nat → ThreadSession}
    {h' : Nat → Host}
    (hsession : ∀ room, (s' room).delivery (h' room) = ((s room).delivery (h room)).message m)
    (hattached : ∀ room, (s' room).sessionId = (s room).sessionId) :
    BuildsOn base s' h' (d.message m) where
  tail room := by
    rw [hsession, ← hb.coherent.message_onto]
    exact (hb.tail room).message m
  attached room := by rw [hattached, hattached, hb.attached]
  coherent := hb.coherent.message m

theorem attach (hb : BuildsOn base s h d) (sessionId : String) :
    BuildsOn base (fun room => (s room).attach sessionId) h { d with state := .empty } where
  tail room := { hb.tail room with state := rfl }
  attached _ := rfl
  coherent := hb.coherent.forgetAll

theorem restore (hb : BuildsOn base s h d) (entries : List TranscriptEntry) :
    ∃ d', BuildsOn base (fun room => ((s room).restore (h room) entries).1)
      (fun room => ((s room).restore (h room) entries).2) d' := by
  have hcoherent := hb.coherent.forgetAll
  let d' := Delivery.deliverAll { d with state := .empty } (TranscriptEntry.payloads entries)
  refine ⟨{ d' with state := .empty }, fun room => ?_, hb.attached,
    (hcoherent.deliverAll (TranscriptEntry.payloads entries)).forgetAll⟩
  -- The replay starts with nothing remembered, so the base does not notice it.
  have hstart : Delivery.IsTailOf room
      { dispatcher := (s room).dispatcher, state := .empty, sink := (s room).feed, host := h room }
      (Delivery.onto { d with state := .empty } base) := { hb.tail room with state := rfl }
  have htail := hstart.deliverAll (TranscriptEntry.payloads entries)
  rw [hcoherent.deliverAll_onto] at htail
  exact { htail with state := rfl }

/-- What is shown on an event does not depend on the room. -/
theorem shown?_eq (hb : BuildsOn base s h d) (e : SessionEvent) (room : Nat) :
    e.shown? (s room) (h room) = e.shown? (s 0) d.host := by
  cases e with
  | attach sessionId => rfl
  | receive payload =>
    rw [SessionEvent.shown?, SessionEvent.shown?, isForeign, isForeign, hb.attached room]
  | send accepted text clientMessageId =>
    rw [SessionEvent.shown?, SessionEvent.shown?, hb.host_eq room]

/-- **Every event keeps sessions on their base.** They all show the same message or none, so one
thread goes on for all of them. -/
theorem step (hb : BuildsOn base s h d) (e : LifeEvent) :
    ∃ d', BuildsOn base (fun room => (e.step (s room) (h room)).1)
      (fun room => (e.step (s room) (h room)).2) d' := by
  cases e with
  | restore entries => exact hb.restore entries
  | event e =>
    simp only [LifeEvent.step]
    cases hshown : e.shown? (s 0) d.host with
    | some m =>
      have hstep room := e.step_of_shown (s room) (h room) ((hb.shown?_eq e room).trans hshown)
      refine ⟨_, (hb.later (e.drawn_spec d.host)).message m (fun room => ?_) fun room => ?_⟩
      · rw [hstep room, hb.host_eq room]
        rfl
      · rw [hstep room]
        rfl
    | none =>
      have hstep room := e.step_of_not_shown (s room) (h room) ((hb.shown?_eq e room).trans hshown)
      by_cases hattach : ∃ sessionId, e = .attach sessionId
      · obtain ⟨sessionId, rfl⟩ := hattach
        exact ⟨_, hb.attach sessionId⟩
      · -- A message for another server session, of which there is no trace.
        refine ⟨d, ?_⟩
        simp only [((hstep _).resolve_left hattach).1]
        exact hb

theorem life (hb : BuildsOn base s h d) (events : List LifeEvent) :
    ∃ d', BuildsOn base (fun room => ((s room).life (h room) events).1)
      (fun room => ((s room).life (h room) events).2) d' := by
  induction events generalizing s h d with
  | nil => exact ⟨d, hb⟩
  | cons e rest ih =>
    obtain ⟨d', hnext⟩ := hb.step e
    exact ih hnext

/-- Sessions without anything older show no id twice. -/
theorem distinct (hb : BuildsOn .empty s h d) : ((s 0).feed.items.map (·.id)).Nodup := by
  rw [hb.items_eq 0]
  exact hb.coherent.distinct

end BuildsOn

/-! ## 3. Every life -/

/-- The items shown at one point are left alone up to a later point, with any room for items. -/
structure Outlives (shown later : Nat → List FeedItem) (newer : List FeedItem) : Prop where
  /-- Newer items come behind, the same whatever the room, and room for them is made at the old end.
  With a room of zero nothing is dropped, so the newer items are those that come behind there. -/
  items_eq : ∀ room, later room = Feed.lastItems room (shown room ++ newer)
  /-- No two of all these items have one id. -/
  distinct : ∀ room, ((shown room ++ newer).map (·.id)).Nodup
  /-- An item with the id of one that was shown is that one, as it was. -/
  unchanged : ∀ room, ∀ old ∈ shown room, ∀ item ∈ later room, item.id = old.id → item = old

/-- What sessions show of a feed is left alone when items with ids of their own come behind. -/
theorem outlives_of_lastItems {shown later : Nat → List FeedItem} {older newer : List FeedItem}
    (hshown : ∀ room, shown room = Feed.lastItems room older)
    (hlater : ∀ room, later room = Feed.lastItems room (older ++ newer))
    (hdistinct : ((older ++ newer).map (·.id)).Nodup) : Outlives shown later newer := by
  have hitems : ∀ room, later room = Feed.lastItems room (shown room ++ newer) := by
    intro room
    rw [hlater, hshown, Feed.lastItems_lastItems_append]
  have hnodup : ∀ room, ((shown room ++ newer).map (·.id)).Nodup := by
    intro room
    rw [hshown]
    have hpart : List.Sublist (Feed.lastItems room older ++ newer) (older ++ newer) :=
      (Feed.lastItems_sublist room older).append_right newer
    exact (hpart.map _).nodup hdistinct
  refine ⟨hitems, hnodup, ?_⟩
  intro room old hold item hitem hid
  rw [hitems] at hitem
  have hitem' : item ∈ shown room ++ newer := (Feed.lastItems_sublist room _).subset hitem
  exact List.inj_on_of_nodup_map (hnodup room) hitem' (List.mem_append_left newer hold) hid

/-- From a moment on at which nothing is remembered, what is shown then is left alone. -/
theorem BuildsOn.outlives {base : Feed} {s : Nat → ThreadSession} {h : Nat → Host}
    {d : Delivery Feed} (hb : BuildsOn base s h d) (hstate : d.state = .empty)
    (after : List LifeEvent)
    (hdistinct : (((s 0).life (h 0) after).1.feed.items.map (·.id)).Nodup) :
    ∃ newer, Outlives (fun room => (s room).feed.items)
      (fun room => ((s room).life (h room) after).1.feed.items) newer := by
  obtain ⟨d', hlater⟩ := (hb.renew hstate).life after
  have holder : (d.onto base).sink.items = base.items ++ d.sink.items := Feed.items_onto _ _
  refine ⟨d'.sink.items, outlives_of_lastItems (fun room => ?_) hlater.items_eq ?_⟩
  · rw [holder]
    exact hb.items_eq room
  · rw [hlater.items_eq 0] at hdistinct
    exact hdistinct

/-- What is shown right after an event that resets is left alone by all that comes later. -/
theorem exists_outlives (threadId : String) (previewLimit : Nat) {bound : Nat} {host : Host}
    (hids : host.ids.NeverRepeats) (before : List LifeEvent) {e : LifeEvent}
    (hreset : e.resets ((start threadId previewLimit bound).life host before).1 = true)
    (later : List LifeEvent) :
    ∃ newer, Outlives
      (fun room => ((start threadId previewLimit room).life host (before ++ [e])).1.feed.items)
      (fun room =>
        ((start threadId previewLimit room).life host (before ++ e :: later)).1.feed.items)
      newer := by
  have hstart := BuildsOn.start threadId previewLimit hids
  obtain ⟨d, hb⟩ := hstart.life (before ++ [e])
  have hforgot : ((start threadId previewLimit bound).life host (before ++ [e])).1.state
      = .empty := by
    rw [life_append]
    exact LifeEvent.state_of_resets hreset _
  have hstate : d.state = .empty := (hb.tail bound).state.symm.trans hforgot
  -- From the beginning to the end there is a single thread, so no id comes twice.
  obtain ⟨dlater, hall⟩ := hstart.life (before ++ e :: later)
  have hsplit : ∀ room, (start threadId previewLimit room).life host (before ++ e :: later)
      = ((start threadId previewLimit room).life host (before ++ [e])).1.life
          ((start threadId previewLimit room).life host (before ++ [e])).2 later := by
    intro room
    rw [List.append_cons, life_append]
  simp only [hsplit] at hall ⊢
  exact hb.outlives hstate later hall.distinct

/-- **Items outlive a reset.** Whatever happened to a session since it was new, and whatever happens
to it after an event that makes it forget what it remembered: the items shown right after that event
are left alone. The same holds of a reset in the middle of a restore. -/
theorem items_outlive_reset (threadId : String) (previewLimit bound : Nat) (host : Host)
    (hids : host.ids.NeverRepeats) (before after : List LifeEvent) :
    let session (events : List LifeEvent) (room : Nat) : ThreadSession :=
      ((start threadId previewLimit room).life host events).1
    let shown (events : List LifeEvent) (room : Nat) : List FeedItem :=
      (session events room).feed.items
    (∀ e : LifeEvent, e.resets (session before bound) = true →
      ∃ newer, Outlives (shown (before ++ [e])) (shown (before ++ e :: after)) newer) ∧
    ∀ (first : List TranscriptEntry) (boundary : TranscriptEntry) (rest : List TranscriptEntry),
      Traffic.resets boundary.payload = true →
      ∃ newer, Outlives (shown (before ++ [.restore (first ++ [boundary])]))
        (shown (before ++ .restore (first ++ boundary :: rest) :: after)) newer := by
  intro session shown
  refine ⟨fun e hreset => exists_outlives threadId previewLimit hids before hreset after, ?_⟩
  intro first boundary rest hreset
  -- A restore is interrupted at the reset: the end of its first part is such a moment.
  have hsplit : shown (before ++ .restore (first ++ boundary :: rest) :: after)
      = shown (before ++ .restore (first ++ [boundary]) :: .restore rest :: after) := by
    funext room
    simp only [shown, session]
    rw [life_append, life_restore_append _ _ first rest hreset, ← life_append]
  have hrestored :
      LifeEvent.resets (session before bound) (.restore (first ++ [boundary])) = true := rfl
  rw [hsplit]
  exact exists_outlives threadId previewLimit hids before hrestored (.restore rest :: after)

/-- A message about a call of `grep` in a turn `t`, with further fields. -/
def sampleCall (partType : String) (fields : List (String × Json)) : LifeEvent :=
  .event (.receive (Traffic.chunkPayload "t" partType
    ([("toolCallId", .string "k"), ("toolName", .string "grep")] ++ fields)))

/-- A call is under way when the session is attached anew. It stays as it was, and what ends it
under the same key is shown by an item of its own; with room for two items the line before is
dropped, and the call is not. -/
theorem items_outlive_reset_sample :
    let host : Host := { ids := .numbered "item", clock := .numbered "time" }
    let shown (events : List LifeEvent) (room : Nat) : List FeedItem :=
      ((start "thread" 200 room).life host events).1.feed.items
    let before : List LifeEvent :=
      [.event (.receive (Traffic.logPayload "cloned")), sampleCall "tool-call" []]
    let attached : LifeEvent := .event (.attach "here")
    let after : List LifeEvent := [sampleCall "tool-result" [("output", .bool true)]]
    host.ids.NeverRepeats ∧
      attached.resets ((start "thread" 200 2).life host before).1 = true ∧
      (shown (before ++ [attached]) 2).map (fun item => (item.id, item.render))
        = [("item-1", "[log] cloned"), ("item-2", "[tool:running] grep")] ∧
      (shown (before ++ attached :: after) 2).map (fun item => (item.id, item.render))
        = [("item-2", "[tool:running] grep"), ("item-3", "[tool:done] grep -> true")] ∧
      ∃ newer, newer.map (·.id) = ["item-3"] ∧
        Outlives (shown (before ++ [attached])) (shown (before ++ attached :: after)) newer := by
  intro host shown before attached after
  have hids : host.ids.NeverRepeats := Supply.numbered_neverRepeats "item"
  have hreset : attached.resets ((start "thread" 200 2).life host before).1 = true := rfl
  obtain ⟨newer, houtlive⟩ :=
    (items_outlive_reset "thread" 200 2 host hids before after).1 attached hreset
  -- With room for everything the newer items are those behind the first two.
  have hall : (shown (before ++ attached :: after) 0).map (·.id)
      = ["item-1", "item-2", "item-3"] := by decide +kernel
  have hold : (shown (before ++ [attached]) 0).map (·.id) = ["item-1", "item-2"] := by
    decide +kernel
  have hnewer : newer.map (·.id) = ["item-3"] := by
    have heq : shown (before ++ attached :: after) 0 = shown (before ++ [attached]) 0 ++ newer :=
      houtlive.items_eq 0
    rw [heq, List.map_append, hold] at hall
    exact List.append_cancel_left hall
  exact ⟨hids, hreset, by decide +kernel, by decide +kernel, newer, hnewer, houtlive⟩

end ThreadSession

end AgentFeed
