import AgentFeed.Proofs.LiveTail
import AgentFeed.Proofs.Stretch
import AgentFeed.Registry
import AgentFeed.Transcript.Memory

/-!
# What opening a thread shows

A thread that is opened is a replay into a live feed, with the state of the replay thrown away. So
what it shows follows from what a live feed is: the end of the plain feed that gets the same
payloads, at every point of the run and for every bound. Nothing has to be known about ids for this,
not even that they do not repeat.
-/

namespace AgentFeed

namespace Registry

variable {σ : Type} [TranscriptStore σ]

/-- What opening a thread does that is not open and whose transcript can be read. -/
theorem openThread_eq {r : Registry σ} {threadId : String} {entries : List TranscriptEntry}
    (hclosed : r.get? threadId = none)
    (hread : TranscriptStore.read r.store threadId = .ok entries) :
    r.openThread threadId =
      let opened :=
        (ThreadSession.start threadId r.previewLimit r.maxItems).restore r.host entries
      (.ok opened.1, { r with host := opened.2 }.putSession opened.1) := by
  rw [openThread, hclosed]
  dsimp only
  rw [hread]

omit [TranscriptStore σ] in
theorem get?_putSession (r : Registry σ) (s : ThreadSession) :
    (r.putSession s).get? s.threadId = some s :=
  Table.get?_insert_self r.sessions s.threadId s

end Registry

/-- Restoring a new session is replaying into a feed of which the session shows the end. -/
theorem ThreadSession.isTailOf_restore_start (threadId : String) (previewLimit bound : Nat)
    (host : Host) (entries : List TranscriptEntry) :
    let opened := (start threadId previewLimit bound).restore host entries
    let d := replay previewLimit host (TranscriptEntry.payloads entries)
    (opened.1.delivery opened.2).IsTailOf bound { d with state := .empty } := by
  intro opened d
  have htail := (Delivery.isTailOf_start bound none { previewLimit } .empty host).deliverAll
    (TranscriptEntry.payloads entries)
  exact { htail with state := rfl }

/-- **The live feed is the end of the plain feed.** Two threads that start with the same state, ids
and times and get the same payloads, one with a live feed and one with a plain feed: after every
payload the live feed holds the last items of the plain one, as many as its bound allows, and the
two remember the same, have drawn the same ids and times and announced the same calls.

Hence a thread that is not open and whose transcript can be read is opened with the last items of
the replay of its transcript, with nothing remembered and nothing pending. -/
theorem Registry.opened_feed_is_end_of_replay {σ : Type} [TranscriptStore σ] (bound : Nat)
    (outbox : Option (List FeedChange)) (dispatcher : Dispatcher) (state : Accumulation)
    (host : Host) (payloads : List Json) (r : Registry σ) (threadId : String)
    (entries : List TranscriptEntry) (hclosed : r.get? threadId = none)
    (hread : TranscriptStore.read r.store threadId = .ok entries) :
    (∀ n,
      let live : Delivery LiveFeed :=
        Delivery.deliverAll { dispatcher, state, sink := { bound, outbox }, host } (payloads.take n)
      let plain : Delivery Feed :=
        Delivery.deliverAll { dispatcher, state, sink := .empty, host } (payloads.take n)
      live.sink.items = Feed.lastItems bound plain.sink.items ∧ live.state = plain.state ∧
        live.host = plain.host) ∧
    ∃ s r', r.openThread threadId = (.ok s, r') ∧ r'.get? threadId = some s ∧
      let replayed := replay r.previewLimit r.host (TranscriptEntry.payloads entries)
      s.feed.items = Feed.lastItems r.maxItems replayed.sink.items ∧ s.state = .empty ∧
        s.pending = [] ∧ r'.host = replayed.host := by
  refine ⟨fun n => ?_, ?_⟩
  · intro live plain
    have htail : live.IsTailOf bound plain :=
      (Delivery.isTailOf_start bound outbox dispatcher state host).deliverAll (payloads.take n)
    exact ⟨htail.feed.items_eq, htail.state, htail.host⟩
  · have htail :=
      ThreadSession.isTailOf_restore_start threadId r.previewLimit r.maxItems r.host entries
    refine ⟨_, _, r.openThread_eq hclosed hread, get?_putSession _ _, ?_, rfl, rfl, htail.host⟩
    exact htail.feed.items_eq

/-- A text that is continued after a line of a log. -/
def Registry.sampleTranscript : List TranscriptEntry :=
  [⟨"time-1", "thread", .server,
      Traffic.chunkPayload "t" "text-delta" [("text", .string "Hel")]⟩,
    ⟨"time-2", "thread", .server, Traffic.logPayload "cloned"⟩,
    ⟨"time-3", "thread", .server,
      Traffic.chunkPayload "t" "text-delta" [("text", .string "lo")]⟩]

/-- With room for one item the sample opens with the line of the log alone, although its last
payload is about the text. -/
theorem Registry.opened_feed_is_end_of_replay_sample :
    let host : Host := { ids := .numbered "item", clock := .numbered "time" }
    let r : Registry MemoryStore :=
      { store := { transcripts := [("thread", sampleTranscript)] }, maxItems := 1, host }
    let replayed := replay 200 host (TranscriptEntry.payloads sampleTranscript)
    r.get? "thread" = none ∧
      TranscriptStore.read r.store "thread" = .ok sampleTranscript ∧
      replayed.sink.items.map (·.text?) = [some "Hello", none] ∧
      ∃ s r', r.openThread "thread" = (.ok s, r') ∧
        s.feed.items = Feed.lastItems 1 replayed.sink.items ∧
        (Feed.lastItems 1 replayed.sink.items).map (·.id) = ["item-2"] ∧ s.state = .empty := by
  intro host r replayed
  have hread : TranscriptStore.read r.store "thread" = .ok sampleTranscript := by rfl
  obtain ⟨-, s, r', hopen, -, hitems, hstate, -, -⟩ :=
    opened_feed_is_end_of_replay 1 none {} .empty host [] r "thread" sampleTranscript rfl hread
  exact ⟨rfl, hread, by decide +kernel, s, r', hopen, hitems, by decide +kernel, hstate⟩

end AgentFeed
