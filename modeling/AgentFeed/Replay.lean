import AgentFeed.Dispatcher
import AgentFeed.Feed.List

/-!
# Delivering messages

`Delivery` is a thread at work: the dispatcher, the accumulation state, a feed and the host. One
message or update is delivered at a time. Replaying a transcript delivers its payloads in order to
a fresh state; `replay` shows them in a plain feed.

Main statement: `deliverAll_append`, delivering one list after another is delivering their
concatenation.
-/

namespace AgentFeed

/-- A thread at work. -/
structure Delivery (σ : Type) where
  /-- How messages are shown. -/
  dispatcher : Dispatcher
  /-- What is remembered. -/
  state : Accumulation
  /-- The feed. -/
  sink : σ
  /-- Ids, times and announcements. -/
  host : Host

namespace Delivery

variable {σ : Type} [FeedSink σ]

/-- The thread after a step that left a dispatcher behind. -/
def take (d : Delivery σ) (outcome : Dispatcher × Step) : Delivery σ :=
  let edited := FeedSink.edit d.sink d.host outcome.2.edit
  { dispatcher := outcome.1
    state := outcome.2.state
    sink := edited.1
    host := edited.2.announce outcome.2.settled }

/-- The thread after a message. -/
def message (d : Delivery σ) (m : WireMessage) : Delivery σ :=
  d.take (d.dispatcher.apply d.host.ids.head d.state m)

/-- The thread after a payload. -/
def payload (d : Delivery σ) (p : Json) : Delivery σ :=
  d.message (WireMessage.decode p)

/-- The thread after an update. -/
def update (d : Delivery σ) (u : StreamUpdate) : Delivery σ :=
  d.take (d.dispatcher, Reducer.reduce d.dispatcher.previewLimit d.host.ids.head d.state u)

/-- The thread after a list of payloads. -/
def deliverAll (d : Delivery σ) (payloads : List Json) : Delivery σ :=
  payloads.foldl payload d

@[simp] theorem deliverAll_nil (d : Delivery σ) : d.deliverAll [] = d := rfl

theorem deliverAll_append (d : Delivery σ) (first second : List Json) :
    d.deliverAll (first ++ second) = (d.deliverAll first).deliverAll second :=
  List.foldl_append

end Delivery

/-- The thread after payloads were replayed into a feed, starting with nothing remembered. -/
def replayInto {σ : Type} [FeedSink σ] (dispatcher : Dispatcher) (sink : σ) (host : Host)
    (payloads : List Json) : Delivery σ :=
  Delivery.deliverAll { dispatcher, state := .empty, sink, host } payloads

/-- The thread after payloads were replayed into an empty plain feed. -/
def replay (previewLimit : Nat) (host : Host) (payloads : List Json) : Delivery Feed :=
  replayInto { previewLimit } Feed.empty host payloads

end AgentFeed
