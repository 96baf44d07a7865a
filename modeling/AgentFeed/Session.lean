import AgentFeed.Feed.Live
import AgentFeed.Replay
import AgentFeed.Transcript.Entry

/-!
# Sessions

A session is everything an open thread owns: the server session it is attached to, the
accumulation state, the dispatcher, the live feed, and the traffic not yet written to its
transcript. Ids, times and announcements belong to the host, which every operation takes and gives
back.

* Attaching forgets what was remembered, even when the server session is the same.
* A message that names another server session than the attached one is dropped, and not recorded.
* A prompt is shown at once, and recorded when the transport accepts it.
* Restoring replays a transcript into the feed with a state of its own, and leaves the session with
  nothing remembered.
-/

namespace AgentFeed

/-- What an open thread owns. -/
structure ThreadSession where
  /-- The thread. -/
  threadId : String
  /-- The server session it is attached to. -/
  sessionId : Option String := none
  /-- What is remembered between two messages. -/
  state : Accumulation := .empty
  /-- How messages are shown. -/
  dispatcher : Dispatcher
  /-- The feed. -/
  feed : LiveFeed
  /-- Traffic not yet written to the transcript, oldest first. -/
  pending : List TranscriptEntry := []

namespace ThreadSession

/-- The session of a thread that was just opened. -/
def start (threadId : String) (previewLimit bound : Nat) : ThreadSession :=
  { threadId, dispatcher := { previewLimit }, feed := { bound } }

/-! ## 1. Messages -/

/-- The session as a thread at work. -/
def delivery (s : ThreadSession) (h : Host) : Delivery LiveFeed :=
  { dispatcher := s.dispatcher, state := s.state, sink := s.feed, host := h }

/-- The session after its thread has worked. -/
def afterDelivery (s : ThreadSession) (d : Delivery LiveFeed) : ThreadSession :=
  { s with dispatcher := d.dispatcher, state := d.state, feed := d.sink }

/-- The session with an entry recorded. -/
def record (s : ThreadSession) (e : TranscriptEntry) : ThreadSession :=
  { s with pending := s.pending ++ [e] }

/-- Whether a payload names another server session than the attached one. -/
def isForeign (s : ThreadSession) (payload : Json) : Bool :=
  match s.sessionId, WireMessage.sessionId? payload with
  | some attached, some named => attached ≠ named
  | _, _ => false

/-- A message from the server: whether it was accepted, and the session and host afterwards. -/
def receive (s : ThreadSession) (h : Host) (payload : Json) : Bool × ThreadSession × Host :=
  if s.isForeign payload then (false, s, h)
  else
    -- Recorded as it came, before anything is made of it.
    let (ts, h) := h.takeTime
    let s := s.record { ts, threadId := s.threadId, direction := .server, payload }
    let d := (s.delivery h).payload payload
    (true, s.afterDelivery d, d.host)

/-- Why a prompt was not sent. -/
inductive SendError where
  /-- The transport of the thread takes nothing. -/
  | notConnected (threadId : String)
deriving DecidableEq

/-- What is said about a prompt that was not sent. -/
def SendError.message : SendError → String
  | .notConnected threadId => "not connected: " ++ threadId

/-- A prompt that was handed to the transport. -/
structure SentPrompt where
  /-- The payload handed over. -/
  payload : Json
  /-- The client message id of the prompt, unless the transport refused it. -/
  outcome : Except SendError String

/-- A prompt of the user. It gets a fresh client message id unless it comes with one, and is recorded
if the transport accepts it. -/
def send (s : ThreadSession) (h : Host) (accepted : Bool) (text : String)
    (clientMessageId : Option String) : SentPrompt × ThreadSession × Host :=
  let (id, h) :=
    match clientMessageId with
    | some id => (id, h)
    | none => h.takeId
  let (ts, h) := h.takeTime
  let payload := WireMessage.userPayload text id s.sessionId
  -- Shown at once: the echo of the server will carry the same id and be skipped.
  let d := (s.delivery h).message (.userMessage text (some id))
  let s := s.afterDelivery d
  if accepted then
    ({ payload, outcome := .ok id },
      s.record { ts, threadId := s.threadId, direction := .client, payload }, d.host)
  else ({ payload, outcome := .error (.notConnected s.threadId) }, s, d.host)

/-! ## 2. The life of a session -/

/-- The session attached to a server session. -/
def attach (s : ThreadSession) (sessionId : String) : ThreadSession :=
  { s with sessionId := some sessionId, state := .empty }

/-- The session with its feed rebuilt from a transcript. -/
def restore (s : ThreadSession) (h : Host) (entries : List TranscriptEntry) :
    ThreadSession × Host :=
  let d := replayInto s.dispatcher s.feed h (TranscriptEntry.payloads entries)
  ({ s with dispatcher := d.dispatcher, state := .empty, feed := d.sink }, d.host)

/-- The traffic to be written, and the session without it. -/
def takePending (s : ThreadSession) : List TranscriptEntry × ThreadSession :=
  (s.pending, { s with pending := [] })

/-- The session with traffic that could not be written put back in front of anything newer. -/
def requeue (s : ThreadSession) (entries : List TranscriptEntry) : ThreadSession :=
  { s with pending := entries ++ s.pending }

/-- Whether there is traffic to be written. -/
def hasPending (s : ThreadSession) : Bool :=
  !s.pending.isEmpty

end ThreadSession

end AgentFeed
