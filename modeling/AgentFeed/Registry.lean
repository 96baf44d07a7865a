import AgentFeed.Session
import AgentFeed.Transcript.Store

/-!
# The registry of open threads

A registry owns the sessions of the open threads and ties them to a transcript store.

* Opening a thread replays its transcript; a thread that is open stays as it is.
* Flushing writes the recorded traffic of all open threads in one batch. If the store fails, the
  entries of the threads it did not write go back to the front of their sessions.
* Closing a thread writes its traffic first, and leaves the thread open if that fails.
* Deleting a thread closes it without writing, and deletes its transcript.
-/

namespace AgentFeed

/-- The open threads and where their transcripts are kept. -/
structure Registry (σ : Type) where
  /-- The store. -/
  store : σ
  /-- How many items a feed keeps; zero for all. -/
  maxItems : Nat := 500
  /-- The length of previews. -/
  previewLimit : Nat := 200
  /-- The session of each open thread. -/
  sessions : Table String ThreadSession := []
  /-- Ids, times and announcements, shared by all threads. -/
  host : Host

namespace Registry

variable {σ : Type}

/-! ## 1. Looking -/

/-- The session of a thread, if it is open. -/
def get? (r : Registry σ) (threadId : String) : Option ThreadSession :=
  r.sessions.get? threadId

/-- How many threads are open. -/
def size (r : Registry σ) : Nat :=
  r.sessions.length

/-- Whether no thread is open. -/
def isEmpty (r : Registry σ) : Bool :=
  r.sessions.isEmpty

/-- The registry with the session of a thread. -/
def putSession (r : Registry σ) (s : ThreadSession) : Registry σ :=
  { r with sessions := r.sessions.insert s.threadId s }

/-- The recorded traffic of all open threads. -/
def allPending (r : Registry σ) : List TranscriptEntry :=
  r.sessions.flatMap fun (_, s) => s.pending

/-! ## 2. Messages of one thread -/

/-- An operation on the session of an open thread, with its answer; nothing when the thread is not
open. -/
def withSession {α : Type} (r : Registry σ) (threadId : String)
    (operation : ThreadSession → Host → α × ThreadSession × Host) : Option (α × Registry σ) :=
  (r.get? threadId).map fun s =>
    let (answer, s, host) := operation s r.host
    (answer, { r with sessions := r.sessions.insert threadId s, host })

variable [TranscriptStore σ]

/-! ## 3. Opening -/

/-- A thread is opened; its session, unless the transcript cannot be read. -/
def openThread (r : Registry σ) (threadId : String) :
    Except TranscriptError ThreadSession × Registry σ :=
  match r.get? threadId with
  | some s => (.ok s, r)
  | none =>
    match TranscriptStore.read r.store threadId with
    | .error e => (.error e, r)
    | .ok entries =>
      let (s, host) :=
        (ThreadSession.start threadId r.previewLimit r.maxItems).restore r.host entries
      (.ok s, { r with host }.putSession s)

/-! ## 4. Writing -/

/-- The recorded traffic is written; how many entries that were. -/
def flush (r : Registry σ) : Except TranscriptError Nat × Registry σ :=
  let batch := r.allPending
  if batch.isEmpty then (.ok 0, r)
  else
    -- Every session hands over its traffic, whether or not it will be written.
    let taken := r.sessions.mapValues fun s => s.takePending.2
    match TranscriptStore.append r.store batch with
    | (.ok (), store) => (.ok batch.length, { r with store, sessions := taken })
    | (.error e, store) =>
      -- What reached the store must not be written a second time.
      let kept := EntryBatch.without batch e.writtenThreads
      let sessions := taken.map fun (id, s) => (id, s.requeue (EntryBatch.ofThread kept id))
      (.error e, { r with store, sessions })

/-- A thread is closed after its traffic was written; its session, if it was open. -/
def teardown (r : Registry σ) (threadId : String) :
    Except TranscriptError (Option ThreadSession) × Registry σ :=
  match r.get? threadId with
  | none => (.ok none, r)
  | some s =>
    let (entries, closed) := s.takePending
    match TranscriptStore.append r.store entries with
    | (.ok (), store) => (.ok (some closed), { r with store, sessions := r.sessions.erase threadId })
    | (.error e, store) =>
      (.error e, { r with store, sessions := r.sessions.insert threadId (closed.requeue entries) })

/-- A thread is closed without writing, and its transcript deleted. -/
def delete (r : Registry σ) (threadId : String) : Except TranscriptError Unit × Registry σ :=
  let (result, store) := TranscriptStore.delete r.store threadId
  (result, { r with store, sessions := r.sessions.erase threadId })

end Registry

end AgentFeed
