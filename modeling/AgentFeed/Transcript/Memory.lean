import AgentFeed.Table
import AgentFeed.Transcript.Store

/-!
# A store in memory

Transcripts in a table, with a set of blocked threads that can be neither read nor written. A batch
goes on past a blocked thread: the entries of all other threads are written, and then the batch
fails.
-/

namespace AgentFeed

/-- Transcripts in memory. -/
structure MemoryStore where
  /-- The entries of each thread, oldest first. -/
  transcripts : Table String (List TranscriptEntry) := []
  /-- The threads that cannot be reached. -/
  blocked : List String := []

namespace MemoryStore

/-- The entries of a thread, blocked or not. -/
def entries (s : MemoryStore) (threadId : String) : List TranscriptEntry :=
  (s.transcripts.get? threadId).getD []

/-- The store with one more entry. -/
def add (s : MemoryStore) (e : TranscriptEntry) : MemoryStore :=
  { s with transcripts := s.transcripts.insert e.threadId (s.entries e.threadId ++ [e]) }

/-- The threads of a batch that are not blocked, in order of their names. -/
def reachable (s : MemoryStore) (batch : List TranscriptEntry) : List String :=
  Table.keys (Table.ofPairs (((EntryBatch.threads batch).filter fun t => !s.blocked.contains t).map
    fun t => (t, ())))

/-- A batch is appended, once all ids in it are found to be valid. -/
def append (s : MemoryStore) (batch : List TranscriptEntry) :
    Except TranscriptError Unit × MemoryStore :=
  match EntryBatch.idFault? batch with
  | some fault => (.error (.invalidThreadId fault), s)
  | none =>
    let stored := (EntryBatch.without batch s.blocked).foldl add s
    if batch.any fun e => s.blocked.contains e.threadId then
      (.error (EntryBatch.stopped (s.reachable batch) .storage), stored)
    else (.ok (), stored)

/-- That a thread has a valid id and is not blocked. -/
def check (s : MemoryStore) (threadId : String) : Except TranscriptError Unit :=
  match ThreadId.fault? threadId with
  | some fault => .error (.invalidThreadId fault)
  | none => if s.blocked.contains threadId then .error .storage else .ok ()

/-- The entries of a thread. -/
def read (s : MemoryStore) (threadId : String) : Except TranscriptError (List TranscriptEntry) := do
  s.check threadId
  return s.entries threadId

/-- The entries of a thread are forgotten. -/
def delete (s : MemoryStore) (threadId : String) : Except TranscriptError Unit × MemoryStore :=
  match s.check threadId with
  | .error e => (.error e, s)
  | .ok () => (.ok (), { s with transcripts := s.transcripts.erase threadId })

instance : TranscriptStore MemoryStore where
  append := append
  read := read
  delete := delete

/-- The thread cannot be reached from now on; and whether that is new. -/
def block (s : MemoryStore) (threadId : String) : Bool × MemoryStore :=
  (!s.blocked.contains threadId, { s with blocked := s.blocked.insert threadId })

/-- The thread can be reached from now on; and whether that is new. -/
def unblock (s : MemoryStore) (threadId : String) : Bool × MemoryStore :=
  (s.blocked.contains threadId, { s with blocked := s.blocked.filter (· ≠ threadId) })

end MemoryStore

end AgentFeed
