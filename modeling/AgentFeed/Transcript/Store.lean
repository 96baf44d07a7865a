import AgentFeed.Transcript.Error

/-!
# Transcript stores

Where transcripts are kept. A store appends a batch of entries thread by thread, all or nothing for
one thread; when a thread fails after others were written, the error names those that were. A
thread without a transcript reads as empty, and deleting it is no error.

`EntryBatch` takes a batch apart: the threads in order of their first entry, and the entries of each
in batch order.
-/

namespace AgentFeed

/-- Where transcripts are kept. -/
class TranscriptStore (σ : Type) where
  /-- Append a batch of entries. -/
  append : σ → List TranscriptEntry → Except TranscriptError Unit × σ
  /-- The entries of a thread, oldest first. -/
  read : σ → String → Except TranscriptError (List TranscriptEntry)
  /-- Forget the entries of a thread. -/
  delete : σ → String → Except TranscriptError Unit × σ

namespace EntryBatch

/-- The threads of a batch, in order of their first entry. -/
def threads (batch : List TranscriptEntry) : List String :=
  (batch.map (·.threadId)).eraseDups

/-- The entries of one thread in a batch. -/
def ofThread (batch : List TranscriptEntry) (threadId : String) : List TranscriptEntry :=
  batch.filter (·.threadId = threadId)

/-- The entries of all threads but some. -/
def without (batch : List TranscriptEntry) (threads : List String) : List TranscriptEntry :=
  batch.filter fun e => !threads.contains e.threadId

/-- The first fault in a thread id of a batch. -/
def idFault? (batch : List TranscriptEntry) : Option ThreadIdFault :=
  batch.findSome? fun e => ThreadId.fault? e.threadId

/-- The error of a batch that stopped at a thread, given the threads written before. -/
def stopped (written : List String) (source : TranscriptError) : TranscriptError :=
  if written = [] then source else .partialAppend written source

/-- A batch is written thread by thread until one fails. `written` are the threads before. -/
def appendThreads {σ : Type}
    (write : σ → String → List TranscriptEntry → Except TranscriptError σ)
    (batch : List TranscriptEntry) (written : List String) (store : σ) :
    List String → Except TranscriptError Unit × σ
  | [] => (.ok (), store)
  | threadId :: rest =>
    match write store threadId (ofThread batch threadId) with
    | .ok store => appendThreads write batch (written ++ [threadId]) store rest
    | .error source => (.error (stopped written source), store)

end EntryBatch

end AgentFeed
