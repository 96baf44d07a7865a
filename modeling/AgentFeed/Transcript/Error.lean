import AgentFeed.Transcript.Entry
import AgentFeed.Transcript.ThreadId

/-!
# Transcript errors

What can go wrong when a transcript is read or written.
-/

namespace AgentFeed

/-- Why a transcript operation fails. -/
inductive TranscriptError where
  /-- A text is no thread id. -/
  | invalidThreadId (fault : ThreadIdFault)
  /-- An entry names a direction that is none. -/
  | invalidDirection (lowered : String)
  /-- The medium refuses. -/
  | storage
  /-- A line is no entry. Lines count from one. -/
  | malformedLine (path : String) (line : Nat)
  /-- Some threads of a batch were written before another one failed. -/
  | partialAppend (written : List String) (source : TranscriptError)
deriving DecidableEq

namespace TranscriptError

/-- The threads that were written all the same. -/
def writtenThreads : TranscriptError → List String
  | .partialAppend written _ => written
  | _ => []

/-- What is said about an error in an id or a direction. -/
def message? : TranscriptError → Option String
  | .invalidThreadId fault => some ("invalid thread id: " ++ fault.message)
  | .invalidDirection lowered =>
    some ("invalid direction: " ++ Direction.unknownMessage lowered)
  | _ => none

end TranscriptError

end AgentFeed
