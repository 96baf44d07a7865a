import AgentFeed.Text.Alphanumeric

/-!
# Thread ids

A thread id names a file, so it is not empty, has at most 256 bytes, and consists of letters,
digits, hyphens and underscores.
-/

namespace AgentFeed

/-- Why a text is no thread id. -/
inductive ThreadIdFault where
  /-- It is empty. -/
  | empty
  /-- It has too many bytes. -/
  | tooLong
  /-- It has a character that does not belong in an id. -/
  | characters (id : String)
deriving DecidableEq, Repr

namespace ThreadId

/-- The greatest number of bytes in an id. -/
def maxBytes : Nat := 256

/-- A character that can stand in an id. -/
def isIdChar (c : Char) : Bool :=
  Text.isAlphanumeric c || c = '-' || c = '_'

/-- Why a text is no thread id, if it is none. -/
def fault? (id : String) : Option ThreadIdFault :=
  if id = "" then some .empty
  else if maxBytes < id.utf8ByteSize then some .tooLong
  else if id.toList.all isIdChar then none
  else some (.characters id)

/-- Whether a text is a thread id. -/
def IsValid (id : String) : Prop :=
  fault? id = none

instance (id : String) : Decidable (IsValid id) :=
  inferInstanceAs (Decidable (fault? id = none))

/-- The name of the file that keeps the transcript of a thread. -/
def fileName (id : String) : String :=
  id ++ ".jsonl"

end ThreadId

/-- What is said about a text that is no thread id. -/
def ThreadIdFault.message : ThreadIdFault → String
  | .empty => "thread id must not be empty"
  | .tooLong => "thread id is longer than " ++ toString ThreadId.maxBytes ++ " bytes"
  | .characters id => id

end AgentFeed
