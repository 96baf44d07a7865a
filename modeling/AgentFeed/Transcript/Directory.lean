import AgentFeed.Disk.Tree
import AgentFeed.Transcript.Store
import AgentFeed.Transcript.Text

/-!
# A store in a directory

Transcripts in a directory of a disk, one file for each thread. The directory is created with the
first batch. The entries of a thread are appended to its file in one write.
-/

namespace AgentFeed

/-- A directory of transcripts. -/
structure DirectoryStore where
  /-- The path of the directory. -/
  directory : String
  /-- The disk it is on. -/
  tree : FileTree

namespace DirectoryStore

/-- The path of the file of a thread. -/
def path (s : DirectoryStore) (threadId : String) : String :=
  Path.join s.directory (ThreadId.fileName threadId)

/-- The path of the file of a thread, unless its id has a fault. -/
def checkedPath (s : DirectoryStore) (threadId : String) : Except TranscriptError String :=
  match ThreadId.fault? threadId with
  | some fault => .error (.invalidThreadId fault)
  | none => .ok (s.path threadId)

/-- The store with the entries of a thread behind those already there. -/
def write (s : DirectoryStore) (threadId : String) (entries : List TranscriptEntry) :
    Except TranscriptError DirectoryStore :=
  match s.tree.appendText (s.path threadId) (TranscriptText.encode entries) with
  | .ok tree => .ok { s with tree }
  | .error _ => .error .storage

/-- A batch is appended, once all ids in it are found to be valid. -/
def append (s : DirectoryStore) (batch : List TranscriptEntry) :
    Except TranscriptError Unit × DirectoryStore :=
  if batch.isEmpty then (.ok (), s)
  else
    match EntryBatch.idFault? batch with
    | some fault => (.error (.invalidThreadId fault), s)
    | none =>
      match s.tree.createDirectories s.directory with
      | (.error _, tree) => (.error .storage, { s with tree })
      | (.ok (), tree) =>
        EntryBatch.appendThreads write batch [] { s with tree } (EntryBatch.threads batch)

/-- The entries in the file at a path. -/
def entriesAt (s : DirectoryStore) (path : String) : Except TranscriptError (List TranscriptEntry) :=
  match s.tree.readText path with
  | .ok text => TranscriptText.parse path text
  | .error _ => .error .storage

/-- The entries of a thread. -/
def read (s : DirectoryStore) (threadId : String) :
    Except TranscriptError (List TranscriptEntry) := do
  let path ← s.checkedPath threadId
  match s.tree.readText path with
  | .ok text => TranscriptText.parse path text
  | .error .notFound => .ok []
  | .error _ => .error .storage

/-- The file of a thread is removed. -/
def delete (s : DirectoryStore) (threadId : String) :
    Except TranscriptError Unit × DirectoryStore :=
  match s.checkedPath threadId with
  | .error e => (.error e, s)
  | .ok path =>
    match s.tree.removeFile path with
    | .ok tree => (.ok (), { s with tree })
    | .error .notFound => (.ok (), s)
    | .error _ => (.error .storage, s)

instance : TranscriptStore DirectoryStore where
  append := append
  read := read
  delete := delete

/-! ## Threads that cannot be written -/

/-- A directory where the file of a thread would be, so the thread can be neither read nor written;
and whether that worked. -/
def block (s : DirectoryStore) (threadId : String) : Bool × DirectoryStore :=
  let (result, tree) := s.tree.createDirectories (s.path threadId)
  (result.isOk, { s with tree })

/-- That directory is removed; and whether that worked. -/
def unblock (s : DirectoryStore) (threadId : String) : Bool × DirectoryStore :=
  match s.tree.removeDirectory (s.path threadId) with
  | .ok tree => (true, { s with tree })
  | .error _ => (false, s)

end DirectoryStore

end AgentFeed
