import AgentFeed.Proofs.FilePlaces
import AgentFeed.Proofs.StoreLaws
import AgentFeed.Proofs.TranscriptLines
import AgentFeed.Transcript.Directory

/-!
# The files of a directory store

The files of two threads are in one directory, under two names. So what is written to one thread is
behind what is in its file and nowhere else (`DirectoryStore.gains_write`), and this is what a store
is asked for that writes a batch thread by thread.

Every batch first makes the directory of the store. That can change what a thread reads as, in a
tree where the path of the directory leads through names that do not exist yet and back up. From
then on it changes nothing. So what is known of a thread is said of the store with its directory made
(`DirectoryStore.Keeps`): a batch adds to it what its result says (`DirectoryStore.Keeps.append`),
and it is what the thread reads as also before (`DirectoryStore.Keeps.exists_read_eq`).
-/

namespace AgentFeed

/-! ## 1. Files of one directory -/

namespace Path

theorem piecesFrom_of_notMem (piece : List Char) {cs : List Char} (h : '/' ∉ cs) :
    piecesFrom piece cs = [piece.reverse ++ cs] := by
  induction cs generalizing piece with
  | nil => rw [piecesFrom, List.append_nil]
  | cons c rest ih =>
    obtain ⟨hc, hrest⟩ := List.ne_and_not_mem_of_not_mem_cons h
    rw [piecesFrom, if_neg (Ne.symm hc), ih _ hrest, List.reverse_cons, List.append_assoc]
    rfl

theorem piecesFrom_append_slash (piece cs rest : List Char) :
    piecesFrom piece (cs ++ '/' :: rest) = piecesFrom piece cs ++ piecesFrom [] rest := by
  induction cs generalizing piece with
  | nil => rfl
  | cons c tail ih =>
    rw [List.cons_append, piecesFrom, piecesFrom]
    by_cases hc : c = '/'
    · rw [if_pos hc, if_pos hc, ih, List.cons_append]
    · rw [if_neg hc, if_neg hc, ih]

/-- **Files in a directory have paths that differ in the last piece.** -/
theorem exists_pieces_join (base : String) :
    ∃ names, ∀ name : String, '/' ∉ name.toList →
      pieces (join base name) = names ++ [name] ∧
        isAbsolute (join base name) = isAbsolute base := by
  have hlast : ∀ name : String, '/' ∉ name.toList →
      (piecesFrom [] name.toList).map String.ofList = [name] := by
    intro name hname
    rw [piecesFrom_of_notMem [] hname, List.reverse_nil, List.nil_append, List.map_singleton,
      String.ofList_toList]
  have hrelative : ∀ name : String, '/' ∉ name.toList → isAbsolute name = false := by
    intro name hname
    rw [isAbsolute, beq_eq_false_iff_ne]
    exact fun hhead => hname (List.mem_of_mem_head? hhead)
  by_cases hempty : base = ""
  · refine ⟨[], fun name hname => ?_⟩
    rw [join, if_pos (by simp [hempty]), hempty, hrelative name hname]
    exact ⟨hlast name hname, rfl⟩
  -- The start of a path that goes on is the start of the path.
  have habsolute : ∀ more : String, isAbsolute (base ++ more) = isAbsolute base := by
    intro more
    rw [isAbsolute, isAbsolute, String.toList_append]
    cases hbase : base.toList with
    | nil => exact absurd (String.toList_eq_nil_iff.1 hbase) hempty
    | cons c rest => rfl
  by_cases hslash : endsInSlash base = true
  · obtain ⟨init, hinit⟩ : ∃ init, base.toList = init ++ ['/'] := by
      rw [endsInSlash, beq_iff_eq] at hslash
      exact List.getLast?_eq_some_iff.1 hslash
    refine ⟨(piecesFrom [] init).map String.ofList, fun name hname => ?_⟩
    rw [join, if_neg (by simp [hrelative name hname, hempty]), if_pos hslash, habsolute, pieces,
      String.toList_append, hinit, List.append_assoc, List.singleton_append,
      piecesFrom_append_slash, List.map_append, hlast name hname]
    exact ⟨rfl, rfl⟩
  · refine ⟨pieces base, fun name hname => ?_⟩
    have htext : (base ++ "/" ++ name).toList = base.toList ++ '/' :: name.toList := by
      rw [String.toList_append, String.toList_append, List.append_assoc]
      rfl
    rw [join, if_neg (by simp [hrelative name hname, hempty]), if_neg hslash, pieces, htext,
      piecesFrom_append_slash, List.map_append, hlast name hname, String.append_assoc, habsolute]
    exact ⟨rfl, rfl⟩

end Path

namespace ThreadId

theorem toList_fileName (id : String) : (fileName id).toList = id.toList ++ ".jsonl".toList :=
  String.toList_append

theorem slash_notMem_fileName {id : String} (h : IsValid id) : '/' ∉ (fileName id).toList := by
  have hslash : isIdChar '/' = false := by decide +kernel
  rw [IsValid, fault?] at h
  split_ifs at h with _ _ hall
  rw [toList_fileName, List.mem_append, not_or]
  refine ⟨fun hmem => ?_, by decide⟩
  have hchar := List.all_eq_true.1 hall '/' hmem
  rw [hslash] at hchar
  cases hchar

theorem fileName_injective {id other : String} (h : fileName id = fileName other) :
    id = other := by
  have hlists := congrArg String.toList h
  rw [toList_fileName, toList_fileName, List.append_left_inj] at hlists
  exact String.toList_inj.1 hlists

end ThreadId

/-- A file of a thread is looked for in a directory, under its name. -/
theorem FileTree.follow_fileName {t : FileTree} {above : List String}
    (habove : t.node? above = some .directory) (id : String) :
    t.follow above [ThreadId.fileName id]
      = if nameLimit < (ThreadId.fileName id).utf8ByteSize then .error .nameTooLong
        else .ok (above ++ [ThreadId.fileName id]) := by
  have hne : ∀ name : String, name.length < 6 → ThreadId.fileName id ≠ name := by
    rintro name hshort rfl
    rw [ThreadId.fileName, String.length_append] at hshort
    have hsuffix : ".jsonl".length = 6 := rfl
    omega
  have hdots : ¬(decide (ThreadId.fileName id = "") || decide (ThreadId.fileName id = ".")) = true :=
    by simp [hne "" (by decide), hne "." (by decide)]
  rw [follow, requireDirectory_eq_ok_iff.2 habove]
  simp only [bind, Except.bind]
  rw [if_neg hdots, if_neg (hne ".." (by decide))]
  rfl

namespace DirectoryStore

/-- The paths of threads share all names but the last. -/
theorem exists_names (s : DirectoryStore) :
    ∃ names, ∀ (t : FileTree) (threadId : String), ThreadId.IsValid threadId →
      FileTree.pathFault? (s.path threadId) = none →
      t.place (s.path threadId) = (t.follow (t.start s.directory) names).bind
        (t.follow · [ThreadId.fileName threadId]) := by
  obtain ⟨names, hnames⟩ := Path.exists_pieces_join s.directory
  refine ⟨names, fun t threadId hvalid hfault => ?_⟩
  obtain ⟨hpieces, habsolute⟩ := hnames _ (ThreadId.slash_notMem_fileName hvalid)
  have hstart : t.start (s.path threadId) = t.start s.directory := by
    rw [FileTree.start, FileTree.start, path, habsolute]
  rw [FileTree.place_of_no_fault hfault, hstart, path, hpieces, FileTree.follow_append]

/-- **The paths of threads lead into one directory**, and to the same places while the directories of
the tree stay. -/
theorem exists_above (s : DirectoryStore) {t t' : FileTree} (hkeeps : t.KeepsDirectories t')
    {threadId : String} (hvalid : ThreadId.IsValid threadId) {place : List String}
    (hplace : t.place (s.path threadId) = .ok place) :
    ∃ above, ∀ other, ThreadId.IsValid other →
      t'.place (s.path other) = t.place (s.path other) ∧
      ∀ place', t.place (s.path other) = .ok place' →
        place' = above ++ [ThreadId.fileName other] := by
  obtain ⟨names, hnames⟩ := s.exists_names
  -- The path leads somewhere, so the names that all paths share lead to a directory.
  obtain ⟨above, habove, hdirectory⟩ : ∃ above,
      t.follow (t.start s.directory) names = .ok above ∧ t.node? above = some .directory := by
    cases hfault : FileTree.pathFault? (s.path threadId) with
    | some fault =>
      rw [FileTree.place_of_fault hfault] at hplace
      cases hplace
    | none =>
      rw [hnames t threadId hvalid hfault] at hplace
      cases habove : t.follow (t.start s.directory) names with
      | error e =>
        rw [habove] at hplace
        cases hplace
      | ok above =>
        rw [habove] at hplace
        exact ⟨above, rfl, FileTree.directory_of_follow hplace⟩
  have habove' : t'.follow (t'.start s.directory) names = .ok above := by
    rw [hkeeps.start_eq]
    exact hkeeps.follow_eq habove
  refine ⟨above, fun other hother => ?_⟩
  cases hfault : FileTree.pathFault? (s.path other) with
  | some fault =>
    rw [FileTree.place_of_fault hfault, FileTree.place_of_fault hfault]
    exact ⟨rfl, fun place' hplace' => by cases hplace'⟩
  | none =>
    rw [hnames t' other hother hfault, hnames t other hother hfault, habove, habove']
    simp only [Except.bind, FileTree.follow_fileName hdirectory,
      FileTree.follow_fileName (hkeeps.directory hdirectory)]
    refine ⟨trivial, fun place' hplace' => ?_⟩
    split_ifs at hplace'
    exact (Except.ok.inj hplace').symm

/-! ## 2. The file of a thread -/

/-- What a reader finds in the file of a thread. -/
def file (s : DirectoryStore) (threadId : String) : Except DiskError FileContent :=
  s.tree.read (s.path threadId)

/-- What a writer finds where a reader finds a content: a file that is missing is made, and is
empty. -/
def contentOf? : Except DiskError FileContent → Option FileContent
  | .ok content => some content
  | .error .notFound => some (.text "")
  | .error _ => none

/-- What a writer finds in the file of a thread. -/
def content? (s : DirectoryStore) (threadId : String) : Option FileContent :=
  contentOf? (s.file threadId)

/-- Whether the file of a thread can be written. -/
def canWrite (s : DirectoryStore) (threadId : String) : Bool :=
  (s.write threadId []).isOk

/-- Entries were put behind the files of some threads, and nothing else was done. -/
structure Gains (s : DirectoryStore) (entries : String → List TranscriptEntry)
    (threadIds : List String) (s' : DirectoryStore) : Prop where
  /-- It is the same store. -/
  directory : s'.directory = s.directory
  /-- Its directories are there. -/
  keeps : s.tree.KeepsDirectories s'.tree
  /-- The paths of threads lead where they led. -/
  place_eq : ∀ id, ThreadId.IsValid id → s'.tree.place (s.path id) = s.tree.place (s.path id)
  /-- The same threads can be written. -/
  canWrite_eq : ∀ id, ThreadId.IsValid id → s'.canWrite id = s.canWrite id
  /-- The file of such a thread has the lines of its entries behind what it had. -/
  written : ∀ id ∈ threadIds, ∃ old, s.content? id = some old ∧
    s'.file id = .ok (old.appendText (TranscriptText.encode (entries id)))
  /-- The file of another thread is as it was. -/
  unchanged : ∀ id, ThreadId.IsValid id → id ∉ threadIds → s'.file id = s.file id
  /-- So is everything that is no file of such a thread. -/
  elsewhere : ∀ place, (∀ id ∈ threadIds, s.tree.place (s.path id) ≠ .ok place) →
    s'.tree.node? place = s.tree.node? place

variable {s s' : DirectoryStore} {threadId : String}

/-- A thread can be written if its path leads to a place for a file. -/
theorem canWrite_iff : s.canWrite threadId = true ↔
    ∃ (place : List String) (old : Option FileContent),
      s.tree.place (s.path threadId) = .ok place ∧ place ∉ s.tree.readOnly ∧
        s.tree.node? place = old.map .file := by
  unfold canWrite write
  constructor
  · intro hok
    cases hwrite : s.tree.appendText (s.path threadId) (TranscriptText.encode []) with
    | error e =>
      rw [hwrite] at hok
      cases hok
    | ok tree =>
      obtain ⟨place, old, hplace, hwritable, hold, -⟩ := FileTree.changeFile_eq_ok hwrite
      exact ⟨place, old, hplace, hwritable, hold⟩
  · rintro ⟨place, old, hplace, hwritable, hold⟩
    rw [FileTree.appendText, FileTree.changeFile_of_place hplace hwritable hold]
    rfl

/-- **The file of a thread is written** if it can be, whatever is to be written. -/
theorem gains_write (hvalid : ThreadId.IsValid threadId) (hcan : s.canWrite threadId = true)
    (entries : String → List TranscriptEntry) :
    ∃ s', s.write threadId (entries threadId) = .ok s' ∧ s.Gains entries [threadId] s' := by
  obtain ⟨place, old, hplace, hwritable, hold⟩ := canWrite_iff.1 hcan
  let content := (old.getD (.text "")).appendText (TranscriptText.encode (entries threadId))
  let s' : DirectoryStore := { s with tree := s.tree.put place (.file content) }
  have hwrite : s.write threadId (entries threadId) = .ok s' := by
    unfold write FileTree.appendText
    rw [FileTree.changeFile_of_place hplace hwritable hold]
  have hkeeps : s.tree.KeepsDirectories s'.tree := FileTree.keepsDirectories_put hold content
  have hnode : ∀ other, s'.tree.node? other
      = if place = other then some (.file content) else s.tree.node? other :=
    FileTree.node?_put s.tree (FileTree.ne_nil_of_node? hold) (.file content)
  obtain ⟨above, habove⟩ := s.exists_above hkeeps hvalid hplace
  -- Another thread has another place.
  have hother : ∀ id, ThreadId.IsValid id → id ≠ threadId → ∀ place',
      s.tree.place (s.path id) = .ok place' → place ≠ place' := by
    intro id hid hne place' hplace' heq
    rw [(habove threadId hvalid).2 place hplace, (habove id hid).2 place' hplace'] at heq
    have hname := List.singleton_inj.1 (List.append_cancel_left heq)
    exact hne (ThreadId.fileName_injective hname).symm
  refine ⟨s', hwrite, rfl, hkeeps, fun id hid => (habove id hid).1, fun id hid => ?_,
    fun id hid => ?_, fun id hid hnot => ?_, ?_⟩
  · rw [Bool.eq_iff_iff, canWrite_iff, canWrite_iff]
    have hsame : s'.tree.place (s'.path id) = s.tree.place (s.path id) := (habove id hid).1
    rw [hsame]
    refine exists_congr fun place' => ?_
    by_cases heq : place = place'
    · subst heq
      constructor
      · rintro ⟨-, hplace', hwritable', -⟩
        exact ⟨old, hplace', hwritable', hold⟩
      · rintro ⟨-, hplace', hwritable', -⟩
        exact ⟨some content, hplace', hwritable', (hnode place).trans (if_pos rfl)⟩
    · rw [hnode, if_neg heq]
      exact Iff.rfl
  · obtain rfl := List.mem_singleton.1 hid
    refine ⟨old.getD (.text ""), ?_, ?_⟩
    · rw [content?, file, FileTree.read_eq, hplace]
      simp only [Except.bind, hold]
      cases old <;> rfl
    · have hsame : s'.tree.place (s'.path id) = .ok place := (habove id hvalid).1.trans hplace
      rw [file, FileTree.read_eq, hsame]
      simp only [Except.bind, hnode, if_true]
      rfl
  · have hsame : s'.tree.place (s'.path id) = s.tree.place (s.path id) := (habove id hid).1
    rw [file, FileTree.read_eq, hsame, file, FileTree.read_eq]
    cases hplace' : s.tree.place (s.path id) with
    | error e => rfl
    | ok place' =>
      have hne := hother id hid (fun heq => hnot (List.mem_singleton.2 heq)) place' hplace'
      simp only [Except.bind, hnode, if_neg hne]
  · intro other hnot
    rw [hnode, if_neg]
    rintro rfl
    exact hnot threadId (List.mem_singleton_self threadId) hplace

/-- A file that cannot be written is refused, whatever is to be written. -/
theorem write_of_not_canWrite (hcan : s.canWrite threadId = false) (new : List TranscriptEntry) :
    s.write threadId new = .error .storage := by
  unfold write
  cases happend : s.tree.appendText (s.path threadId) (TranscriptText.encode new) with
  | error e => rfl
  | ok tree =>
    obtain ⟨place, old, hplace, hwritable, hold, -⟩ := FileTree.changeFile_eq_ok happend
    rw [canWrite_iff.2 ⟨place, old, hplace, hwritable, hold⟩] at hcan
    cases hcan

/-! ## 3. The text of a thread -/

/-- The text that was found in a file, or none that could be read; a file that is missing has an empty
one. -/
def textOf? : Except DiskError String → Option String
  | .ok text => some text
  | .error .notFound => some ""
  | .error _ => none

/-- The text in the file of a thread. -/
def text? (s : DirectoryStore) (threadId : String) : Option String :=
  textOf? (s.tree.readText (s.path threadId))

theorem text?_eq (s : DirectoryStore) (threadId : String) :
    s.text? threadId = (s.content? threadId).bind FileContent.text? := by
  rw [text?, FileTree.readText_eq, content?, file]
  cases s.tree.read (s.path threadId) with
  | error e => cases e <;> rfl
  | ok content => cases content <;> rfl

theorem read_eq_bind (hvalid : ThreadId.IsValid threadId) :
    s.read threadId = match s.text? threadId with
      | some text => TranscriptText.parse (s.path threadId) text
      | none => .error .storage := by
  have hfault : ThreadId.fault? threadId = none := hvalid
  rw [read, checkedPath, hfault, text?]
  simp only [bind, Except.bind]
  cases s.tree.readText (s.path threadId) with
  | ok text => rfl
  | error e => cases e <;> rfl

/-- A thread reads as the entries in its text. -/
theorem read_eq (hvalid : ThreadId.IsValid threadId) {text : String}
    (htext : s.text? threadId = some text) :
    s.read threadId = TranscriptText.parse (s.path threadId) text := by
  rw [read_eq_bind hvalid, htext]

/-- A thread that can be read has an id and a text. -/
theorem exists_text? {found : List TranscriptEntry} (h : s.read threadId = .ok found) :
    ThreadId.IsValid threadId ∧ ∃ text, s.text? threadId = some text := by
  cases hfault : ThreadId.fault? threadId with
  | some fault =>
    rw [read, checkedPath, hfault] at h
    cases h
  | none =>
    rw [read_eq_bind hfault] at h
    cases htext : s.text? threadId with
    | none =>
      rw [htext] at h
      cases h
    | some text => exact ⟨hfault, text, rfl⟩

namespace Gains

variable {entries : String → List TranscriptEntry} {threadIds : List String}

theorem content?_unchanged (h : s.Gains entries threadIds s') {id : String}
    (hvalid : ThreadId.IsValid id) (hnot : id ∉ threadIds) : s'.content? id = s.content? id := by
  rw [content?, h.unchanged id hvalid hnot, content?]

/-- What is written to a thread is behind its text. -/
theorem text?_written (h : s.Gains entries threadIds s') {id : String} (hid : id ∈ threadIds)
    {text : String} (htext : s.text? id = some text) :
    s'.text? id = some (text ++ TranscriptText.encode (entries id)) := by
  obtain ⟨old, hold, hnew⟩ := h.written id hid
  rw [text?_eq, hold] at htext
  rw [text?_eq, content?, hnew]
  cases old with
  | text was =>
    obtain rfl := Option.some.inj htext
    rfl
  | binary bytes => cases htext

end Gains

/-- **What is written to a thread is behind its text**, and behind no other. -/
theorem text?_write (hvalid : ThreadId.IsValid threadId) {new : List TranscriptEntry}
    (hwrite : s.write threadId new = .ok s') :
    s'.directory = s.directory ∧ s.tree.KeepsDirectories s'.tree ∧
      ∀ other, ThreadId.IsValid other → ∀ text, s.text? other = some text →
        s'.text? other
          = some (text ++ if other = threadId then TranscriptText.encode new else "") := by
  have hcan : s.canWrite threadId = true := by
    rw [← Bool.not_eq_false]
    intro hnot
    rw [write_of_not_canWrite hnot] at hwrite
    cases hwrite
  obtain ⟨_, hthis, hgains⟩ := gains_write hvalid hcan fun _ => new
  obtain rfl := Except.ok.inj (hthis.symm.trans hwrite)
  refine ⟨hgains.directory, hgains.keeps, fun other hother text htext => ?_⟩
  by_cases heq : other = threadId
  · rw [if_pos heq]
    exact hgains.text?_written (List.mem_singleton.2 heq) htext
  · have hnot : other ∉ [threadId] := fun hmem => heq (List.mem_singleton.1 hmem)
    rw [if_neg heq, String.append_empty, text?_eq, hgains.content?_unchanged hother hnot,
      ← text?_eq, htext]

/-! ## 4. The directory -/

/-- The store with its directory made, as far as that can be done. -/
def prepared (s : DirectoryStore) : DirectoryStore :=
  { s with tree := (s.tree.createDirectories s.directory).2 }

/-- The directory of the store is there: there is nothing to make. -/
def IsMade (s : DirectoryStore) : Prop :=
  s.tree.createDirectories s.directory = (.ok (), s.tree)

theorem prepared_prepared (s : DirectoryStore) : s.prepared.prepared = s.prepared := by
  have hagain := s.tree.createDirectories_again s.directory
  rw [prepared, prepared, hagain]

theorem IsMade.prepared_eq (h : s.IsMade) : s.prepared = s := by
  rw [IsMade] at h
  rw [prepared, h]

theorem isMade_prepared (h : (s.tree.createDirectories s.directory).1 = .ok ()) :
    s.prepared.IsMade := by
  have hagain := s.tree.createDirectories_again s.directory
  rw [IsMade, prepared, hagain, ← h]

theorem IsMade.of_keepsDirectories (h : s.IsMade) (hdirectory : s'.directory = s.directory)
    (hkeeps : s.tree.KeepsDirectories s'.tree) : s'.IsMade := by
  rw [IsMade, hdirectory]
  exact FileTree.createDirectories_of_keepsDirectories hkeeps h

/-- Before the directory is made, a thread has the text that it has then, or none yet. -/
theorem text?_of_prepared {text : String} (h : s.prepared.text? threadId = some text) :
    s.text? threadId = some text ∨ s.text? threadId = some "" := by
  have hadds := s.tree.addsDirectories_createDirectories s.directory
  have hpath : s.prepared.path threadId = s.path threadId := rfl
  rw [text?, hpath] at h
  rw [text?]
  rcases hadds.readText_eq (s.path threadId) with hnone | hsame
  · rw [hnone]
    exact .inr rfl
  · rw [← hsame]
    exact .inl h

/-! ## 5. Batches -/

/-- A thread holds entries, behind a text that was there before. -/
structure Holds (before : String) (s : DirectoryStore) (threadId : String)
    (found : List TranscriptEntry) : Prop where
  /-- The thread has an id. -/
  valid : ThreadId.IsValid threadId
  /-- The directory is there. -/
  made : s.IsMade
  /-- The text of the thread. -/
  text : s.text? threadId = some (before ++ TranscriptText.encode found)

/-- **The file of a thread is written or left as it is**, and no other file is touched. -/
theorem atomicWrite (before : String) (hvalid : ThreadId.IsValid threadId) :
    AtomicWrite (Holds before) write threadId where
  ok {store store' new} hwrite other found hholds := by
    obtain ⟨hdirectory, hkeeps, htext⟩ := text?_write hvalid hwrite
    refine ⟨hholds.valid, hholds.made.of_keepsDirectories hdirectory hkeeps, ?_⟩
    rw [htext other hholds.valid _ hholds.text, TranscriptText.encode_append, String.append_assoc]
    by_cases heq : other = threadId
    · rw [if_pos heq, if_pos heq]
    · rw [if_neg heq, if_neg heq]
      rfl
  error {store new e} hwrite := by
    unfold write at hwrite
    split at hwrite
    · cases hwrite
    · obtain rfl := Except.error.inj hwrite
      rfl

/-- A batch is refused, or it fails at the directory, or it is written thread by thread. -/
theorem append_cases (s : DirectoryStore) (batch : List TranscriptEntry) :
    batch = [] ∧ s.append batch = (.ok (), s) ∨
    (∃ fault, EntryBatch.idFault? batch = some fault ∧
      s.append batch = (.error (.invalidThreadId fault), s)) ∨
    (∃ e, (s.tree.createDirectories s.directory).1 = .error e ∧
      s.append batch = (.error .storage, s.prepared)) ∨
    (s.tree.createDirectories s.directory).1 = .ok () ∧
      (∀ e ∈ batch, ThreadId.IsValid e.threadId) ∧
      s.append batch
        = EntryBatch.appendThreads write batch [] s.prepared (EntryBatch.threads batch) := by
  rw [append, prepared]
  by_cases hempty : batch.isEmpty = true
  · rw [if_pos hempty]
    exact .inl ⟨List.isEmpty_iff.1 hempty, rfl⟩
  rw [if_neg hempty]
  cases hfault : EntryBatch.idFault? batch with
  | some fault => exact .inr (.inl ⟨fault, rfl, rfl⟩)
  | none =>
    cases hmade : s.tree.createDirectories s.directory with
    | mk result tree =>
      cases result with
      | error e => exact .inr (.inr (.inl ⟨e, rfl, rfl⟩))
      | ok done =>
        exact .inr (.inr (.inr ⟨rfl, fun e he => List.findSome?_eq_none_iff.1 hfault e he, rfl⟩))

end DirectoryStore

/-- The entries of a thread that a batch added to a store, going by its result. -/
def EntryBatch.added (result : Except TranscriptError Unit) (batch : List TranscriptEntry)
    (threadId : String) : List TranscriptEntry :=
  match result with
  | .ok () => ofThread batch threadId
  | .error e => if threadId ∈ e.writtenThreads then ofThread batch threadId else []

theorem EntryBatch.mem_ofThread_of_mem_added {result : Except TranscriptError Unit}
    {batch : List TranscriptEntry} {threadId : String} {e : TranscriptEntry}
    (h : e ∈ added result batch threadId) : e ∈ ofThread batch threadId := by
  cases result with
  | ok done => exact h
  | error fault =>
    by_cases hwritten : threadId ∈ fault.writtenThreads
    · rw [added, if_pos hwritten] at h
      exact h
    · rw [added, if_neg hwritten] at h
      exact absurd h List.not_mem_nil

namespace DirectoryStore

/-- What is known of a thread between two batches: once the directory is made it holds the entries,
and it has none before that. -/
structure Keeps (before : String) (s : DirectoryStore) (threadId : String)
    (found : List TranscriptEntry) : Prop where
  /-- The thread has an id. -/
  valid : ThreadId.IsValid threadId
  /-- The text of the thread once the directory is made. -/
  text : s.prepared.text? threadId = some (before ++ TranscriptText.encode found)
  /-- The directory was made before anything was written. -/
  made : found = [] ∨ s.IsMade

namespace Keeps

variable {before : String} {found : List TranscriptEntry}

/-- A thread that reads as empty once the directory is made has blanks in its file at most. -/
theorem start (h : s.prepared.read threadId = .ok []) :
    ∃ before : String, (∀ c ∈ before.toList, Text.isBlank c = true) ∧
      Keeps before s threadId [] := by
  obtain ⟨hvalid, text, htext⟩ := exists_text? h
  rw [read_eq hvalid htext] at h
  refine ⟨text, TranscriptText.parse_eq_nil h, hvalid, ?_, .inl rfl⟩
  rw [htext]
  exact congrArg some String.append_empty.symm

theorem of_holds (h : Holds before s threadId found) : Keeps before s threadId found :=
  ⟨h.valid, h.made.prepared_eq.symm ▸ h.text, .inr h.made⟩

/-- **A batch adds to a thread what its result says.** -/
theorem append (h : Keeps before s threadId found) (batch : List TranscriptEntry) :
    Keeps before (s.append batch).2 threadId
      (found ++ EntryBatch.added (s.append batch).1 batch threadId) := by
  rcases s.append_cases batch with
    ⟨rfl, heq⟩ | ⟨fault, -, heq⟩ | ⟨e, hfails, heq⟩ | ⟨hmade, hvalid, heq⟩
  · rw [heq]
    exact (List.append_nil found).symm ▸ h
  · rw [heq]
    exact (List.append_nil found).symm ▸ h
  · -- Nothing can have been written if the directory cannot be made.
    have hnone : found = [] := h.made.resolve_right fun hthere => by
      rw [IsMade] at hthere
      rw [hthere] at hfails
      cases hfails
    rw [heq]
    refine ⟨h.valid, ?_, .inl ?_⟩
    · rw [prepared_prepared, h.text, hnone]
      rfl
    · rw [hnone]
      rfl
  · have hholds : Holds before s.prepared threadId found :=
      ⟨h.valid, isMade_prepared hmade, h.text⟩
    have hwrite : ∀ id ∈ EntryBatch.threads batch, AtomicWrite (Holds before) write id := by
      intro id hid
      obtain ⟨e, he, rfl⟩ := EntryBatch.mem_threads.1 hid
      exact atomicWrite before (hvalid e he)
    rw [heq]
    rcases EntryBatch.appendThreads_promise hwrite s.prepared with
      ⟨store, hloop, hall⟩ | ⟨e, store, hloop, hall, -⟩
    · rw [hloop]
      exact .of_holds (hall threadId found hholds)
    · rw [hloop]
      exact .of_holds (hall threadId found hholds)

/-- **What a thread reads as** is the outcome of the entries that it holds. -/
theorem exists_read_eq (h : Keeps before s threadId found)
    (hbefore : ∀ c ∈ before.toList, Text.isBlank c = true) (hexact : ∀ e ∈ found, e.IsExact) :
    ∃ number, s.read threadId = TranscriptText.outcome (s.path threadId) number found := by
  have hholds : s.text? threadId = some (before ++ TranscriptText.encode found) →
      ∃ number, s.read threadId = TranscriptText.outcome (s.path threadId) number found := by
    intro htext
    rw [read_eq h.valid htext]
    exact TranscriptText.exists_parse_encode _ hbefore hexact
  rcases h.made with hnone | hmade
  · rcases text?_of_prepared h.text with htext | htext
    · exact hholds htext
    · rw [hnone, read_eq h.valid htext]
      exact ⟨0, rfl⟩
  · rw [← hmade.prepared_eq] at hholds
    exact hmade.prepared_eq ▸ hholds h.text

end Keeps

/-- A store in a directory of an empty disk. -/
def sample : DirectoryStore where
  directory := "data/transcripts"
  tree := {}

/-- A thread of the sample has no entries, before its directory is made and after. -/
theorem read_sample :
    sample.read "thread" = .ok [] ∧ sample.prepared.read "thread" = .ok [] := by
  have hvalid : ThreadId.IsValid "thread" := by decide +kernel
  have htext : sample.text? "thread" = some "" ∧ sample.prepared.text? "thread" = some "" := by
    decide +kernel
  rw [read_eq hvalid htext.1, read_eq hvalid htext.2]
  exact ⟨rfl, rfl⟩

end DirectoryStore

end AgentFeed
