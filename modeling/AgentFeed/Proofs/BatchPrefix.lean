import AgentFeed.Proofs.DirectoryFiles

/-!
# A batch is written in order

A batch is written thread by thread, in the order in which the threads come in it, and stops at the
first thread whose file cannot be written. Which threads that are is settled before anything is
written (`DirectoryStore.canWrite`): to write one thread makes no other one writable, nor unwritable
(`DirectoryStore.Gains.canWrite_eq`). So the threads written are those in front of the first one that
cannot be, the error names just these, and each of them has its entries of the batch behind what it
had.

The files are compared with those of the store whose directory has been made, as that comes first.
-/

namespace AgentFeed

namespace DirectoryStore

variable {s s' s'' : DirectoryStore} {entries : String → List TranscriptEntry}

/-! ## 1. One thread after another -/

namespace Gains

theorem refl (s : DirectoryStore) (entries : String → List TranscriptEntry) :
    s.Gains entries [] s where
  directory := rfl
  keeps := ⟨rfl, fun h => h⟩
  place_eq _ _ := rfl
  canWrite_eq _ _ := rfl
  written _ hid := absurd hid List.not_mem_nil
  unchanged _ _ _ := rfl
  elsewhere _ _ := rfl

theorem path_eq {threadIds : List String} (h : s.Gains entries threadIds s') (id : String) :
    s'.path id = s.path id := by
  rw [path, path, h.directory]

/-- What other threads gain comes on top. -/
theorem append {first second : List String} (h : s.Gains entries first s')
    (h' : s'.Gains entries second s'') (hfirst : ∀ id ∈ first, ThreadId.IsValid id)
    (hsecond : ∀ id ∈ second, ThreadId.IsValid id) (hdisjoint : first.Disjoint second) :
    s.Gains entries (first ++ second) s'' where
  directory := h'.directory.trans h.directory
  keeps := h.keeps.trans h'.keeps
  place_eq id hid := by
    rw [← h.path_eq, h'.place_eq id hid, h.path_eq, h.place_eq id hid]
  canWrite_eq id hid := (h'.canWrite_eq id hid).trans (h.canWrite_eq id hid)
  written id hid := by
    rcases List.mem_append.1 hid with hid | hid
    · obtain ⟨old, hold, hnew⟩ := h.written id hid
      have hstays := h'.unchanged id (hfirst id hid) (hdisjoint hid)
      exact ⟨old, hold, hstays.trans hnew⟩
    · obtain ⟨old, hold, hnew⟩ := h'.written id hid
      rw [h.content?_unchanged (hsecond id hid) fun hmem => hdisjoint hmem hid] at hold
      exact ⟨old, hold, hnew⟩
  unchanged id hid hnot := by
    rw [List.mem_append, not_or] at hnot
    exact (h'.unchanged id hid hnot.2).trans (h.unchanged id hid hnot.1)
  elsewhere place hnot := by
    obtain ⟨hnotFirst, hnotSecond⟩ := List.forall_mem_append.1 hnot
    refine (h'.elsewhere place fun id hid => ?_).trans (h.elsewhere place hnotFirst)
    rw [h.path_eq, h.place_eq id (hsecond id hid)]
    exact hnotSecond id hid

end Gains

/-! ## 2. What is read of the threads -/

namespace Gains

variable {threadIds : List String} {id : String}

theorem read_unchanged (h : s.Gains entries threadIds s') (hnot : id ∉ threadIds) :
    s'.read id = s.read id := by
  cases hfault : ThreadId.fault? id with
  | some fault =>
    rw [read, checkedPath, hfault, read, checkedPath, hfault]
    rfl
  | none =>
    have htext : s'.text? id = s.text? id := by
      rw [text?_eq, h.content?_unchanged hfault hnot, ← text?_eq]
    rw [read_eq_bind hfault, htext, h.path_eq, read_eq_bind hfault]

/-- A thread whose file ends with a complete line reads as before, and then as what it gained. -/
theorem read_written (h : s.Gains entries threadIds s') (hvalid : ThreadId.IsValid id)
    (hid : id ∈ threadIds) {text : String} (htext : s.text? id = some text)
    (hends : TranscriptText.EndsLine text) {found : List TranscriptEntry}
    (hfound : s.read id = .ok found) (hstorable : ∀ e ∈ entries id, e.IsStorable) :
    s'.read id = .ok (found ++ entries id) := by
  rw [read_eq hvalid htext] at hfound
  rw [read_eq hvalid (h.text?_written hid htext), h.path_eq]
  exact TranscriptText.parse_append_encode hends hfound hstorable

end Gains

/-! ## 3. Every batch -/

/-- **A loop over threads writes those in front of the first one that cannot be written.** -/
theorem appendThreads_gains (batch : List TranscriptEntry) {can : String → Bool}
    {threadIds : List String} (hvalid : ∀ id ∈ threadIds, ThreadId.IsValid id)
    (hcan : ∀ id ∈ threadIds, s.canWrite id = can id) (hnodup : threadIds.Nodup)
    (written : List String) :
    ∃ s', EntryBatch.appendThreads write batch written s threadIds
        = (if threadIds.takeWhile can = threadIds then .ok ()
            else .error (EntryBatch.stopped (written ++ threadIds.takeWhile can) .storage), s') ∧
      s.Gains (EntryBatch.ofThread batch) (threadIds.takeWhile can) s' := by
  induction threadIds generalizing s written with
  | nil => exact ⟨s, rfl, .refl s _⟩
  | cons id rest ih =>
    obtain ⟨hid, hrest⟩ := List.forall_mem_cons.1 hvalid
    obtain ⟨hthis, hothers⟩ := List.forall_mem_cons.1 hcan
    obtain ⟨hnew, hnodup⟩ := List.nodup_cons.1 hnodup
    rw [EntryBatch.appendThreads]
    cases hwritable : can id with
    | false =>
      rw [hwritable] at hthis
      rw [write_of_not_canWrite hthis, List.takeWhile_cons_of_neg (by simp [hwritable]),
        if_neg (List.cons_ne_nil id rest).symm, List.append_nil]
      exact ⟨s, rfl, .refl s _⟩
    | true =>
      rw [hwritable] at hthis
      obtain ⟨next, hwrite, hgains⟩ := gains_write hid hthis (EntryBatch.ofThread batch)
      have hcanNext : ∀ other ∈ rest, next.canWrite other = can other := fun other hother =>
        (hgains.canWrite_eq other (hrest other hother)).trans (hothers other hother)
      obtain ⟨s', hloop, hmore⟩ := ih hrest hcanNext hnodup (written ++ [id])
      have hsub : ∀ other ∈ rest.takeWhile can, other ∈ rest :=
        fun other hother => (List.takeWhile_sublist can).subset hother
      have hdisjoint : [id].Disjoint (rest.takeWhile can) := by
        rw [List.singleton_disjoint]
        exact fun hmem => hnew (hsub id hmem)
      rw [hwrite, List.takeWhile_cons_of_pos hwritable]
      simp only [hloop, List.cons_inj_right, List.append_assoc, List.singleton_append]
      refine ⟨s', rfl, ?_⟩
      refine hgains.append hmore ?_ (fun other hother => hrest other (hsub other hother)) hdisjoint
      exact fun other hother => List.mem_singleton.1 hother ▸ hid

/-- What a batch with valid ids does to a store whose directory can be made. -/
theorem append_gains {batch : List TranscriptEntry}
    (hdirectory : (s.tree.createDirectories s.directory).1 = .ok ())
    (hvalid : ∀ e ∈ batch, ThreadId.IsValid e.threadId) :
    let start := if batch = [] then s else s.prepared
    let written := (EntryBatch.threads batch).takeWhile start.canWrite
    (s.append batch).1 = (if written = EntryBatch.threads batch then .ok ()
        else .error (EntryBatch.stopped written .storage)) ∧
      start.Gains (EntryBatch.ofThread batch) written (s.append batch).2 := by
  intro start written
  have hthreads : ∀ id ∈ EntryBatch.threads batch, ThreadId.IsValid id := by
    intro id hid
    obtain ⟨e, he, rfl⟩ := EntryBatch.mem_threads.1 hid
    exact hvalid e he
  rcases s.append_cases batch with
    ⟨rfl, heq⟩ | ⟨fault, hfault, -⟩ | ⟨e, hfails, -⟩ | ⟨-, -, heq⟩
  · rw [heq]
    exact ⟨rfl, .refl s _⟩
  · obtain ⟨e, he, hinvalid⟩ := List.exists_of_findSome?_eq_some hfault
    rw [show ThreadId.fault? e.threadId = none from hvalid e he] at hinvalid
    cases hinvalid
  · rw [hdirectory] at hfails
    cases hfails
  · by_cases hempty : batch = []
    · subst hempty
      exact ⟨rfl, .refl s _⟩
    · have hstart : start = s.prepared := if_neg hempty
      obtain ⟨s', hloop, hgains⟩ := appendThreads_gains (s := s.prepared) batch hthreads
        (fun id _ => rfl) (EntryBatch.nodup_threads batch) []
      rw [heq, hloop]
      simp only [written, hstart]
      exact ⟨rfl, hgains⟩

/-- **A batch is an ordered prefix of writes to its threads.** If an id in the batch is not valid, the
batch is refused and nothing happens. Otherwise take the threads of the batch in the order in which
they come in it, up to the first one that cannot be written: be it that the disk does not allow it,
that something is in the way, or that the name is too long. The batch succeeds if and only if these
are all its threads, and if not the error names just them. Each of them has the lines of its own
entries, in the order of the batch, behind what its file had; no other file of a thread is touched,
and nothing else on the disk but the directory of the store, which is made if it is missing. -/
theorem batch_is_prefix_of_writes (s : DirectoryStore) (batch : List TranscriptEntry)
    (hdirectory : (s.tree.createDirectories s.directory).1 = .ok ()) :
    let start := if batch = [] then s else s.prepared
    let threads := EntryBatch.threads batch
    let written := threads.takeWhile start.canWrite
    let result := (s.append batch).1
    let after := (s.append batch).2
    ((∃ e ∈ batch, ¬ThreadId.IsValid e.threadId) →
      ∃ fault, result = .error (.invalidThreadId fault) ∧ after = s) ∧
    ((∀ e ∈ batch, ThreadId.IsValid e.threadId) →
      (result = .ok () ↔ written = threads) ∧
      (∀ e, result = .error e →
        e = (if written = [] then .storage else .partialAppend written .storage) ∧
          e.writtenThreads = written) ∧
      s.tree.AddsDirectories start.tree ∧ (s.IsMade → start = s) ∧
      start.Gains (EntryBatch.ofThread batch) written after ∧
      (∀ id, id ∉ written → after.read id = start.read id) ∧
      ∀ id ∈ written, ∀ text found, start.text? id = some text → TranscriptText.EndsLine text →
        start.read id = .ok found → (∀ e ∈ EntryBatch.ofThread batch id, e.IsStorable) →
          after.read id = .ok (found ++ EntryBatch.ofThread batch id)) := by
  intro start threads written result after
  constructor
  · rintro ⟨e, he, hinvalid⟩
    rcases s.append_cases batch with
      ⟨rfl, -⟩ | ⟨fault, -, heq⟩ | ⟨e', hfails, -⟩ | ⟨-, hvalid, -⟩
    · exact absurd he List.not_mem_nil
    · exact ⟨fault, congrArg Prod.fst heq, congrArg Prod.snd heq⟩
    · rw [hdirectory] at hfails
      cases hfails
    · exact absurd (hvalid e he) hinvalid
  · intro hvalid
    obtain ⟨hresult, hgains⟩ : result = (if written = threads then .ok ()
          else .error (EntryBatch.stopped written .storage)) ∧
        start.Gains (EntryBatch.ofThread batch) written after :=
      append_gains hdirectory hvalid
    have hthread : ∀ id ∈ written, ThreadId.IsValid id := by
      intro id hid
      obtain ⟨e, he, rfl⟩ := EntryBatch.mem_threads.1 ((List.takeWhile_sublist _).subset hid)
      exact hvalid e he
    obtain ⟨hok, herror⟩ := EntryBatch.result_of_written hresult
    refine ⟨hok, herror, ?_, ?_, hgains, fun id hnot => hgains.read_unchanged hnot, ?_⟩
    · by_cases hempty : batch = []
      · have hstart : start = s := if_pos hempty
        rw [hstart]
        exact FileTree.AddsDirectories.refl s.tree
      · have hstart : start = s.prepared := if_neg hempty
        rw [hstart]
        exact s.tree.addsDirectories_createDirectories s.directory
    · intro hmade
      by_cases hempty : batch = []
      · exact if_pos hempty
      · exact (if_neg hempty).trans hmade.prepared_eq
    · intro id hid text found htext hends hfound hstorable
      exact hgains.read_written (hthread id hid) hid htext hends hfound hstorable

/-- A store with a thread that has an entry and cannot be written. -/
def guardedSample : DirectoryStore where
  directory := "data"
  tree :=
    { nodes := Table.ofPairs
        [(["data"], .directory),
          (["data", "b.jsonl"],
            .file (.text (TranscriptText.encode [⟨"then", "b", .server, .string "old"⟩])))]
      readOnly := [["data", "b.jsonl"]] }

/-- A batch that mixes three threads. -/
def mixedBatch : List TranscriptEntry :=
  [⟨"now", "a", .server, .string "1"⟩, ⟨"now", "b", .server, .string "2"⟩,
    ⟨"now", "a", .client, .string "3"⟩, ⟨"now", "c", .server, .string "4"⟩]

/-- Of the three threads the first one is written, and has both its entries; the second one keeps what
it had, and the third one is not reached although it could be written. -/
theorem batch_is_prefix_of_writes_sample :
    let start := if mixedBatch = [] then guardedSample else guardedSample.prepared
    let after := (guardedSample.append mixedBatch).2
    (guardedSample.tree.createDirectories guardedSample.directory).1 = .ok () ∧
      (∀ e ∈ mixedBatch, ThreadId.IsValid e.threadId) ∧
      (EntryBatch.threads mixedBatch).filter start.canWrite = ["a", "c"] ∧
      (guardedSample.append mixedBatch).1 = .error (.partialAppend ["a"] .storage) ∧
      after.read "a"
        = .ok [⟨"now", "a", .server, .string "1"⟩, ⟨"now", "a", .client, .string "3"⟩] ∧
      after.read "b" = start.read "b" ∧ after.read "c" = start.read "c" := by
  intro start after
  have hdirectory : (guardedSample.tree.createDirectories guardedSample.directory).1 = .ok () := rfl
  have hvalid : ∀ e ∈ mixedBatch, ThreadId.IsValid e.threadId := by decide +kernel
  have hwritten : (EntryBatch.threads mixedBatch).takeWhile start.canWrite = ["a"] := by
    decide +kernel
  have htext : start.text? "a" = some "" := by decide +kernel
  have hstorable : ∀ e ∈ EntryBatch.ofThread mixedBatch "a", e.IsStorable := by decide +kernel
  have hfound : start.read "a" = .ok [] := by
    rw [read_eq (by decide +kernel) htext]
    rfl
  obtain ⟨hok, herror, -, -, -, hothers, hread⟩ :=
    (batch_is_prefix_of_writes guardedSample mixedBatch hdirectory).2 hvalid
  rw [hwritten] at hok herror hothers hread
  refine ⟨hdirectory, hvalid, by decide +kernel, ?_, ?_, ?_, ?_⟩
  · cases hresult : (guardedSample.append mixedBatch).1 with
    | ok done => exact absurd (hok.1 hresult) (by decide +kernel)
    | error e => rw [(herror e hresult).1, if_neg (List.cons_ne_nil _ _)]
  · exact hread "a" (List.mem_singleton_self _) "" [] htext (.inl rfl) hfound hstorable
  · exact hothers "b" (by decide)
  · exact hothers "c" (by decide)

end DirectoryStore

end AgentFeed
