import AgentFeed.Proofs.DirectoryFiles

/-!
# Transcripts are read back

What was written to a transcript is what is read: the text of entries denotes the entries, and a
directory store gives of every thread the entries that were appended to it, batch after batch.

A batch may fail, and then it may have been written for some threads and not for others. Its result
says for which (`EntryBatch.added`), and going by the results of all batches one gets just what is
read (`DirectoryStore.addedBy`).
-/

namespace AgentFeed.DirectoryStore

/-! ## 1. Batch after batch -/

/-- The store after batches, whatever became of each. -/
def appendAll (s : DirectoryStore) (batches : List (List TranscriptEntry)) : DirectoryStore :=
  batches.foldl (fun store batch => (store.append batch).2) s

/-- The entries of a thread that batches added, going by their results. -/
def addedBy (s : DirectoryStore) (threadId : String) :
    List (List TranscriptEntry) → List TranscriptEntry
  | [] => []
  | batch :: rest =>
    EntryBatch.added (s.append batch).1 batch threadId ++ (s.append batch).2.addedBy threadId rest

/-- No batch fails. -/
def AppendsAll (s : DirectoryStore) : List (List TranscriptEntry) → Prop
  | [] => True
  | batch :: rest => (s.append batch).1 = .ok () ∧ (s.append batch).2.AppendsAll rest

variable {s : DirectoryStore} {threadId : String}

/-- **A run of batches adds to a thread what their results say.** -/
theorem Keeps.appendAll {before : String} {found : List TranscriptEntry}
    (h : Keeps before s threadId found) (batches : List (List TranscriptEntry)) :
    Keeps before (s.appendAll batches) threadId (found ++ s.addedBy threadId batches) := by
  induction batches generalizing s found with
  | nil =>
    rw [addedBy, List.append_nil]
    exact h
  | cons batch rest ih =>
    rw [addedBy, ← List.append_assoc]
    exact ih (h.append batch)

/-- Nothing is added but entries of the thread in the batches. -/
theorem mem_addedBy {batches : List (List TranscriptEntry)} {e : TranscriptEntry}
    (h : e ∈ s.addedBy threadId batches) : ∃ batch ∈ batches, e ∈ batch ∧ e.threadId = threadId := by
  induction batches generalizing s with
  | nil => exact absurd h List.not_mem_nil
  | cons batch rest ih =>
    rw [addedBy, List.mem_append] at h
    rcases h with hbatch | hrest
    · have hthread := EntryBatch.mem_ofThread_of_mem_added hbatch
      exact ⟨batch, List.mem_cons_self, (List.mem_filter.1 hthread).1,
        EntryBatch.threadId_of_mem_ofThread hthread⟩
    · obtain ⟨other, hother, hmem⟩ := ih hrest
      exact ⟨other, List.mem_cons_of_mem _ hother, hmem⟩

/-- When no batch fails, all entries of the thread are added. -/
theorem AppendsAll.addedBy_eq {batches : List (List TranscriptEntry)} (h : s.AppendsAll batches) :
    s.addedBy threadId batches = EntryBatch.ofThread batches.flatten threadId := by
  induction batches generalizing s with
  | nil => rfl
  | cons batch rest ih =>
    obtain ⟨hbatch, hrest⟩ := h
    rw [addedBy, hbatch, ih hrest, List.flatten_cons, EntryBatch.ofThread_append]
    rfl

/-! ## 2. What is read -/

/-- **Transcripts are read back as they were written.** The text of entries denotes the entries, with
whatever time, thread and side, as long as their payloads could have been read from a text, hold no
doubles and are nested at most 126 levels.

Hence of a thread that starts with no entries, and to which only such entries are appended, a
directory store gives back the entries that were appended: those that the results of the batches
tell of, and if no batch failed, all of the thread, in order. -/
theorem transcripts_are_read_back :
    (∀ (path : String) (entries : List TranscriptEntry), (∀ e ∈ entries, e.IsStorable) →
      TranscriptText.parse path (TranscriptText.encode entries) = .ok entries) ∧
    ∀ (s : DirectoryStore) (threadId : String), s.prepared.read threadId = .ok [] →
      ∀ batches : List (List TranscriptEntry),
        (∀ batch ∈ batches, ∀ e ∈ batch, e.threadId = threadId → e.IsStorable) →
        (s.appendAll batches).read threadId = .ok (s.addedBy threadId batches) ∧
        (s.AppendsAll batches → (s.appendAll batches).read threadId
          = .ok (EntryBatch.ofThread batches.flatten threadId)) := by
  have hgood : ∀ (path : String) (number : Nat) (entries : List TranscriptEntry),
      (∀ e ∈ entries, e.IsStorable) →
        TranscriptText.outcome path number entries = .ok entries :=
    fun path number _ h => TranscriptText.outcome_of_fits path number fun e he => (h e he).depth_le
  refine ⟨fun path entries h => ?_, fun s threadId hempty batches h => ?_⟩
  · rw [TranscriptText.parse, Text.lines,
      TranscriptText.parseLines_encode path (fun e he => (h e he).toIsExact) 1 [] (by simp)]
    exact hgood path 1 entries h
  · obtain ⟨before, hbefore, hkeeps⟩ := Keeps.start hempty
    have hadded : ∀ e ∈ s.addedBy threadId batches, e.IsStorable := by
      intro e he
      obtain ⟨batch, hbatch, hmem, hthread⟩ := mem_addedBy he
      exact h batch hbatch e hmem hthread
    obtain ⟨number, hread⟩ := (hkeeps.appendAll batches).exists_read_eq hbefore
      fun e he => (hadded e he).toIsExact
    rw [List.nil_append, hgood _ number _ hadded] at hread
    exact ⟨hread, fun hall => hall.addedBy_eq ▸ hread⟩

/-- A payload with strings that have to be escaped, in a value of some depth. -/
def samplePayload : Json :=
  .object [("", .array [.null, .ofInt (-9223372036854775808), .ofInt 18446744073709551615]),
    ("line\n", .object [("\"quoted\\\"", .string "\x00\t é 😀"), ("true", .bool false)])]

/-- Two batches for two threads. -/
def sampleBatches : List (List TranscriptEntry) :=
  [[⟨"time-1", "thread", .server, samplePayload⟩, ⟨"time-2", "other", .client, .string "\x7b"⟩],
    [⟨"\n", "thread", .client, .array [.array [], .object []]⟩]]

/-- In the sample both entries of the first thread are read back, although one of them has a line
feed for a time. -/
theorem transcripts_are_read_back_sample :
    let found := EntryBatch.ofThread sampleBatches.flatten "thread"
    (∀ e ∈ found, e.IsStorable) ∧ found.map (·.ts) = ["time-1", "\n"] ∧
      TranscriptText.parse "text" (TranscriptText.encode found) = .ok found ∧
      sample.prepared.read "thread" = .ok [] ∧
      (∀ batch ∈ sampleBatches, ∀ e ∈ batch, e.threadId = "thread" → e.IsStorable) ∧
      sample.AppendsAll sampleBatches ∧
      (sample.appendAll sampleBatches).read "thread" = .ok found := by
  intro found
  have hstorable : ∀ e ∈ found, e.IsStorable := by decide +kernel
  have hthread : ∀ batch ∈ sampleBatches, ∀ e ∈ batch, e.threadId = "thread" → e.IsStorable := by
    decide +kernel
  have hall : sample.AppendsAll sampleBatches := by
    refine ⟨?_, ?_, trivial⟩
    all_goals decide +kernel
  obtain ⟨htext, hstore⟩ := transcripts_are_read_back
  exact ⟨hstorable, by decide +kernel, htext "text" found hstorable, read_sample.2,
    hthread, hall, (hstore sample "thread" read_sample.2 sampleBatches hthread).2 hall⟩

end AgentFeed.DirectoryStore
