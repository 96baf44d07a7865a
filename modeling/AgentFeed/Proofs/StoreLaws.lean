import AgentFeed.Proofs.Table
import AgentFeed.Transcript.Memory
import Mathlib.Data.List.Nodup

/-!
# What a transcript store promises

A store may refuse a thread at any time and for any reason of its own. `LawfulStore` says what it
promises all the same: it appends the entries of each thread in batch order, all of them or none,
its error names the threads it wrote, and among those it does not name is one of the batch. A thread
that was deleted has no entries left.

Two stores are shown to keep the promise: any that writes a batch thread by thread, one write being
all or nothing (`EntryBatch.appendThreads_promise`), and the store in memory, whichever threads are
blocked.
-/

namespace AgentFeed

/-! ## 1. Batches -/

namespace EntryBatch

variable {batch : List TranscriptEntry} {threadId : String}

theorem ofThread_append (first second : List TranscriptEntry) (threadId : String) :
    ofThread (first ++ second) threadId = ofThread first threadId ++ ofThread second threadId :=
  List.filter_append first second

theorem ofThread_eq_self (h : ∀ e ∈ batch, e.threadId = threadId) :
    ofThread batch threadId = batch :=
  List.filter_eq_self.2 fun e he => decide_eq_true (h e he)

theorem ofThread_eq_nil (h : ∀ e ∈ batch, e.threadId ≠ threadId) :
    ofThread batch threadId = [] :=
  List.filter_eq_nil_iff.2 fun e he heq => h e he (of_decide_eq_true heq)

theorem threadId_of_mem_ofThread {e : TranscriptEntry} (h : e ∈ ofThread batch threadId) :
    e.threadId = threadId :=
  of_decide_eq_true (List.mem_filter.1 h).2

/-- What is left of a thread in a batch without some threads. -/
theorem ofThread_without (batch : List TranscriptEntry) (threads : List String)
    (threadId : String) :
    ofThread (without batch threads) threadId
      = if threadId ∈ threads then [] else ofThread batch threadId := by
  rw [ofThread, ofThread, without, List.filter_filter]
  split
  · next hmem =>
    rw [List.filter_eq_nil_iff]
    intro e _ hand
    rw [Bool.and_eq_true, decide_eq_true_eq, Bool.not_eq_true'] at hand
    rw [hand.1, List.contains_eq_mem, decide_eq_false_iff_not] at hand
    exact hand.2 hmem
  · next hmem =>
    refine List.filter_congr fun e _ => ?_
    by_cases heq : e.threadId = threadId
    · simp [heq, hmem]
    · simp [heq]

theorem mem_threads : threadId ∈ threads batch ↔ ∃ e ∈ batch, e.threadId = threadId := by
  rw [threads, List.mem_eraseDups, List.mem_map]

end EntryBatch

/-! ## 2. The laws -/

/-- A store that appends thread by thread and says what it wrote when it fails. -/
class LawfulStore (σ : Type) [TranscriptStore σ] where
  /-- The entries of a thread that are stored, whether or not they can be read just now. -/
  entries : σ → String → List TranscriptEntry
  /-- What is read is what is stored. -/
  read_ok : ∀ {store : σ} {threadId : String} {found : List TranscriptEntry},
    TranscriptStore.read store threadId = .ok found → found = entries store threadId
  /-- A batch that was appended is behind what was stored before, thread by thread. -/
  append_ok : ∀ {store store' : σ} {batch : List TranscriptEntry},
    TranscriptStore.append store batch = (.ok (), store') → ∀ threadId,
      entries store' threadId = entries store threadId ++ EntryBatch.ofThread batch threadId
  /-- Of a batch that failed, just the threads that the error names were appended. -/
  append_error : ∀ {store store' : σ} {batch : List TranscriptEntry} {e : TranscriptError},
    TranscriptStore.append store batch = (.error e, store') → ∀ threadId,
      entries store' threadId = entries store threadId
        ++ if threadId ∈ e.writtenThreads then EntryBatch.ofThread batch threadId else []
  /-- A batch fails at one of its threads. -/
  append_fails : ∀ {store store' : σ} {batch : List TranscriptEntry} {e : TranscriptError},
    TranscriptStore.append store batch = (.error e, store') → batch ≠ [] →
      ∃ entry ∈ batch, entry.threadId ∉ e.writtenThreads
  /-- A thread that was deleted has no entries, and the others have theirs. -/
  delete_ok : ∀ {store store' : σ} {threadId : String},
    TranscriptStore.delete store threadId = (.ok (), store') → ∀ other,
      entries store' other = if other = threadId then [] else entries store other

/-- If a batch of one thread fails at one of its threads, nothing of it is said to be written. -/
theorem EntryBatch.written_of_single {batch : List TranscriptEntry} {written : List String}
    (hfails : batch ≠ [] → ∃ entry ∈ batch, entry.threadId ∉ written) {threadId : String}
    (hbatch : ∀ entry ∈ batch, entry.threadId = threadId) (other : String) :
    (if other ∈ written then ofThread batch other else []) = [] := by
  split
  · next hwritten =>
    -- The thread that failed is not the one written, so this one has nothing in the batch.
    refine ofThread_eq_nil ?_
    rintro entry hentry rfl
    obtain ⟨failed, hfailed, hnot⟩ := hfails (List.ne_nil_of_mem hentry)
    rw [hbatch failed hfailed, ← hbatch entry hentry] at hnot
    exact hnot hwritten
  · rfl

/-- A store that fails at the only thread of a batch has appended nothing. -/
theorem LawfulStore.append_error_single {σ : Type} [TranscriptStore σ] [LawfulStore σ]
    {store store' : σ} {batch : List TranscriptEntry} {e : TranscriptError}
    (happend : TranscriptStore.append store batch = (.error e, store')) {threadId : String}
    (hbatch : ∀ entry ∈ batch, entry.threadId = threadId) (other : String) :
    entries store' other = entries store other := by
  rw [append_error happend, EntryBatch.written_of_single (append_fails happend) hbatch,
    List.append_nil]

/-! ## 3. Thread by thread -/

/-- Writing a thread appends to it and leaves the others alone, or fails and names no thread. What a
store holds is a relation here, as there may be threads that hold no entries and cannot be read. -/
structure AtomicWrite {σ : Type} (holds : σ → String → List TranscriptEntry → Prop)
    (write : σ → String → List TranscriptEntry → Except TranscriptError σ) (threadId : String) :
    Prop where
  /-- A thread that was written has the new entries behind its old ones. -/
  ok : ∀ {store store' : σ} {new : List TranscriptEntry}, write store threadId new = .ok store' →
    ∀ other found, holds store other found →
      holds store' other (found ++ if other = threadId then new else [])
  /-- Whoever fails to write one thread has not written another. -/
  error : ∀ {store : σ} {new : List TranscriptEntry} {e : TranscriptError},
    write store threadId new = .error e → e.writtenThreads = []

namespace EntryBatch

theorem nodup_threads (batch : List TranscriptEntry) : (threads batch).Nodup := by
  have hall : ∀ (n : Nat) (ids : List String), ids.length ≤ n → ids.eraseDups.Nodup := by
    intro n
    induction n with
    | zero =>
      intro ids hlength
      rw [List.length_eq_zero_iff.1 (Nat.le_zero.1 hlength)]
      exact List.nodup_nil
    | succ n ih =>
      intro ids hlength
      cases ids with
      | nil => exact List.nodup_nil
      | cons id rest =>
        rw [List.eraseDups_cons, List.nodup_cons, List.mem_eraseDups]
        refine ⟨by simp, ih _ ?_⟩
        exact (List.length_filter_le _ rest).trans (Nat.le_of_succ_le_succ hlength)
  exact hall _ _ (Nat.le_refl _)

theorem writtenThreads_stopped {source : TranscriptError} (h : source.writtenThreads = [])
    (written : List String) : (stopped written source).writtenThreads = written := by
  rw [stopped]
  split
  · next hnil => rw [h, hnil]
  · rfl

/-- A batch that stops when some threads are written succeeds if these are all, and its error names
them if not. -/
theorem result_of_written {threads written : List String}
    {result : Except TranscriptError Unit}
    (h : result = if written = threads then .ok () else .error (stopped written .storage)) :
    (result = .ok () ↔ written = threads) ∧
      ∀ e, result = .error e →
        e = (if written = [] then .storage else .partialAppend written .storage) ∧
          e.writtenThreads = written := by
  by_cases hall : written = threads
  · rw [if_pos hall] at h
    subst h
    exact ⟨iff_of_true rfl hall, fun e he => by cases he⟩
  · rw [if_neg hall] at h
    subst h
    refine ⟨iff_of_false (fun heq => by cases heq) hall, fun e he => ?_⟩
    obtain rfl := Except.error.inj he
    exact ⟨rfl, writtenThreads_stopped rfl written⟩

section AppendThreads

variable {σ : Type} {holds : σ → String → List TranscriptEntry → Prop}
  {write : σ → String → List TranscriptEntry → Except TranscriptError σ}
  {batch : List TranscriptEntry} {threadIds : List String}

/-- Which threads a loop over some threads has written: all of them, or those before the one that
failed. -/
theorem appendThreads_cases (hwrite : ∀ threadId ∈ threadIds, AtomicWrite holds write threadId)
    (hnodup : threadIds.Nodup) (written : List String) (store : σ) :
    (∃ store', appendThreads write batch written store threadIds = (.ok (), store') ∧
      ∀ other found, holds store other found →
        holds store' other (found ++ if other ∈ threadIds then ofThread batch other else [])) ∨
    ∃ e store' before failed after,
      appendThreads write batch written store threadIds = (.error e, store') ∧
        threadIds = before ++ failed :: after ∧ e.writtenThreads = written ++ before ∧
        ∀ other found, holds store other found →
          holds store' other (found ++ if other ∈ before then ofThread batch other else []) := by
  induction threadIds generalizing written store with
  | nil =>
    refine .inl ⟨store, rfl, fun other found hfound => ?_⟩
    rw [if_neg List.not_mem_nil, List.append_nil]
    exact hfound
  | cons threadId rest ih =>
    obtain ⟨hfirst, hrest⟩ := List.nodup_cons.1 hnodup
    obtain ⟨hthis, hothers⟩ := List.forall_mem_cons.1 hwrite
    rw [appendThreads]
    cases hresult : write store threadId (ofThread batch threadId) with
    | error source =>
      refine .inr ⟨_, store, [], threadId, rest, rfl, rfl, ?_, fun other found hfound => ?_⟩
      · rw [writtenThreads_stopped (hthis.error hresult), List.append_nil]
      · rw [if_neg List.not_mem_nil, List.append_nil]
        exact hfound
    | ok next =>
      -- What the rest of the loop does comes on top of the first thread, which it leaves alone.
      have hstep : ∀ (store' : σ) (others : List String), threadId ∉ others →
          (∀ other found, holds next other found →
            holds store' other (found ++ if other ∈ others then ofThread batch other else [])) →
          ∀ other found, holds store other found →
            holds store' other
              (found ++ if other ∈ threadId :: others then ofThread batch other else []) := by
        intro store' others hnot hloop other found hfound
        have hnext := hloop other _ (hthis.ok hresult other found hfound)
        by_cases heq : other = threadId
        · rw [if_pos heq, heq, if_neg hnot, List.append_nil] at hnext
          rw [heq, if_pos List.mem_cons_self]
          exact hnext
        · rw [if_neg heq, List.append_nil] at hnext
          simp only [List.mem_cons, or_iff_right heq]
          exact hnext
      rcases ih hothers hrest (written ++ [threadId]) next with
        ⟨store', hloop, hholds⟩ | ⟨e, store', before, failed, after, hloop, hsplit, he, hholds⟩
      · exact .inl ⟨store', hloop, hstep store' rest hfirst hholds⟩
      · have hbefore : threadId ∉ before := by
          rw [hsplit] at hfirst
          exact fun hmem => hfirst (List.mem_append_left _ hmem)
        refine .inr ⟨e, store', threadId :: before, failed, after, hloop, ?_, ?_, ?_⟩
        · rw [hsplit]
          rfl
        · rw [he, List.append_assoc]
          rfl
        · exact hstep store' before hbefore hholds

/-- **Writing a batch thread by thread keeps the promise of a store**, if one write is all or
nothing: a batch is appended, or the threads before the one that failed are, and the error names
them. -/
theorem appendThreads_promise
    (hwrite : ∀ threadId ∈ threads batch, AtomicWrite holds write threadId) (store : σ) :
    (∃ store', appendThreads write batch [] store (threads batch) = (.ok (), store') ∧
      ∀ other found, holds store other found →
        holds store' other (found ++ ofThread batch other)) ∨
    ∃ e store', appendThreads write batch [] store (threads batch) = (.error e, store') ∧
      (∀ other found, holds store other found →
        holds store' other
          (found ++ if other ∈ e.writtenThreads then ofThread batch other else [])) ∧
      ∃ entry ∈ batch, entry.threadId ∉ e.writtenThreads := by
  rcases appendThreads_cases hwrite (nodup_threads batch) [] store with
    ⟨store', hloop, hholds⟩ | ⟨e, store', before, failed, after, hloop, hsplit, he, hholds⟩
  · refine .inl ⟨store', hloop, fun other found hfound => ?_⟩
    have hnow := hholds other found hfound
    split at hnow
    · exact hnow
    · next hnot =>
      rw [ofThread_eq_nil]
      · exact hnow
      · exact fun entry hentry heq => hnot (mem_threads.2 ⟨entry, hentry, heq⟩)
  · rw [List.nil_append] at he
    obtain ⟨entry, hentry, hfailed⟩ : ∃ entry ∈ batch, entry.threadId = failed := by
      rw [← mem_threads, hsplit]
      exact List.mem_append_right _ List.mem_cons_self
    have hnodup := nodup_threads batch
    rw [hsplit, List.nodup_middle, List.nodup_cons] at hnodup
    refine .inr ⟨e, store', hloop, he ▸ hholds, entry, hentry, ?_⟩
    rw [he, hfailed]
    exact fun hmem => hnodup.1 (List.mem_append_left _ hmem)

end AppendThreads

end EntryBatch

/-! ## 4. The store in memory -/

namespace MemoryStore

theorem entries_add (s : MemoryStore) (e : TranscriptEntry) (threadId : String) :
    (s.add e).entries threadId = s.entries threadId ++ EntryBatch.ofThread [e] threadId := by
  rw [add, entries, entries, Table.get?_insert]
  by_cases h : e.threadId = threadId
  · rw [if_pos h, EntryBatch.ofThread_eq_self (by simpa using h), ← h]
    rfl
  · rw [if_neg h, EntryBatch.ofThread_eq_nil (by simpa using h), List.append_nil]
    rfl

theorem entries_foldl_add (s : MemoryStore) (batch : List TranscriptEntry) (threadId : String) :
    (batch.foldl add s).entries threadId
      = s.entries threadId ++ EntryBatch.ofThread batch threadId := by
  induction batch generalizing s with
  | nil => exact (List.append_nil _).symm
  | cons e rest ih =>
    rw [List.foldl_cons, ih, entries_add, List.append_assoc, ← EntryBatch.ofThread_append]
    rfl

theorem mem_reachable {s : MemoryStore} {batch : List TranscriptEntry} {threadId : String} :
    threadId ∈ s.reachable batch ↔
      (∃ e ∈ batch, e.threadId = threadId) ∧ threadId ∉ s.blocked := by
  rw [reachable, Table.mem_keys, Table.contains_ofPairs, ← EntryBatch.mem_threads]
  simp only [List.mem_map, List.mem_filter, Prod.mk.injEq, Bool.not_eq_true', List.contains_eq_mem,
    decide_eq_false_iff_not]
  constructor
  · rintro ⟨-, other, hmem, rfl, -⟩
    exact hmem
  · intro hmem
    exact ⟨(), threadId, hmem, rfl, trivial⟩

theorem append_cases {s s' : MemoryStore} {batch : List TranscriptEntry}
    {result : Except TranscriptError Unit} (h : s.append batch = (result, s')) :
    (∃ fault, result = .error (.invalidThreadId fault) ∧ s' = s) ∨
      s' = (EntryBatch.without batch s.blocked).foldl add s ∧
        (result = .ok () ∧ (∀ e ∈ batch, e.threadId ∉ s.blocked) ∨
          result = .error (EntryBatch.stopped (s.reachable batch) .storage) ∧
            ∃ e ∈ batch, e.threadId ∈ s.blocked) := by
  rw [append] at h
  cases hfault : EntryBatch.idFault? batch with
  | some fault =>
    rw [hfault] at h
    obtain ⟨rfl, rfl⟩ := Prod.mk.inj h
    exact .inl ⟨fault, rfl, rfl⟩
  | none =>
    rw [hfault] at h
    dsimp only at h
    by_cases hany : (batch.any fun e => s.blocked.contains e.threadId) = true
    · rw [if_pos hany] at h
      obtain ⟨rfl, rfl⟩ := Prod.mk.inj h
      refine .inr ⟨rfl, .inr ⟨rfl, ?_⟩⟩
      simpa using hany
    · rw [if_neg hany] at h
      obtain ⟨rfl, rfl⟩ := Prod.mk.inj h
      refine .inr ⟨rfl, .inl ⟨rfl, ?_⟩⟩
      simpa using hany

instance : LawfulStore MemoryStore where
  entries := entries
  read_ok {store threadId found} h := by
    simp only [TranscriptStore.read, read] at h
    cases hcheck : store.check threadId with
    | error e =>
      rw [hcheck] at h
      cases h
    | ok done =>
      rw [hcheck] at h
      exact (Except.ok.inj h).symm
  append_ok {store store' batch} h threadId := by
    rcases append_cases h with ⟨fault, hresult, -⟩ | ⟨rfl, ⟨-, hfree⟩ | ⟨hresult, -⟩⟩
    · cases hresult
    · rw [entries_foldl_add, EntryBatch.ofThread_without]
      split
      · next hblocked =>
        -- Nothing of a blocked thread is in a batch that was appended.
        rw [EntryBatch.ofThread_eq_nil]
        rintro e he rfl
        exact hfree e he hblocked
      · rfl
    · cases hresult
  append_error {store store' batch e} h threadId := by
    rcases append_cases h with ⟨fault, hresult, rfl⟩ | ⟨rfl, ⟨hresult, -⟩ | ⟨hresult, -⟩⟩
    · cases hresult
      exact (List.append_nil _).symm
    · cases hresult
    · obtain rfl := Except.error.inj hresult
      rw [entries_foldl_add, EntryBatch.ofThread_without, EntryBatch.writtenThreads_stopped rfl]
      by_cases hblocked : threadId ∈ store.blocked
      · rw [if_pos hblocked, if_neg fun hmem => (mem_reachable.1 hmem).2 hblocked]
      · rw [if_neg hblocked]
        split
        · rfl
        · next hnot =>
          rw [EntryBatch.ofThread_eq_nil]
          rintro e he rfl
          exact hnot (mem_reachable.2 ⟨⟨e, he, rfl⟩, hblocked⟩)
  append_fails {store store' batch e} h hbatch := by
    rcases append_cases h with
      ⟨fault, hresult, -⟩ | ⟨-, ⟨hresult, -⟩ | ⟨hresult, entry, hentry, hin⟩⟩
    · cases hresult
      exact ⟨batch.head hbatch, List.head_mem hbatch, List.not_mem_nil⟩
    · cases hresult
    · obtain rfl := Except.error.inj hresult
      refine ⟨entry, hentry, ?_⟩
      rw [EntryBatch.writtenThreads_stopped rfl]
      exact fun hmem => (mem_reachable.1 hmem).2 hin
  delete_ok {store store' threadId} h other := by
    simp only [TranscriptStore.delete, delete] at h
    cases hcheck : store.check threadId with
    | error e =>
      rw [hcheck] at h
      cases h
    | ok done =>
      rw [hcheck] at h
      obtain rfl := (Prod.mk.inj h).2
      rw [entries, entries, Table.get?_erase]
      by_cases heq : other = threadId
      · rw [if_pos heq, if_pos heq.symm]
        rfl
      · rw [if_neg heq, if_neg (Ne.symm heq)]

/-- Whether a thread can be reached makes no difference to what is stored. -/
theorem entries_block (s : MemoryStore) (threadId other : String) :
    LawfulStore.entries (s.block threadId).2 other = LawfulStore.entries s other := rfl

theorem entries_unblock (s : MemoryStore) (threadId other : String) :
    LawfulStore.entries (s.unblock threadId).2 other = LawfulStore.entries s other := rfl

end MemoryStore

end AgentFeed
