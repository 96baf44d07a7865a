import AgentFeed.Proofs.BatchPrefix
import AgentFeed.Proofs.Conservation

/-!
# What a failing operation leaves behind

Sessions, or the traffic in them, are taken out of a registry before the store is asked. If the
store refuses, opening has taken nothing yet, writing puts back what was not written, and closing
puts back the session; the thread is as it was, but for traffic that has moved from the session to
the store (`LosesNothing`). Only a deletion does not look back: the session is gone before the store
is asked, so a transcript that could not be deleted is still there, and what was not yet written of
it is not.

Of the store this takes that it says what it has done (`FailsCleanly`), which holds of both stores.
What a store has of a thread is said by its content, as there is one even where no entries can be
read from it (`Holdings`).
-/

namespace AgentFeed

/-! ## 1. Stores that fail -/

/-- What a store has of its threads. -/
structure Holdings (σ κ : Type) where
  /-- The content of a thread, unless nothing can be written behind it. -/
  content? : σ → String → Option κ
  /-- A content with entries behind it. -/
  extend : κ → List TranscriptEntry → κ

namespace Holdings

variable {σ κ : Type} (has : Holdings σ κ)

/-- A store has gained entries of a thread: there are none, and the thread has what it had, or they
are behind that. -/
def Gained (store store' : σ) (threadId : String) (new : List TranscriptEntry) : Prop :=
  (new = [] ∧ has.content? store' threadId = has.content? store threadId) ∨
    ∃ old, has.content? store threadId = some old ∧
      has.content? store' threadId = some (has.extend old new)

/-- What a store promises of its failures. -/
structure FailsCleanly [TranscriptStore σ] : Prop where
  /-- Of a batch that failed, just the threads that the error names were appended. -/
  append_error : ∀ {store store' : σ} {batch : List TranscriptEntry} {e : TranscriptError},
    TranscriptStore.append store batch = (.error e, store') → ∀ threadId,
      has.Gained store store' threadId
        (if threadId ∈ e.writtenThreads then EntryBatch.ofThread batch threadId else [])
  /-- A batch fails at one of its threads. -/
  append_fails : ∀ {store store' : σ} {batch : List TranscriptEntry} {e : TranscriptError},
    TranscriptStore.append store batch = (.error e, store') → batch ≠ [] →
      ∃ entry ∈ batch, entry.threadId ∉ e.writtenThreads
  /-- A deletion that failed has deleted nothing. -/
  delete_error : ∀ {store store' : σ} {threadId : String} {e : TranscriptError},
    TranscriptStore.delete store threadId = (.error e, store') → ∀ other,
      has.content? store' other = has.content? store other

variable {has}

/-- A store that fails at the only thread of a batch has appended nothing. -/
theorem FailsCleanly.append_error_single [TranscriptStore σ] (h : has.FailsCleanly)
    {store store' : σ} {batch : List TranscriptEntry} {e : TranscriptError}
    (happend : TranscriptStore.append store batch = (.error e, store')) {threadId : String}
    (hbatch : ∀ entry ∈ batch, entry.threadId = threadId) (other : String) :
    has.Gained store store' other [] := by
  have hgained := h.append_error happend other
  rwa [EntryBatch.written_of_single (h.append_fails happend) hbatch] at hgained

end Holdings

namespace MemoryStore

/-- In memory there are the entries themselves, blocked or not. -/
def holdings : Holdings MemoryStore (List TranscriptEntry) where
  content? s threadId := some (s.entries threadId)
  extend := (· ++ ·)

theorem failsCleanly : holdings.FailsCleanly where
  append_error happend threadId :=
    .inr ⟨_, rfl, congrArg some (LawfulStore.append_error happend threadId)⟩
  append_fails := LawfulStore.append_fails
  delete_error {store store' threadId e} hdelete other := by
    simp only [TranscriptStore.delete, delete] at hdelete
    split at hdelete
    · rw [← (Prod.mk.inj hdelete).2]
    · cases hdelete

end MemoryStore

namespace DirectoryStore

variable {s s' : DirectoryStore}

/-- In a directory there are files, once it is made. -/
def holdings : Holdings DirectoryStore FileContent where
  content? s threadId :=
    if ThreadId.IsValid threadId then s.prepared.content? threadId else none
  extend content entries := content.appendText (TranscriptText.encode entries)

/-- A batch whose threads have been written one by one, up to one that could not be. -/
theorem Gains.gained {batch : List TranscriptEntry} {written : List String}
    (hmade : s.prepared.IsMade) (hvalid : ∀ id ∈ written, ThreadId.IsValid id)
    (h : s.prepared.Gains (EntryBatch.ofThread batch) written s') (threadId : String) :
    holdings.Gained s s' threadId
      (if threadId ∈ written then EntryBatch.ofThread batch threadId else []) := by
  have hprepared : s'.prepared = s' := (hmade.of_keepsDirectories h.directory h.keeps).prepared_eq
  by_cases hid : threadId ∈ written
  · obtain ⟨old, hold, hnew⟩ := h.written threadId hid
    rw [if_pos hid]
    refine .inr ⟨old, (if_pos (hvalid threadId hid)).trans hold, ?_⟩
    refine (if_pos (hvalid threadId hid)).trans ?_
    rw [hprepared, content?, hnew]
    rfl
  · rw [if_neg hid]
    refine .inl ⟨rfl, ?_⟩
    simp only [holdings]
    split
    · next hthread => rw [hprepared, h.content?_unchanged hthread hid]
    · rfl

/-- A batch that fails has written nothing, or some threads before the one that could not be. -/
theorem append_error_cases {batch : List TranscriptEntry} {e : TranscriptError}
    (happend : s.append batch = (.error e, s')) :
    (e.writtenThreads = [] ∧ s'.prepared = s.prepared) ∨
      s.prepared.IsMade ∧ (∀ id ∈ e.writtenThreads, ThreadId.IsValid id) ∧
        s.prepared.Gains (EntryBatch.ofThread batch) e.writtenThreads s' ∧
        ∃ entry ∈ batch, entry.threadId ∉ e.writtenThreads := by
  rcases s.append_cases batch with
    ⟨-, heq⟩ | ⟨fault, -, heq⟩ | ⟨e', -, heq⟩ | ⟨hmade, hvalid, heq⟩
  · cases heq.symm.trans happend
  · obtain ⟨he, rfl⟩ := Prod.mk.inj (heq.symm.trans happend)
    exact .inl ⟨Except.error.inj he ▸ rfl, rfl⟩
  · obtain ⟨he, rfl⟩ := Prod.mk.inj (heq.symm.trans happend)
    exact .inl ⟨Except.error.inj he ▸ rfl, s.prepared_prepared⟩
  · have hthreads : ∀ id ∈ EntryBatch.threads batch, ThreadId.IsValid id := by
      intro id hid
      obtain ⟨entry, hentry, rfl⟩ := EntryBatch.mem_threads.1 hid
      exact hvalid entry hentry
    obtain ⟨_, hloop, hgains⟩ := appendThreads_gains (s := s.prepared) batch hthreads
      (fun _ _ => rfl) (EntryBatch.nodup_threads batch) []
    obtain ⟨hresult, rfl⟩ := Prod.mk.inj ((heq.trans hloop).symm.trans happend)
    obtain ⟨hok, herror⟩ := EntryBatch.result_of_written hresult.symm
    rw [(herror e rfl).2]
    have hstops : ¬∀ id ∈ EntryBatch.threads batch, s.prepared.canWrite id = true := by
      rw [← List.takeWhile_eq_self_iff, ← hok]
      intro hsame
      cases hsame
    obtain ⟨id, hid, hnot⟩ := not_forall₂.1 hstops
    obtain ⟨entry, hentry, rfl⟩ := EntryBatch.mem_threads.1 hid
    refine .inr ⟨isMade_prepared hmade, fun other hother => ?_, hgains, entry, hentry, ?_⟩
    · exact hthreads other ((List.takeWhile_sublist _).subset hother)
    · exact fun hmem => hnot (List.mem_takeWhile_imp hmem)

theorem failsCleanly : holdings.FailsCleanly where
  append_error {store store' batch e} happend threadId := by
    rcases append_error_cases happend with ⟨hnone, hsame⟩ | ⟨hmade, hvalid, hgains, -⟩
    · rw [hnone, if_neg List.not_mem_nil]
      refine .inl ⟨rfl, ?_⟩
      simp only [holdings, hsame]
    · exact hgains.gained hmade hvalid threadId
  append_fails {store store' batch e} happend hbatch := by
    rcases append_error_cases happend with ⟨hnone, -⟩ | ⟨-, -, -, hfails⟩
    · exact ⟨batch.head hbatch, List.head_mem hbatch, hnone ▸ List.not_mem_nil⟩
    · exact hfails
  delete_error {store store' threadId e} hdelete other := by
    have hsame : store' = store := by
      simp only [TranscriptStore.delete, delete] at hdelete
      cases hpath : store.checkedPath threadId with
      | error fault =>
        rw [hpath] at hdelete
        exact (Prod.mk.inj hdelete).2.symm
      | ok path =>
        rw [hpath] at hdelete
        dsimp only at hdelete
        split at hdelete
        · cases hdelete
        · cases hdelete
        · exact (Prod.mk.inj hdelete).2.symm
    rw [hsame]

end DirectoryStore

/-! ## 2. Operations that fail -/

namespace RegistryEvent

variable {σ : Type} [TranscriptStore σ]

/-- Whether an operation of the registry returns an error. -/
def fails (r : Registry σ) : RegistryEvent σ → Bool
  | .openThread threadId => !(r.openThread threadId).1.isOk
  | .session _ _ => false
  | .flush => !r.flush.1.isOk
  | .teardown threadId => !(r.teardown threadId).1.isOk
  | .delete threadId => !(r.delete threadId).1.isOk
  | .outside _ => false

end RegistryEvent

namespace Registry

variable {σ : Type} [TranscriptStore σ] {r : Registry σ} {threadId : String}

/-- A thread that could not be opened has left no trace. -/
theorem openThread_of_fails (h : (RegistryEvent.openThread threadId).fails r = true) :
    (r.openThread threadId).2 = r := by
  rw [RegistryEvent.fails, openThread] at h
  rw [openThread]
  cases hget : r.get? threadId with
  | some s => rfl
  | none =>
    cases hread : TranscriptStore.read r.store threadId with
    | error e => rfl
    | ok entries =>
      rw [hget] at h
      dsimp only at h
      rw [hread] at h
      cases h

/-- Traffic could not be written: what the store did not write is in the sessions. -/
theorem flush_of_fails (h : RegistryEvent.flush.fails r = true) :
    ∃ e store, TranscriptStore.append r.store r.allPending = (.error e, store) ∧
      r.flush.2 = { r with
        store
        sessions := r.sessions.map fun (id, s) => (id, s.takePending.2.requeue
          (EntryBatch.ofThread (EntryBatch.without r.allPending e.writtenThreads) id)) } := by
  rw [RegistryEvent.fails] at h
  rcases r.flush_cases with ⟨-, heq⟩ | ⟨store, -, heq⟩ | ⟨e, store, happend, heq⟩
  · rw [heq] at h
    cases h
  · rw [heq] at h
    cases h
  · exact ⟨e, store, happend, congrArg Prod.snd heq⟩

/-- A thread that could not be closed is open as before. -/
theorem teardown_of_fails (h : (RegistryEvent.teardown threadId).fails r = true) :
    ∃ s e store, r.get? threadId = some s ∧
      TranscriptStore.append r.store s.pending = (.error e, store) ∧
      (r.teardown threadId).2 = { r with
        store
        sessions := r.sessions.insert threadId { s with pending := s.pending ++ [] } } := by
  rw [RegistryEvent.fails, teardown] at h
  rw [teardown]
  cases hget : r.get? threadId with
  | none =>
    rw [hget] at h
    cases h
  | some s =>
    rw [hget] at h
    simp only [ThreadSession.takePending] at h ⊢
    rcases happend : TranscriptStore.append r.store s.pending with ⟨e | done, store⟩
    · exact ⟨s, e, store, rfl, happend, rfl⟩
    · rw [happend] at h
      cases h

/-! ## 3. What is kept -/

section LosesNothing

variable {κ : Type} {has : Holdings σ κ}

/-- Nothing of a thread is lost between two registries. -/
structure LosesNothing (has : Holdings σ κ) (r r' : Registry σ) (threadId : String) : Prop where
  /-- The thread is open if it was, and its session is the same but for the traffic in it. -/
  session : (r'.get? threadId).map (·.takePending.2) = (r.get? threadId).map (·.takePending.2)
  /-- What was pending is pending, or it has moved to the store. -/
  entries : ∃ moved, moved ++ r'.pendingOf threadId = r.pendingOf threadId ∧
    has.Gained r.store r'.store threadId moved

omit [TranscriptStore σ] in
/-- A thread that is left alone by the registry and by the store loses nothing. -/
theorem LosesNothing.of_get? {r' : Registry σ} (hget : r'.get? threadId = r.get? threadId)
    (hstored : has.content? r'.store threadId = has.content? r.store threadId) :
    LosesNothing has r r' threadId where
  session := congrArg _ hget
  entries := by
    refine ⟨[], ?_, .inl ⟨rfl, hstored⟩⟩
    rw [List.nil_append, pendingOf, hget, pendingOf]

theorem losesNothing_flush (hstore : has.FailsCleanly) (htidy : r.Tidy)
    (hfails : RegistryEvent.flush.fails r = true) (threadId : String) :
    LosesNothing has r r.flush.2 threadId := by
  obtain ⟨e, store, happend, heq⟩ := flush_of_fails hfails
  rw [heq]
  constructor
  · rw [get?, Table.get?_map fun id (s : ThreadSession) => s.takePending.2.requeue
      (EntryBatch.ofThread (EntryBatch.without r.allPending e.writtenThreads) id), Option.map_map]
    rfl
  · refine ⟨_, ?_, hstore.append_error happend threadId⟩
    -- Traffic is on one side or on the other, never on both.
    rw [htidy.pendingOf_requeued rfl, htidy.ofThread_allPending]
    split
    · exact List.append_nil _
    · exact List.nil_append _

theorem losesNothing_teardown (hstore : has.FailsCleanly) (htidy : r.Tidy)
    (hfails : (RegistryEvent.teardown threadId).fails r = true) (other : String) :
    LosesNothing has r (r.teardown threadId).2 other := by
  obtain ⟨s, e, store, hget, happend, heq⟩ := teardown_of_fails hfails
  rw [heq]
  constructor
  · rw [get?, Table.get?_insert]
    split
    · next hother =>
      rw [← hother, hget]
      rfl
    · rfl
  · refine ⟨[], ?_, hstore.append_error_single happend (htidy.pending_eq threadId s hget) other⟩
    rw [pendingOf_insert rfl]
    split
    · next hother => rw [← hother, pendingOf_of_get? hget, List.nil_append, List.append_nil]
    · rfl

/-- A transcript that could not be deleted is still there, and so are all others. -/
theorem content?_delete (hstore : has.FailsCleanly)
    (hfails : (RegistryEvent.delete threadId).fails r = true) (other : String) :
    has.content? (r.delete threadId).2.store other = has.content? r.store other := by
  rw [RegistryEvent.fails, delete] at hfails
  rw [delete]
  rcases hdelete : TranscriptStore.delete r.store threadId with ⟨e | done, store⟩
  · exact hstore.delete_error hdelete other
  · rw [hdelete] at hfails
    cases hfails

theorem get?_delete (r : Registry σ) (threadId : String) :
    (r.delete threadId).2.get? threadId = none :=
  Table.get?_erase_self r.sessions threadId

/-- The session of a thread that could not be deleted is gone all the same. -/
theorem losesNothing_delete_iff (hstore : has.FailsCleanly)
    (hfails : (RegistryEvent.delete threadId).fails r = true) :
    LosesNothing has r (r.delete threadId).2 threadId ↔ r.get? threadId = none := by
  constructor
  · intro hloses
    have hsession := hloses.session
    rw [get?_delete] at hsession
    exact Option.map_eq_none_iff.1 hsession.symm
  · intro hnone
    exact .of_get? ((get?_delete r threadId).trans hnone.symm)
      (content?_delete hstore hfails threadId)

theorem losesNothing_delete_of_ne (hstore : has.FailsCleanly)
    (hfails : (RegistryEvent.delete threadId).fails r = true) {other : String}
    (hne : other ≠ threadId) : LosesNothing has r (r.delete threadId).2 other :=
  .of_get? (Table.get?_erase_of_ne r.sessions hne.symm) (content?_delete hstore hfails other)

omit [TranscriptStore σ] in
/-- Where nothing can be written, everything pending is pending still. -/
theorem LosesNothing.pendingOf_eq {r' : Registry σ} (h : LosesNothing has r r' threadId)
    (hnone : has.content? r.store threadId = none) :
    r'.pendingOf threadId = r.pendingOf threadId := by
  obtain ⟨moved, hpending, ⟨rfl, -⟩ | ⟨old, hold, -⟩⟩ := h.entries
  · exact hpending
  · exact absurd (hnone.symm.trans hold) (Option.some_ne_none old).symm

/-- In memory, the entries of a thread and then its pending ones are the same. -/
theorem LosesNothing.entries_append_pendingOf {r r' : Registry MemoryStore}
    (h : LosesNothing MemoryStore.holdings r r' threadId) :
    r'.store.entries threadId ++ r'.pendingOf threadId
      = r.store.entries threadId ++ r.pendingOf threadId := by
  obtain ⟨moved, hpending, hgained⟩ := h.entries
  rw [← hpending, ← List.append_assoc]
  congr 1
  rcases hgained with ⟨rfl, hsame⟩ | ⟨old, hold, hnew⟩
  · rw [List.append_nil]
    exact Option.some.inj hsame
  · obtain rfl := Option.some.inj hold
    exact Option.some.inj hnew

/-- In a directory, the file of a thread and then the lines of its pending entries are the same. -/
theorem LosesNothing.exists_text? {r r' : Registry DirectoryStore}
    (h : LosesNothing DirectoryStore.holdings r r' threadId) (hvalid : ThreadId.IsValid threadId)
    {text : String} (htext : r.store.prepared.text? threadId = some text) :
    ∃ text', r'.store.prepared.text? threadId = some text' ∧
      text' ++ TranscriptText.encode (r'.pendingOf threadId)
        = text ++ TranscriptText.encode (r.pendingOf threadId) := by
  obtain ⟨moved, hpending, hgained⟩ := h.entries
  simp only [Holdings.Gained, DirectoryStore.holdings, if_pos hvalid] at hgained
  rw [DirectoryStore.text?_eq] at htext
  rw [DirectoryStore.text?_eq, ← hpending, TranscriptText.encode_append, ← String.append_assoc]
  rcases hgained with ⟨rfl, hsame⟩ | ⟨old, hold, hnew⟩
  · rw [hsame]
    refine ⟨text, htext, ?_⟩
    rw [show TranscriptText.encode [] = "" from rfl, String.append_empty]
  · rw [hold] at htext
    rw [hnew]
    cases old with
    | text was =>
      obtain rfl := Option.some.inj htext
      exact ⟨_, rfl, rfl⟩
    | binary bytes => cases htext

/-! ## 4. Every failure -/

/-- **An operation that fails loses nothing**, unless it is a deletion. Take a registry in order, as
it is after every run (`Tidy.run`), and an operation that returns an error, whatever the reason.
Ids, times and announcements are as they were. Every thread is open if it was, with the same server
session, memory and feed, and what is stored of it, followed by what is pending for it, is what it
was. The one exception is the thread that could not be deleted: the store still has what it had of
it, but the thread is closed, and nothing was lost of it if and only if it was closed before. -/
theorem failing_operation_loses_nothing (hstore : has.FailsCleanly) (htidy : r.Tidy)
    {e : RegistryEvent σ} (hfails : e.fails r = true) :
    (e.step r).host = r.host ∧
      (∀ threadId, e ≠ .delete threadId → LosesNothing has r (e.step r) threadId) ∧
      ∀ threadId, e = .delete threadId →
        has.content? (e.step r).store threadId = has.content? r.store threadId ∧
          (e.step r).get? threadId = none ∧
          (LosesNothing has r (e.step r) threadId ↔ r.get? threadId = none) := by
  cases e with
  | openThread threadId =>
    rw [RegistryEvent.step, openThread_of_fails hfails]
    exact ⟨rfl, fun other _ => .of_get? rfl rfl, fun _ hdelete => by cases hdelete⟩
  | session threadId event => cases hfails
  | flush =>
    obtain ⟨_, _, -, heq⟩ := flush_of_fails hfails
    rw [RegistryEvent.step]
    exact ⟨by rw [heq], fun other _ => losesNothing_flush hstore htidy hfails other,
      fun _ hdelete => by cases hdelete⟩
  | teardown threadId =>
    obtain ⟨_, _, _, -, -, heq⟩ := teardown_of_fails hfails
    rw [RegistryEvent.step]
    exact ⟨by rw [heq], fun other _ => losesNothing_teardown hstore htidy hfails other,
      fun _ hdelete => by cases hdelete⟩
  | delete threadId =>
    rw [RegistryEvent.step]
    refine ⟨rfl, fun other hother => ?_, fun other hdelete => ?_⟩
    · exact losesNothing_delete_of_ne hstore hfails fun heq => hother (heq ▸ rfl)
    · obtain rfl := RegistryEvent.delete.inj hdelete
      exact ⟨content?_delete hstore hfails threadId, get?_delete r threadId,
        losesNothing_delete_iff hstore hfails⟩
  | outside change => cases hfails

end LosesNothing

/-- Two threads with a line each, whose store has changed since. -/
def sampleStopped {σ : Type} [TranscriptStore σ] (store : σ) (change : σ → σ) : Registry σ :=
  run { store, host := { ids := .numbered "item", clock := .numbered "time" } }
    [.openThread "a", .openThread "b",
      .session "a" (.receive (Traffic.logPayload "one")),
      .session "b" (.receive (Traffic.logPayload "two")),
      .outside change]

theorem tidy_sampleStopped {σ : Type} [TranscriptStore σ] (store : σ) (change : σ → σ) :
    (sampleStopped store change).Tidy :=
  (tidy_of_closed rfl).run _

/-- Two threads with a line each, of which the second cannot be written. -/
def sampleBlocked : Registry DirectoryStore :=
  sampleStopped .sample fun s => (s.block "b").2

/-- The same two threads with a store in memory. -/
def sampleBlockedInMemory : Registry MemoryStore :=
  sampleStopped {} fun s => (s.block "b").2

/-- When the sample is written, the line of the first thread moves to the store, and that of the
second stays in its session, which cannot be closed either. With the other store it is the same, and
of any thread there is as much as before. -/
theorem failing_operation_loses_nothing_sample :
    let has := DirectoryStore.holdings
    let written := RegistryEvent.flush.step sampleBlocked
    let closed := (RegistryEvent.teardown "b").step sampleBlocked
    let inMemory := RegistryEvent.flush.step sampleBlockedInMemory
    has.FailsCleanly ∧ sampleBlocked.Tidy ∧ RegistryEvent.flush.fails sampleBlocked = true ∧
      (RegistryEvent.teardown "b").fails sampleBlocked = true ∧
      written.pendingOf "a" = [] ∧ (sampleBlocked.pendingOf "a").map (·.ts) = ["time-1"] ∧
      written.store.prepared.text? "a"
        = some (TranscriptText.encode (sampleBlocked.pendingOf "a")) ∧
      written.pendingOf "b" = sampleBlocked.pendingOf "b" ∧
      closed.pendingOf "b" = sampleBlocked.pendingOf "b" ∧ (closed.get? "b").isSome = true ∧
      RegistryEvent.flush.fails sampleBlockedInMemory = true ∧
      (inMemory.store.entries "a").map (·.ts) = ["time-1"] ∧
      (inMemory.pendingOf "b").map (·.ts) = ["time-3"] ∧
      ∀ threadId, inMemory.store.entries threadId ++ inMemory.pendingOf threadId
        = sampleBlockedInMemory.store.entries threadId
          ++ sampleBlockedInMemory.pendingOf threadId := by
  intro has written closed inMemory
  have hstore : has.FailsCleanly := DirectoryStore.failsCleanly
  have htidy : sampleBlocked.Tidy := tidy_sampleStopped _ _
  have htidyInMemory : sampleBlockedInMemory.Tidy := tidy_sampleStopped _ _
  have hflush : RegistryEvent.flush.fails sampleBlocked = true := by decide +kernel
  have hteardown : (RegistryEvent.teardown "b").fails sampleBlocked = true := by decide +kernel
  obtain ⟨-, hkept, -⟩ := failing_operation_loses_nothing hstore htidy hflush
  obtain ⟨-, hopen, -⟩ := failing_operation_loses_nothing hstore htidy hteardown
  have hstart : sampleBlocked.store.prepared.text? "a" = some "" := by decide +kernel
  have hmoved : written.pendingOf "a" = [] := List.isEmpty_iff.1 (by decide +kernel)
  obtain ⟨text, htext, hsame⟩ := (hkept "a" nofun).exists_text? (by decide +kernel) hstart
  rw [hmoved, show TranscriptText.encode [] = "" from rfl, String.append_empty,
    String.empty_append] at hsame
  have hblocked : has.content? sampleBlocked.store "b" = none := by decide +kernel
  have hmemory : RegistryEvent.flush.fails sampleBlockedInMemory = true := by decide +kernel
  obtain ⟨-, hall, -⟩ := failing_operation_loses_nothing MemoryStore.failsCleanly
    htidyInMemory hmemory
  exact ⟨hstore, htidy, hflush, hteardown, hmoved, by decide +kernel,
    hsame ▸ htext, (hkept "b" nofun).pendingOf_eq hblocked, (hopen "b" nofun).pendingOf_eq hblocked,
    by decide +kernel, hmemory, by decide +kernel, by decide +kernel,
    fun threadId => (hall threadId nofun).entries_append_pendingOf⟩

/-- A thread with a line that was not written yet cannot be deleted, and is closed: the line is
nowhere any more. -/
theorem failed_deletion_forgets_traffic :
    let deletion : RegistryEvent DirectoryStore := .delete "b"
    let after := deletion.step sampleBlocked
    sampleBlocked.Tidy ∧ deletion.fails sampleBlocked = true ∧
      (sampleBlocked.get? "b").isSome = true ∧
      (sampleBlocked.pendingOf "b").map (·.ts) = ["time-3"] ∧
      after.get? "b" = none ∧ after.pendingOf "b" = [] ∧ after.store = sampleBlocked.store ∧
      ¬LosesNothing DirectoryStore.holdings sampleBlocked after "b" := by
  intro deletion after
  have hopen : (sampleBlocked.get? "b").isSome = true := by decide +kernel
  have hclosed : after.get? "b" = none := get?_delete sampleBlocked "b"
  refine ⟨tidy_sampleStopped _ _, by decide +kernel, hopen, by decide +kernel, hclosed,
    pendingOf_of_not_open hclosed, rfl, fun hloses => ?_⟩
  have hnone := hloses.session
  rw [hclosed] at hnone
  rw [Option.map_eq_none_iff.1 hnone.symm] at hopen
  cases hopen

end Registry

end AgentFeed
