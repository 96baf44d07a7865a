import AgentFeed.Proofs.Alike
import AgentFeed.Proofs.Reopening

/-!
# Open threads do not influence each other

The threads of a registry share a source of ids, a clock and nothing else. So the run of a thread
among others is like the run in which only its own events happen: a step of another thread draws
ids, which makes later ids of this thread other ones, and that is all it does.

Two registries are compared at one thread (`Registry.AlikeAt`). An event of that thread, in both,
keeps its sessions alike; an event of another thread, in one of them, only draws. The comparison
starts with a registry and itself, and there it needs to be known that each open session is like
itself, that is, that no id in a state is one that its feed has not shown. Every history that begins
with no thread open leads to such registries (`Registry.regular_run`).
-/

namespace AgentFeed

/-! ## 1. The clock -/

namespace Delivery

variable {σ : Type} [FeedSink σ]

theorem clock_message (d : Delivery σ) (m : WireMessage) :
    (d.message m).host.clock.nth = d.host.clock.nth := by
  rw [message, take]
  rcases (d.dispatcher.apply d.host.ids.head d.state m).2.edit with _ | (body | ⟨id, change⟩)
  · rfl
  · rfl
  · rfl

theorem clock_deliverAll (d : Delivery σ) (payloads : List Json) :
    (d.deliverAll payloads).host.clock.nth = d.host.clock.nth := by
  induction payloads generalizing d with
  | nil => rfl
  | cons p rest ih => exact (ih (d.payload p)).trans (d.clock_message (WireMessage.decode p))

end Delivery

theorem SessionEvent.clock_step (s : ThreadSession) (h : Host) (e : SessionEvent) :
    (e.step s h).2.clock.nth = h.clock.nth := by
  have hdrawn : (e.drawn h).clock.nth = h.clock.nth := by
    cases e with
    | attach sessionId => rfl
    | receive payload => rfl
    | send accepted text clientMessageId => cases clientMessageId <;> rfl
  cases hshown : e.shown? s h with
  | none =>
    rcases e.step_of_not_shown s h hshown with ⟨sessionId, rfl⟩ | ⟨hstep, -⟩
    · rfl
    · rw [hstep]
  | some m =>
    rw [e.step_of_shown s h hshown]
    exact ((s.delivery (e.drawn h)).clock_message m).trans hdrawn

namespace RegistryEvent

variable {σ : Type} [TranscriptStore σ]

/-- Only opening a thread and an event of a session draw from the host. -/
theorem host_cases (r : Registry σ) (e : RegistryEvent σ) :
    (e.step r).host = r.host ∨
      (∃ s entries, (e.step r).host = (ThreadSession.restore s r.host entries).2) ∨
      ∃ s event, (e.step r).host = (SessionEvent.step s r.host event).2 := by
  cases e with
  | openThread threadId =>
    rw [step, Registry.openThread]
    cases r.get? threadId with
    | some s => exact .inl rfl
    | none =>
      cases TranscriptStore.read r.store threadId with
      | error e => exact .inl rfl
      | ok entries => exact .inr (.inl ⟨_, entries, rfl⟩)
  | session threadId event =>
    rcases r.session_cases threadId event with ⟨-, heq⟩ | ⟨s, -, heq⟩
    · rw [heq]
      exact .inl rfl
    · rw [heq]
      exact .inr (.inr ⟨s, event, rfl⟩)
  | flush =>
    rw [step]
    rcases r.flush_cases with ⟨-, heq⟩ | ⟨store, -, heq⟩ | ⟨e, store, -, heq⟩ <;>
      exact .inl (by rw [heq])
  | teardown threadId =>
    rw [step]
    rcases r.teardown_cases threadId with heq | ⟨s, -, ⟨store, -, heq⟩ | ⟨e, store, -, heq⟩⟩ <;>
      exact .inl (by rw [heq])
  | delete threadId => exact .inl rfl
  | outside change => exact .inl rfl

theorem ahead_step (r : Registry σ) (e : RegistryEvent σ) : r.host.Ahead (e.step r).host := by
  rcases e.host_cases r with heq | ⟨s, entries, heq⟩ | ⟨s, event, heq⟩
  · rw [heq]
    exact .refl _
  · rw [heq]
    exact s.ahead_restore r.host entries
  · rw [heq]
    exact event.ahead_step s r.host

theorem clock_step (r : Registry σ) (e : RegistryEvent σ) :
    (e.step r).host.clock.nth = r.host.clock.nth := by
  rcases e.host_cases r with heq | ⟨s, entries, heq⟩ | ⟨s, event, heq⟩
  · rw [heq]
  · rw [heq]
    exact Delivery.clock_deliverAll _ (TranscriptEntry.payloads entries)
  · rw [heq]
    exact event.clock_step s r.host

end RegistryEvent

/-! ## 2. Registries in which sessions are like themselves -/

namespace Registry

variable {σ : Type}

/-- The ids do not repeat, the clock stands still, and no session looks at an id that its feed has
not shown. -/
structure Regular (time : String) (r : Registry σ) : Prop where
  /-- Ids to come are new. -/
  neverRepeats : r.host.ids.NeverRepeats
  /-- It is always the same time. -/
  fixed : ∀ n, r.host.clock.nth n = time
  /-- Each session is like itself. -/
  alike : ∀ threadId s, r.get? threadId = some s → s.Alike r.host s r.host

theorem regular_of_closed {time : String} {r : Registry σ} (hclosed : r.sessions = [])
    (hids : r.host.ids.NeverRepeats) (hclock : ∀ n, r.host.clock.nth n = time) :
    r.Regular time := by
  refine ⟨hids, hclock, fun threadId s hget => ?_⟩
  rw [get?, hclosed] at hget
  cases hget

variable [TranscriptStore σ] {time : String} {r r' : Registry σ} {threadId : String}

namespace Regular

omit [TranscriptStore σ] in
theorem alike_of_leavesAlone (hr : r.Regular time) (hleaves : LeavesAlone threadId r r')
    {s : ThreadSession} (hget : r'.get? threadId = some s) : s.Alike r'.host s r'.host := by
  obtain ⟨-, -, hahead, pending, heq⟩ := hleaves
  rw [heq, Option.map_eq_some_iff] at hget
  obtain ⟨s₀, hget₀, rfl⟩ := hget
  exact ((hr.alike threadId s₀ hget₀).later hahead hahead).withPending (pending s₀)

theorem alike_openThread (hr : r.Regular time) {s : ThreadSession}
    (hget : (r.openThread threadId).2.get? threadId = some s) :
    s.Alike (r.openThread threadId).2.host s (r.openThread threadId).2.host := by
  cases hopen : r.get? threadId with
  | some s₀ =>
    have heq : (r.openThread threadId).2 = r := by rw [Registry.openThread, hopen]
    rw [heq] at hget ⊢
    exact hr.alike threadId s hget
  | none =>
    cases hread : TranscriptStore.read r.store threadId with
    | error e =>
      have heq : (r.openThread threadId).2 = r := by
        rw [Registry.openThread, hopen]
        simp only [hread]
      rw [heq] at hget ⊢
      exact hr.alike threadId s hget
    | ok entries =>
      have heq := r.openThread_eq hopen hread
      rw [heq] at hget ⊢
      have hs := Option.some.inj ((get?_putSession _ _).symm.trans hget)
      rw [← hs]
      exact .restore_start threadId r.previewLimit r.maxItems hr.neverRepeats hr.neverRepeats
        entries

theorem alike_session (hr : r.Regular time) (event : SessionEvent) {s : ThreadSession}
    (hget : ((RegistryEvent.session threadId event).step r).get? threadId = some s) :
    s.Alike ((RegistryEvent.session threadId event).step r).host s
      ((RegistryEvent.session threadId event).step r).host := by
  rcases r.session_cases threadId event with ⟨-, heq⟩ | ⟨s₀, hget₀, heq⟩
  · rw [heq] at hget ⊢
    exact hr.alike threadId s hget
  · rw [heq] at hget ⊢
    rw [get?, Table.get?_insert_self, Option.some.injEq] at hget
    rw [← hget]
    exact (hr.alike threadId s₀ hget₀).step rfl rfl

theorem alike_teardown (hr : r.Regular time) {s : ThreadSession}
    (hget : (r.teardown threadId).2.get? threadId = some s) :
    s.Alike (r.teardown threadId).2.host s (r.teardown threadId).2.host := by
  rcases r.teardown_cases threadId with heq | ⟨s₀, hget₀, ⟨store, -, heq⟩ | ⟨e, store, -, heq⟩⟩
  · rw [heq] at hget ⊢
    exact hr.alike threadId s hget
  · rw [heq, get?, Table.get?_erase_self] at hget
    cases hget
  · rw [heq] at hget ⊢
    rw [get?, Table.get?_insert_self, Option.some.injEq] at hget
    rw [← hget]
    exact (hr.alike threadId s₀ hget₀).withPending (s₀.pending ++ [])

end Regular

/-- **Every event keeps a registry regular.** -/
theorem regular_step (hr : r.Regular time) (e : RegistryEvent σ) : (e.step r).Regular time := by
  have hahead : r.host.Ahead (e.step r).host := e.ahead_step r
  refine ⟨hahead.neverRepeats hr.neverRepeats, fun n => ?_, fun threadId s hget => ?_⟩
  · rw [e.clock_step r]
    exact hr.fixed n
  · -- A session is looked at by an event of its own thread, and by writing.
    cases e with
    | openThread other =>
      by_cases hother : other = threadId
      · subst hother
        exact hr.alike_openThread hget
      · exact hr.alike_of_leavesAlone (.openThread r hother) hget
    | session other event =>
      by_cases hother : other = threadId
      · subst hother
        exact hr.alike_session event hget
      · exact hr.alike_of_leavesAlone (.session r hother event) hget
    | flush => exact hr.alike_of_leavesAlone (.flush r threadId) hget
    | teardown other =>
      by_cases hother : other = threadId
      · subst hother
        exact hr.alike_teardown hget
      · exact hr.alike_of_leavesAlone (.teardown r hother) hget
    | delete other =>
      by_cases hother : other = threadId
      · subst hother
        have hnone : (r.delete other).2.get? other = none := Table.get?_erase_self r.sessions _
        rw [RegistryEvent.step, hnone] at hget
        cases hget
      · exact hr.alike_of_leavesAlone (.delete r hother) hget
    | outside change => exact hr.alike threadId s hget

theorem regular_run (hr : r.Regular time) (events : List (RegistryEvent σ)) :
    (r.run events).Regular time := by
  induction events generalizing r with
  | nil => exact hr
  | cons e rest ih => exact ih (regular_step hr e)

/-! ## 3. Two registries at one thread -/

/-- A thread is open in both registries, with sessions that are alike. -/
structure AlikeAt (threadId time : String) (r r' : Registry σ) : Prop where
  /-- It is always the same time in the one. -/
  fixed : ∀ n, r.host.clock.nth n = time
  /-- So it is in the other. -/
  fixed' : ∀ n, r'.host.clock.nth n = time
  /-- The sessions are alike. -/
  sessions : ∃ s s', r.get? threadId = some s ∧ r'.get? threadId = some s' ∧
    s.Alike r.host s' r'.host

namespace AlikeAt

/-- An event of another thread only draws ids and times. -/
theorem other (ha : AlikeAt threadId time r r') {other : String} (hother : other ≠ threadId)
    (event : SessionEvent) :
    AlikeAt threadId time ((RegistryEvent.session other event).step r) r' := by
  obtain ⟨s, s', hget, hget', halike⟩ := ha.sessions
  refine ⟨fun n => ?_, ha.fixed', ?_⟩
  · rw [RegistryEvent.clock_step]
    exact ha.fixed n
  · rcases r.session_cases other event with ⟨-, heq⟩ | ⟨s₀, -, heq⟩
    · rw [heq]
      exact ⟨s, s', hget, hget', halike⟩
    · rw [heq]
      have hsame : Table.get? (r.sessions.insert other (event.step s₀ r.host).1) threadId
          = some s := (Table.get?_insert_of_ne r.sessions _ hother).trans hget
      exact ⟨s, s', hsame, hget', halike.later (event.ahead_step s₀ r.host) (.refl _)⟩

/-- An event of the thread, in both. A prompt has to come with its client message id. -/
theorem session (ha : AlikeAt threadId time r r') {event : SessionEvent}
    (hown : event.drawsId = false) :
    AlikeAt threadId time ((RegistryEvent.session threadId event).step r)
      ((RegistryEvent.session threadId event).step r') := by
  obtain ⟨s, s', hget, hget', halike⟩ := ha.sessions
  have hclock : r'.host.clock.head = r.host.clock.head :=
    (ha.fixed' _).trans (ha.fixed _).symm
  have hstep := halike.step (halike.shown?_eq hown) (halike.recorded_eq hown hclock)
  refine ⟨fun n => ?_, fun n => ?_, ?_⟩
  · rw [RegistryEvent.clock_step]
    exact ha.fixed n
  · rw [RegistryEvent.clock_step]
    exact ha.fixed' n
  · rw [RegistryEvent.step, RegistryEvent.step, withSession, withSession, hget, hget']
    exact ⟨_, _, Table.get?_insert_self _ _ _, Table.get?_insert_self _ _ _, hstep⟩

end AlikeAt

/-- What happens to sessions, as events of the registry. -/
def sessionEvents (steps : List (String × SessionEvent)) : List (RegistryEvent σ) :=
  steps.map fun step => .session step.1 step.2

/-- **A run of many threads and the run of one of them** stay alike at that one. -/
theorem alikeAt_run (ha : AlikeAt threadId time r r') {steps : List (String × SessionEvent)}
    (hown : ∀ step ∈ steps, step.2.drawsId = false) :
    AlikeAt threadId time (r.run (sessionEvents steps))
      (r'.run (sessionEvents (steps.filter (·.1 = threadId)))) := by
  induction steps generalizing r r' with
  | nil => exact ha
  | cons step rest ih =>
    obtain ⟨other, event⟩ := step
    obtain ⟨hfirst, hrest⟩ := List.forall_mem_cons.1 hown
    by_cases hother : other = threadId
    · subst hother
      rw [List.filter_cons_of_pos (by simp)]
      exact ih (ha.session hfirst) hrest
    · rw [List.filter_cons_of_neg (by simpa using hother)]
      exact ih (ha.other hother event) hrest

/-! ## 4. Every run -/

/-- **Open threads do not influence each other.** Start with no thread open, with ids that do not
repeat and a clock that stands still, and let a history lead to any set of open threads. Whatever
then happens to the sessions of all of them, in any order, where every prompt comes with its client
message id: a thread that was open has the same server session, the same pending traffic and a feed
with the same bodies as in the run in which only its own events happen; and one renaming of ids takes
its items and what it remembers to those of that run. -/
theorem open_threads_do_not_interfere (r : Registry σ) (hclosed : r.sessions = [])
    (hids : r.host.ids.NeverRepeats) (time : String) (hclock : ∀ n, r.host.clock.nth n = time)
    (history : List (RegistryEvent σ)) (steps : List (String × SessionEvent))
    (hown : ∀ step ∈ steps, step.2.drawsId = false) (threadId : String)
    (hopen : ((r.run history).get? threadId).isSome = true) :
    let together := (r.run history).run (sessionEvents steps)
    let alone := (r.run history).run (sessionEvents (steps.filter (·.1 = threadId)))
    ∃ s s', together.get? threadId = some s ∧ alone.get? threadId = some s' ∧
      s'.sessionId = s.sessionId ∧ s'.pending = s.pending ∧
      s'.feed.items.map (·.body) = s.feed.items.map (·.body) ∧
      ∃ ρ : Equiv.Perm String,
        s'.feed.items.map (·.id) = s.feed.items.map (ρ ·.id) ∧ s'.state = s.state.rename ρ := by
  intro together alone
  have hregular := regular_run (regular_of_closed hclosed hids hclock) history
  obtain ⟨s₀, hget₀⟩ := Option.isSome_iff_exists.1 hopen
  have hstart : AlikeAt threadId time (r.run history) (r.run history) :=
    ⟨hregular.fixed, hregular.fixed, s₀, s₀, hget₀, hget₀, hregular.alike threadId s₀ hget₀⟩
  obtain ⟨-, -, s, s', hget, hget', halike⟩ := alikeAt_run hstart hown
  obtain ⟨hbodies, ρ, hnames, hstate⟩ := halike.exists_renaming
  exact ⟨s, s', hget, hget', halike.sessionId, halike.pending, hbodies, ρ, hnames, hstate⟩

/-- The same turn in two threads at once: one server session, one turn, one call, and prompts with
one client message id. -/
def sampleTraffic : List (String × SessionEvent) :=
  let text := SessionEvent.receive (Traffic.chunkPayload "t" "text-delta" [("text", .string "Hi")])
  let call := SessionEvent.receive (Traffic.chunkPayload "t" "tool-result"
    [("toolCallId", .string "k"), ("toolName", .string "grep"), ("output", .bool true)])
  [("a", .attach "s"), ("b", .attach "s"), ("b", .send true "Go" (some "m")),
    ("a", .send true "Go" (some "m")), ("b", text), ("a", call), ("b", call), ("a", text)]

/-- In the sample the items of the thread "a" are the second, fourth and sixth; by itself the thread
has the first three ids. -/
theorem open_threads_do_not_interfere_sample :
    let r : Registry MemoryStore :=
      { store := {}, host := { ids := .numbered "item", clock := .constant "now" } }
    let opened := r.run [.openThread "a", .openThread "b"]
    let together := opened.run (sessionEvents sampleTraffic)
    let alone := opened.run (sessionEvents (sampleTraffic.filter (·.1 = "a")))
    r.sessions = [] ∧ r.host.ids.NeverRepeats ∧ (∀ n, r.host.clock.nth n = "now") ∧
      (∀ step ∈ sampleTraffic, step.2.drawsId = false) ∧ (opened.get? "a").isSome = true ∧
      ∃ s s', together.get? "a" = some s ∧ alone.get? "a" = some s' ∧
        s'.pending = s.pending ∧ s.pending.length = 3 ∧
        s'.feed.items.map (·.body) = s.feed.items.map (·.body) ∧
        ∃ ρ : Equiv.Perm String, s'.state = s.state.rename ρ ∧
          [ρ "item-2", ρ "item-4", ρ "item-6"] = ["item-1", "item-2", "item-3"] := by
  intro r opened together alone
  have hown : ∀ step ∈ sampleTraffic, step.2.drawsId = false := by decide +kernel
  have hopen : (opened.get? "a").isSome = true := by decide +kernel
  have hids : (together.get? "a").map (·.feed.items.map (·.id))
      = some ["item-2", "item-4", "item-6"] := by decide +kernel
  have hids' : (alone.get? "a").map (·.feed.items.map (·.id))
      = some ["item-1", "item-2", "item-3"] := by decide +kernel
  have hpending : (together.get? "a").map (·.pending.length) = some 3 := by decide +kernel
  obtain ⟨s, s', hget, hget', -, hsame, hbodies, ρ, hnames, hstate⟩ :=
    open_threads_do_not_interfere r rfl (Supply.numbered_neverRepeats "item") "now" (fun _ => rfl)
      [.openThread "a", .openThread "b"] sampleTraffic hown "a" hopen
  have hs : together.get? "a" = some s := hget
  have hs' : alone.get? "a" = some s' := hget'
  rw [hs, Option.map_some, Option.some.injEq] at hids hpending
  rw [hs', Option.map_some, Option.some.injEq] at hids'
  have hrenamed : s.feed.items.map (ρ ·.id) = (s.feed.items.map (·.id)).map ρ := by
    rw [List.map_map]
    rfl
  rw [hids', hrenamed, hids] at hnames
  exact ⟨rfl, Supply.numbered_neverRepeats "item", fun _ => rfl, hown, hopen, s, s', hs, hs', hsame,
    hpending, hbodies, ρ, hstate, hnames.symm⟩

end Registry

end AgentFeed
