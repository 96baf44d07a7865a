import AgentFeed.Proofs.Interruption
import AgentFeed.Proofs.OlderItems

/-!
# Threads that are alike

Two threads are alike when nothing but a renaming of ids can tell them apart. Unlike twins
(`Delivery.Twin`), which come with a renaming, threads that are alike are twins under *every*
renaming that takes the items of the one feed to those of the other, place by place. That is what
survives a new item: the renaming that fits before the item comes need not fit afterwards, but one
that fits afterwards did fit before.

There is always one that fits, since both feeds are as long and neither repeats an id
(`exists_renaming_of_nodup`), so in the end a single renaming is obtained for everything at once
(`ThreadSession.Alike.exists_renaming`). It is also needed in between: that two threads append an
item to the same messages is known for twins only (`Action.growth_rename`).
-/

namespace AgentFeed

/-! ## 1. Growth -/

/-- How many items a step appends does not depend on ids. -/
theorem Action.growth_rename (a : Action) (ρ : String → String) (s : Accumulation)
    (x y : String) : (a.step x (s.rename ρ)).growth = (a.step y s).growth := by
  have hrename := a.step_rename ρ y s
  have hgrowth : ∀ step : Step, (step.rename ρ).growth = step.growth := by
    intro step
    rw [Step.growth, Step.rename, Step.growth]
    rcases step.edit with _ | (body | ⟨id, change⟩) <;> rfl
  rcases a.step_fresh (s.rename ρ) with hsame | ⟨body, happend⟩
  · rw [hsame x (ρ y), hrename, hgrowth]
  · have hx : (a.step x (s.rename ρ)).growth = 1 := by rw [Step.growth, happend x]
    have hy : (a.step (ρ y) (s.rename ρ)).growth = 1 := by rw [Step.growth, happend (ρ y)]
    rw [hx, ← hy, hrename, hgrowth]

/-! ## 2. Threads at work -/

/-- A renaming takes the items of a feed to those of another, as far as both reach. -/
def Feed.TakesTo (ρ : String → String) (f g : Feed) : Prop :=
  ∀ (n : Nat) (x y : String), f.ids[n]? = some x → g.ids[n]? = some y → ρ x = y

namespace Delivery

/-- An item that a message appends stands where the feed ended, under the id that was next. -/
theorem ids_of_grown (d : Delivery Feed) (m : WireMessage)
    (hgrown : d.sink.size < (d.message m).sink.size) :
    (d.message m).sink.ids[d.sink.size]? = some d.host.ids.head := by
  rw [message_eq, perform, size_take, Step.growth] at hgrown
  rw [message_eq, perform]
  rcases hedit : ((d.dispatcher.action d.state m).step d.host.ids.head d.state).edit with
    _ | (body | ⟨id, change⟩)
  · rw [hedit] at hgrown
    exact absurd hgrown (Nat.lt_irrefl _)
  · rw [sink_take_append _ hedit, Feed.ids, List.getElem?_map, Feed.getElem?_append_self]
    rfl
  · rw [hedit] at hgrown
    exact absurd hgrown (Nat.lt_irrefl _)

/-- Twins stay twins whatever hosts they go on with. -/
theorem Twin.withHosts {ρ : String → String} {before before' : List ToolSettled}
    {d e : Delivery Feed} (h : Twin ρ before before' d e) (host host' : Host) :
    Twin ρ host.announced host'.announced { d with host } { e with host := host' } where
  dispatcher := h.dispatcher
  state := h.state
  feed := h.feed
  announced := ⟨[], (List.append_nil _).symm, (List.append_nil _).symm⟩

/-- Two threads that nothing but a renaming of ids can tell apart. -/
structure Alike (d e : Delivery Feed) : Prop where
  /-- The one state is an index of its feed. -/
  coherent : d.Coherent
  /-- So is the other. -/
  coherent' : e.Coherent
  /-- Both show as many items. -/
  size_eq : e.sink.size = d.sink.size
  /-- Every renaming that fits the items makes them twins. -/
  twin : ∀ ρ : Equiv.Perm String, Feed.TakesTo ρ d.sink e.sink →
    Twin ρ d.host.announced e.host.announced d e

namespace Alike

variable {d e : Delivery Feed}

theorem start (dispatcher : Dispatcher) {host host' : Host} (hids : host.ids.NeverRepeats)
    (hids' : host'.ids.NeverRepeats) :
    Alike { dispatcher, state := .empty, sink := Feed.empty, host }
      { dispatcher, state := .empty, sink := Feed.empty, host := host' } where
  coherent := coherent_start dispatcher hids
  coherent' := coherent_start dispatcher hids'
  size_eq := rfl
  twin ρ _ := Twin.start ρ dispatcher host host'

theorem exists_renaming (h : d.Alike e) :
    ∃ ρ : Equiv.Perm String, Feed.TakesTo ρ d.sink e.sink := by
  refine exists_renaming_of_nodup h.coherent.distinct h.coherent'.distinct ?_
  simp only [Feed.ids, List.length_map, ← Feed.size_eq_length, h.size_eq]

/-- **Threads that are alike stay so with the same message.** -/
theorem message (h : d.Alike e) (m : WireMessage) : (d.message m).Alike (e.message m) := by
  have haction : e.dispatcher.action e.state m = d.dispatcher.action d.state m := by
    obtain ⟨ρ, hρ⟩ := h.exists_renaming
    have htwin := h.twin ρ hρ
    rw [htwin.dispatcher, htwin.state, Dispatcher.action_rename]
  have hsize : (e.message m).sink.size = (d.message m).sink.size := by
    obtain ⟨ρ, hρ⟩ := h.exists_renaming
    rw [message_eq, message_eq, perform, perform, size_take, size_take, haction, h.size_eq,
      (h.twin ρ hρ).state, Action.growth_rename]
  refine ⟨h.coherent.message m, h.coherent'.message m, hsize, fun ρ hρ => ?_⟩
  -- What fits the items afterwards fitted them before.
  have hbefore : Feed.TakesTo ρ d.sink e.sink := fun n x y hx hy =>
    hρ n x y (h.coherent.ids_message m hx) (h.coherent'.ids_message m hy)
  have hfresh : ∀ id, (d.message m).sink.ids[d.sink.size]? = some id →
      ρ id = e.host.ids.head := by
    intro id hid
    have hgrown : d.sink.size < (d.message m).sink.size := by
      have hlt := (List.getElem?_eq_some_iff.1 hid).1
      rwa [Feed.ids, List.length_map, ← Feed.size_eq_length] at hlt
    have hid' : (e.message m).sink.ids[d.sink.size]? = some e.host.ids.head := by
      rw [← h.size_eq]
      exact e.ids_of_grown m (by rw [hsize, h.size_eq]; exact hgrown)
    exact hρ _ _ _ hid hid'
  exact ((h.twin ρ hbefore).message ρ.injective m hfresh).withHosts _ _

theorem deliverAll (h : d.Alike e) (payloads : List Json) :
    (d.deliverAll payloads).Alike (e.deliverAll payloads) := by
  induction payloads generalizing d e with
  | nil => exact h
  | cons p rest ih => exact ih (h.message (WireMessage.decode p))

/-- Others may draw ids and times in between. -/
theorem withHosts (h : d.Alike e) {host host' : Host} (hahead : d.host.Ahead host)
    (hahead' : e.host.Ahead host') : Alike { d with host } { e with host := host' } where
  coherent := h.coherent.withHost hahead
  coherent' := h.coherent'.withHost hahead'
  size_eq := h.size_eq
  twin ρ hρ := (h.twin ρ hρ).withHosts host host'

theorem forgetAll (h : d.Alike e) :
    Alike { d with state := .empty } { e with state := .empty } where
  coherent := h.coherent.forgetAll
  coherent' := h.coherent'.forgetAll
  size_eq := h.size_eq
  twin ρ hρ := { h.twin ρ hρ with state := rfl }

end Alike

end Delivery

/-! ## 3. Sessions -/

/-- Whether an event draws an id for itself: a prompt that comes without one does. -/
def SessionEvent.drawsId : SessionEvent → Bool
  | .send _ _ none => true
  | _ => false

namespace ThreadSession

/-- Two sessions of a thread that nothing but a renaming of ids can tell apart: they show the ends
of feeds of threads that are alike. -/
structure Alike (s : ThreadSession) (h : Host) (s' : ThreadSession) (h' : Host) : Prop where
  /-- They are of one thread. -/
  threadId : s'.threadId = s.threadId
  /-- They are attached to the same server session. -/
  sessionId : s'.sessionId = s.sessionId
  /-- The same waits to be written. -/
  pending : s'.pending = s.pending
  /-- They show the same, up to ids. -/
  shows : ∃ bound d e, (s.delivery h).IsTailOf bound d ∧ (s'.delivery h').IsTailOf bound e ∧
    d.Alike e

namespace Alike

variable {s s' : ThreadSession} {h h' : Host}

theorem isForeign_eq (ha : s.Alike h s' h') (payload : Json) :
    s'.isForeign payload = s.isForeign payload := by
  rw [isForeign, isForeign, ha.sessionId]

/-- A thread that is opened is like itself opened elsewhere. -/
theorem restore_start (threadId : String) (previewLimit bound : Nat)
    (hids : h.ids.NeverRepeats) (hids' : h'.ids.NeverRepeats) (entries : List TranscriptEntry) :
    let opened := (start threadId previewLimit bound).restore h entries
    let opened' := (start threadId previewLimit bound).restore h' entries
    opened.1.Alike opened.2 opened'.1 opened'.2 := by
  intro opened opened'
  have halike := (Delivery.Alike.start { previewLimit } hids hids').deliverAll
    (TranscriptEntry.payloads entries)
  exact ⟨rfl, rfl, rfl, bound, _, _,
    isTailOf_restore_start threadId previewLimit bound h entries,
    isTailOf_restore_start threadId previewLimit bound h' entries, halike.forgetAll⟩

/-- Others may draw ids and times in between. -/
theorem later (ha : s.Alike h s' h') {g g' : Host} (hahead : h.Ahead g) (hahead' : h'.Ahead g') :
    s.Alike g s' g' := by
  obtain ⟨hthread, hsession, hpending, bound, d, e, htail, htail', halike⟩ := ha
  have hd : d.host.Ahead g := htail.host ▸ hahead
  have he : e.host.Ahead g' := htail'.host ▸ hahead'
  exact ⟨hthread, hsession, hpending, bound, { d with host := g }, { e with host := g' },
    { htail with host := rfl }, { htail' with host := rfl }, halike.withHosts hd he⟩

theorem withPending (ha : s.Alike h s' h') (pending : List TranscriptEntry) :
    Alike { s with pending } h { s' with pending } h' where
  threadId := ha.threadId
  sessionId := ha.sessionId
  pending := rfl
  shows := ha.shows

theorem attach (ha : s.Alike h s' h') (sessionId : String) :
    (s.attach sessionId).Alike h (s'.attach sessionId) h' := by
  obtain ⟨hthread, -, hpending, bound, d, e, htail, htail', halike⟩ := ha
  exact ⟨hthread, rfl, hpending, bound, { d with state := .empty }, { e with state := .empty },
    { htail with state := rfl }, { htail' with state := rfl }, halike.forgetAll⟩

/-- **Sessions that are alike stay so with the same event**, if they show and record the same on
it. -/
theorem step (ha : s.Alike h s' h') {e : SessionEvent} (hshown : e.shown? s' h' = e.shown? s h)
    (hrecorded : e.recorded s' h' = e.recorded s h) :
    (e.step s h).1.Alike (e.step s h).2 (e.step s' h').1 (e.step s' h').2 := by
  cases hcase : e.shown? s h with
  | none =>
    rcases e.step_of_not_shown s h hcase with ⟨sessionId, rfl⟩ | ⟨hstep, -⟩
    · exact ha.attach sessionId
    · rcases e.step_of_not_shown s' h' (hshown.trans hcase) with ⟨sessionId, rfl⟩ | ⟨hstep', -⟩
      · exact ha.attach sessionId
      · rw [hstep, hstep']
        exact ha
  | some m =>
    obtain ⟨hthread, hsession, hpending, bound, d, e', htail, htail', halike⟩ :=
      ha.later (e.drawn_spec h).toAhead (e.drawn_spec h').toAhead
    rw [e.step_of_shown s h hcase, e.step_of_shown s' h' (hshown.trans hcase), hrecorded]
    exact ⟨hthread, hsession, congrArg (· ++ e.recorded s h) hpending, bound, _, _,
      htail.message m, htail'.message m, halike.message m⟩

/-- An event for which no id is drawn shows the same in sessions that are alike. -/
theorem shown?_eq (ha : s.Alike h s' h') {e : SessionEvent} (hown : e.drawsId = false) :
    e.shown? s' h' = e.shown? s h := by
  cases e with
  | attach sessionId => rfl
  | receive payload => rw [SessionEvent.shown?, SessionEvent.shown?, ha.isForeign_eq]
  | send accepted text clientMessageId =>
    cases clientMessageId with
    | none => cases hown
    | some id => rfl

/-- It also records the same, at the same time. -/
theorem recorded_eq (ha : s.Alike h s' h') {e : SessionEvent} (hown : e.drawsId = false)
    (hclock : h'.clock.head = h.clock.head) : e.recorded s' h' = e.recorded s h := by
  cases e with
  | attach sessionId => rfl
  | receive payload =>
    rw [SessionEvent.recorded, SessionEvent.recorded, ha.isForeign_eq, ha.threadId, hclock]
  | send accepted text clientMessageId =>
    cases clientMessageId with
    | none => cases hown
    | some id =>
      rw [SessionEvent.recorded, SessionEvent.recorded, ha.threadId, ha.sessionId, hclock]
      rfl

/-- Sessions that are alike show the same bodies, and one renaming takes the ids and the state of
the one to those of the other. -/
theorem exists_renaming (ha : s.Alike h s' h') :
    s'.feed.items.map (·.body) = s.feed.items.map (·.body) ∧ ∃ ρ : Equiv.Perm String,
      s'.feed.items.map (·.id) = s.feed.items.map (ρ ·.id) ∧ s'.state = s.state.rename ρ := by
  obtain ⟨-, -, -, bound, d, e, htail, htail', halike⟩ := ha
  obtain ⟨ρ, hρ⟩ := halike.exists_renaming
  have htwin := halike.twin ρ hρ
  obtain ⟨hbodies, hnames⟩ := htwin.feed.items_eq
  have hitems : s.feed.items = Feed.lastItems bound d.sink.items := htail.feed.items_eq
  have hitems' : s'.feed.items = Feed.lastItems bound e.sink.items := htail'.feed.items_eq
  have hstate : s.state = d.state := htail.state
  have hstate' : s'.state = e.state := htail'.state
  rw [hitems, hitems', hstate, hstate']
  exact ⟨Feed.map_lastItems_congr hbodies bound, ρ, Feed.map_lastItems_congr hnames bound,
    htwin.state⟩

end Alike

end ThreadSession

end AgentFeed
