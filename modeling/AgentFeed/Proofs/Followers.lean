import AgentFeed.Proofs.LiveTail
import AgentFeed.Proofs.Places

/-!
# Following a live feed

A follower starts from the items that a live feed holds when it subscribes, and takes in the changes
it is told one after another. Not every change can be taken in: an item that was updated has to be
there, and the ids of items that were dropped have to be those of the oldest ones, in order
(`FeedChange.Fits`). `LiveFeed.follow?` refuses a change that does not fit.

All a follower has is a list of items, and it does not use the feed's own operations on it: for an
item that was updated it looks through the list for the last one with that id (`Feed.replaceLast`).

Whatever is done to the feed, it tells changes that lead from its items before to its items
afterwards (`LiveFeed.Tells`). An appended item and the room made for it are two changes, and the
feed in between holds one item too many, as the follower does. So a follower that has taken in
everything holds what the feed holds (`LiveFeed.follower_mirrors_feed`), also when ids occur more
than once: both sides mean the last item of an id.
-/

namespace AgentFeed

/-! ## 1. Replacing the last item of an id -/

namespace Feed

/-- The list with an item in the place of the last one that has its id. -/
def replaceLast (item : FeedItem) : List FeedItem → List FeedItem
  | [] => []
  | x :: rest =>
    if x.id = item.id ∧ ∀ y ∈ rest, y.id ≠ item.id then item :: rest
    else x :: replaceLast item rest

theorem replaceLast_concat (item : FeedItem) (items : List FeedItem) (x : FeedItem) :
    replaceLast item (items ++ [x])
      = if x.id = item.id then items ++ [item] else replaceLast item items ++ [x] := by
  induction items with
  | nil =>
    by_cases hx : x.id = item.id
    · simp [replaceLast, hx]
    · simp [replaceLast, hx]
  | cons y rest ih =>
    rw [List.cons_append, replaceLast, ih]
    by_cases hx : x.id = item.id
    · -- Whatever stands before the new end is not the last of its id.
      have hlater : ¬(y.id = item.id ∧ ∀ z ∈ rest ++ [x], z.id ≠ item.id) :=
        fun h => h.2 x (List.mem_append_right _ (List.mem_singleton_self x)) hx
      rw [if_neg hlater, if_pos hx, if_pos hx, List.cons_append]
    · have hsame : (∀ z ∈ rest ++ [x], z.id ≠ item.id) ↔ ∀ z ∈ rest, z.id ≠ item.id := by
        rw [List.forall_mem_append, List.forall_mem_singleton]
        exact and_iff_left hx
      rw [if_neg hx, if_neg hx, replaceLast]
      simp only [hsame]
      split
      · rfl
      · rfl

/-- A feed looks for an id from its newest item on, and so finds the last one that is shown. -/
theorem items_update_const (f : Feed) (item : FeedItem) :
    (f.update item.id fun _ => item).items = replaceLast item f.items := by
  rw [items, items, update]
  induction f.newestFirst with
  | nil => rfl
  | cons x rest ih =>
    rw [updateFirst, List.reverse_cons, replaceLast_concat]
    split
    · exact List.reverse_cons
    · rw [List.reverse_cons, ih]

/-- To change the item that is found is to put the changed item in its place. -/
theorem updateFirst_of_find? {id : String} {change : FeedItem → FeedItem} {items : List FeedItem}
    {item : FeedItem} (h : items.find? (·.id = id) = some item) :
    updateFirst id (fun _ => change item) items = updateFirst id change items := by
  induction items with
  | nil => rfl
  | cons x rest ih =>
    rw [updateFirst, updateFirst]
    by_cases hid : x.id = id
    · rw [List.find?_cons_of_pos (by simpa using hid)] at h
      rw [if_pos hid, if_pos hid, Option.some.inj h]
    · rw [List.find?_cons_of_neg (by simpa using hid)] at h
      rw [if_neg hid, if_neg hid, ih h]

end Feed

/-! ## 2. Taking in changes -/

/-- Whether a change can be one of a feed with the given items: an item that was updated is among
them, and the ids of items that were dropped are those of the oldest ones, in order. -/
def FeedChange.Fits (items : List FeedItem) : FeedChange → Prop
  | .appended _ => True
  | .updated item => ∃ x ∈ items, x.id = item.id
  | .trimmed ids => ids = (items.take ids.length).map (·.id)

instance (items : List FeedItem) : (change : FeedChange) → Decidable (change.Fits items)
  | .appended _ => inferInstanceAs (Decidable True)
  | .updated item => inferInstanceAs (Decidable (∃ x ∈ items, x.id = item.id))
  | .trimmed ids => inferInstanceAs (Decidable (ids = (items.take ids.length).map (·.id)))

namespace LiveFeed

/-- The items that a follower holds after a change that fits. -/
def follow (items : List FeedItem) : FeedChange → List FeedItem
  | .appended item => items ++ [item]
  | .updated item => Feed.replaceLast item items
  | .trimmed ids => items.drop ids.length

/-- The items that a follower holds after one change; nothing when the change does not fit. -/
def follow? (items : List FeedItem) (change : FeedChange) : Option (List FeedItem) :=
  if change.Fits items then some (follow items change) else none

theorem follow?_of_fits {items : List FeedItem} {change : FeedChange} (h : change.Fits items) :
    follow? items change = some (follow items change) :=
  if_pos h

/-! ## 3. What is told -/

/-- On the way from one live feed to another a subscriber is told changes, and they lead from the
items of the one to the items of the other. -/
structure Tells (f : LiveFeed) (changes : List FeedChange) (g : LiveFeed) : Prop where
  /-- A subscriber is told the changes. -/
  outbox : g.outbox = f.outbox.map (· ++ changes)
  /-- The changes lead to the new items. -/
  follows : changes.foldlM follow? f.items = some g.items

variable {f g h : LiveFeed}

theorem Tells.refl (f : LiveFeed) : f.Tells [] f where
  outbox := by simp
  follows := rfl

theorem Tells.trans {first second : List FeedChange} (hfirst : f.Tells first g)
    (hsecond : g.Tells second h) : f.Tells (first ++ second) h where
  outbox := by
    rw [hsecond.outbox, hfirst.outbox, Option.map_map]
    simp only [Function.comp_def, List.append_assoc]
  follows := by
    rw [List.foldlM_append, hfirst.follows]
    exact hsecond.follows

/-- A change that fits and leads to the new items is told. -/
theorem tells_tell {feed : Feed} {change : FeedChange} (hfits : change.Fits f.items)
    (hfollow : follow f.items change = feed.items) :
    f.Tells [change] (tell { f with feed := feed } change) where
  outbox := rfl
  follows := by
    rw [List.foldlM_cons, follow?_of_fits hfits, hfollow]
    rfl

theorem exists_tells_trim (f : LiveFeed) : ∃ changes, f.Tells changes f.trim := by
  rw [trim]
  split
  · exact ⟨[], Tells.refl f⟩
  · -- The oldest items come first where they are shown, and last where they are kept.
    have hsplit : f.items = (f.feed.newestFirst.drop f.bound).reverse
        ++ (f.feed.newestFirst.take f.bound).reverse := by
      rw [← List.reverse_append, List.take_append_drop]
      rfl
    refine ⟨_, tells_tell ?_ ?_⟩
    · rw [FeedChange.Fits, List.length_map, hsplit, List.take_left]
    · rw [follow, List.length_map, hsplit, List.drop_left]
      rfl

theorem exists_tells_append (f : LiveFeed) (item : FeedItem) :
    ∃ changes, f.Tells changes (f.append item) := by
  have hlonger : f.Tells [.appended item]
      (tell { f with feed := f.feed.append item } (.appended item)) :=
    tells_tell trivial (Feed.items_append f.feed item).symm
  obtain ⟨dropped, hdropped⟩ := exists_tells_trim
    (tell { f with feed := f.feed.append item } (.appended item))
  exact ⟨_, hlonger.trans hdropped⟩

theorem exists_tells_update (f : LiveFeed) (id : String) {change : FeedItem → FeedItem}
    (hkeep : ∀ item, (change item).id = item.id) :
    ∃ changes, f.Tells changes (f.update id change) := by
  rw [update]
  cases hget : f.feed.get? id with
  | none => exact ⟨[], Tells.refl f⟩
  | some item =>
    have hid : item.id = id := by simpa using List.find?_some hget
    have hmem : item ∈ f.items := List.mem_reverse.2 (List.mem_of_find?_eq_some hget)
    refine ⟨_, tells_tell ⟨item, hmem, (hkeep item).symm⟩ ?_⟩
    -- The follower looks for the id of the changed item, which is the id that was looked for.
    have hchanged : (change item).id = id := (hkeep item).trans hid
    calc follow f.items (.updated (change item))
        = (f.feed.update (change item).id fun _ => change item).items :=
          (Feed.items_update_const f.feed (change item)).symm
      _ = (f.feed.update id change).items := by
        rw [hchanged, Feed.update, Feed.updateFirst_of_find? hget]
        rfl

/-- An id that no item has is not told of. -/
theorem update_of_absent {id : String} (habsent : ∀ item ∈ f.items, item.id ≠ id)
    (change : FeedItem → FeedItem) : f.update id change = f := by
  have hnone : f.feed.get? id = none := by
    rw [Feed.get?, List.find?_eq_none]
    intro item hmem hid
    exact habsent item (List.mem_reverse.2 hmem) (of_decide_eq_true hid)
  rw [update, hnone]

/-! ## 4. Runs -/

/-- What can be done to a live feed. -/
inductive Event where
  /-- An item is appended. -/
  | append (item : FeedItem)
  /-- The last item with an id is changed. -/
  | update (id : String) (change : FeedItem → FeedItem)
  /-- Somebody subscribes, in place of any earlier subscriber. -/
  | subscribe
  /-- The subscriber goes away. -/
  | unsubscribe
  /-- The subscriber collects what it was told. -/
  | collect

/-- The subscriber stays, and no item gets another id. -/
def Event.KeepsFollower : Event → Prop
  | .append _ => True
  | .update _ change => ∀ item, (change item).id = item.id
  | .collect => True
  | .subscribe => False
  | .unsubscribe => False

/-- The feed after an event. -/
def after (f : LiveFeed) : Event → LiveFeed
  | .append item => f.append item
  | .update id change => f.update id change
  | .subscribe => f.subscribe
  | .unsubscribe => f.unsubscribe
  | .collect => f.collect.2

/-- The feed after events. -/
def run (f : LiveFeed) (events : List Event) : LiveFeed :=
  events.foldl after f

/-- What subscribers collect in the course of events. -/
def collected (f : LiveFeed) : List Event → List FeedChange
  | [] => []
  | e :: rest =>
    let now := match e with
      | .collect => f.collect.1
      | _ => []
    now ++ collected (f.after e) rest

/-- **A step of a follower.** What waits for it and what it collects lead from the items it holds to
the items of the feed, before the event and after it. -/
theorem exists_outbox_after {held : List FeedItem} {waiting : List FeedChange}
    (hwaiting : f.outbox = some waiting) (hfollows : waiting.foldlM follow? held = some f.items)
    {e : Event} (hkeep : e.KeepsFollower) :
    ∃ held' waiting', (f.collected [e]).foldlM follow? held = some held' ∧
      (f.after e).outbox = some waiting' ∧
      waiting'.foldlM follow? held' = some (f.after e).items := by
  -- Nothing is collected, and what is told is put behind what waits.
  have hstays {g : LiveFeed} {changes : List FeedChange} (htells : f.Tells changes g) :
      g.outbox = some (waiting ++ changes) ∧
        (waiting ++ changes).foldlM follow? held = some g.items := by
    refine ⟨by rw [htells.outbox, hwaiting, Option.map_some], ?_⟩
    rw [List.foldlM_append, hfollows]
    exact htells.follows
  cases e with
  | append item =>
    obtain ⟨changes, htells⟩ := exists_tells_append f item
    exact ⟨held, waiting ++ changes, rfl, hstays htells⟩
  | update id change =>
    obtain ⟨changes, htells⟩ := exists_tells_update f id hkeep
    exact ⟨held, waiting ++ changes, rfl, hstays htells⟩
  | collect =>
    have hcollected : f.collected [.collect] = waiting := by
      simp [collected, collect, hwaiting]
    refine ⟨f.items, [], hcollected ▸ hfollows, ?_, rfl⟩
    simp [after, collect, hwaiting]
  | subscribe => exact hkeep.elim
  | unsubscribe => exact hkeep.elim

/-- **A run of a follower.** -/
theorem exists_outbox_run {held : List FeedItem} {waiting : List FeedChange}
    (hwaiting : f.outbox = some waiting) (hfollows : waiting.foldlM follow? held = some f.items)
    {events : List Event} (hkeep : ∀ e ∈ events, e.KeepsFollower) :
    ∃ held' waiting', (f.collected events).foldlM follow? held = some held' ∧
      (f.run events).outbox = some waiting' ∧
      waiting'.foldlM follow? held' = some (f.run events).items := by
  induction events generalizing f held waiting with
  | nil => exact ⟨held, waiting, rfl, hwaiting, hfollows⟩
  | cons e rest ih =>
    obtain ⟨he, hrest⟩ := List.forall_mem_cons.1 hkeep
    obtain ⟨held₁, waiting₁, hcollected₁, hwaiting₁, hfollows₁⟩ :=
      exists_outbox_after hwaiting hfollows he
    obtain ⟨held₂, waiting₂, hcollected₂, hrun⟩ := ih hwaiting₁ hfollows₁ hrest
    refine ⟨held₂, waiting₂, ?_, hrun⟩
    have hsplit : f.collected (e :: rest) = f.collected [e] ++ (f.after e).collected rest := by
      simp only [collected, List.append_nil]
    rw [hsplit, List.foldlM_append, hcollected₁]
    exact hcollected₂

/-! ## 5. The bound -/

/-- The feed holds no more than its bound allows. -/
def WithinBound (f : LiveFeed) : Prop :=
  f.bound ≠ 0 → f.size ≤ f.bound

theorem withinBound_trim (f : LiveFeed) : f.trim.WithinBound := by
  rw [trim]
  split
  · next h => exact fun hbound => h.resolve_left hbound
  · exact fun _ => List.length_take_le _ _

theorem WithinBound.after (hf : f.WithinBound) (e : Event) : (f.after e).WithinBound := by
  cases e with
  | append item => exact withinBound_trim _
  | update id change =>
    rw [LiveFeed.after, update]
    split
    · exact hf
    · exact fun hbound => (Feed.size_amend f.feed id change).trans_le (hf hbound)
  | _ => exact hf

theorem WithinBound.run (hf : f.WithinBound) (events : List Event) :
    (f.run events).WithinBound := by
  induction events generalizing f with
  | nil => exact hf
  | cons e rest ih => exact ih (hf.after e)

theorem bound_after (f : LiveFeed) (e : Event) : (f.after e).bound = f.bound := by
  cases e with
  | append item => exact (trim_feed _).1
  | update id change =>
    rw [after, update]
    split <;> rfl
  | _ => rfl

theorem bound_run (f : LiveFeed) (events : List Event) : (f.run events).bound = f.bound := by
  induction events generalizing f with
  | nil => rfl
  | cons e rest ih => exact (ih (f.after e)).trans (bound_after f e)

/-! ## 6. Followers -/

/-- **A follower mirrors the feed.** Somebody subscribes to a live feed that anything was done to
before. Whatever is done to it then, as long as the subscriber stays and no item gets another id,
the changes that were collected and those that wait lead from the items at the beginning to the
items now: each of them fits when it is its turn. A feed with a bound never holds more items than
the bound, and a change of an id that no item has leaves the feed, what was told included, as it
is. -/
theorem follower_mirrors_feed (bound : Nat) (history events : List Event)
    (hkeep : ∀ e ∈ events, e.KeepsFollower) :
    let start := (run { bound } history).subscribe
    let now := start.run events
    (∃ waiting, now.outbox = some waiting ∧
        (start.collected events ++ waiting).foldlM follow? start.items = some now.items) ∧
      (bound ≠ 0 → start.size ≤ bound ∧ now.size ≤ bound) ∧
      ∀ id change, (∀ item ∈ now.items, item.id ≠ id) → now.update id change = now := by
  intro start now
  refine ⟨?_, ?_, fun id change habsent => update_of_absent habsent change⟩
  · have houtbox : start.outbox = some [] := rfl
    have hbegin : [].foldlM follow? start.items = some start.items := rfl
    obtain ⟨held, waiting, hcollected, hwaiting, hfollows⟩ :=
      exists_outbox_run houtbox hbegin hkeep
    refine ⟨waiting, hwaiting, ?_⟩
    rw [List.foldlM_append, hcollected]
    exact hfollows
  · have hempty : WithinBound { bound } := fun _ => Nat.zero_le _
    have hstart : start.WithinBound := hempty.run history
    have hbound : start.bound = bound := bound_run _ history
    have hnow : now.bound = bound := (bound_run start events).trans hbound
    intro hpositive
    exact ⟨hbound ▸ hstart (hbound ▸ hpositive),
      hnow ▸ hstart.run events (hnow ▸ hpositive)⟩

/-- An item of a log. -/
def sampleItem (id line : String) : FeedItem where
  id := id
  ts := "now"
  body := .log line

/-- A line is changed. -/
def sampleChange (item : FeedItem) : FeedItem :=
  { item with body := .log "changed" }

/-- Of two items with one id the later is changed. It is dropped later on, and a change of what is
gone is not told. -/
theorem follower_mirrors_feed_sample :
    let history := [.append (sampleItem "a" "1"), .append (sampleItem "b" "2"),
      .append (sampleItem "a" "3")]
    let events := [.update "a" sampleChange, .append (sampleItem "c" "4"), .collect,
      .append (sampleItem "d" "5"), .update "a" sampleChange]
    let start := (run { bound := 2 } history).subscribe
    let now := start.run events
    (∀ e ∈ events, e.KeepsFollower) ∧
      start.items.map (·.render) = ["[log] 2", "[log] 3"] ∧
      now.items.map (·.render) = ["[log] 4", "[log] 5"] ∧
      ∃ waiting, now.outbox = some waiting ∧ waiting.length = 2 ∧
        (start.collected events ++ waiting).foldlM follow? start.items = some now.items := by
  intro history events start now
  have hkeep : ∀ e ∈ events, e.KeepsFollower := by
    simp [events, Event.KeepsFollower, sampleChange]
  obtain ⟨⟨waiting, hwaiting, hfollows⟩, -⟩ := follower_mirrors_feed 2 history events hkeep
  have hlength : now.outbox.map List.length = some 2 := by decide +kernel
  refine ⟨hkeep, by decide +kernel, by decide +kernel, waiting, hwaiting, ?_, hfollows⟩
  exact Option.some.inj ((congrArg (Option.map List.length) hwaiting).symm.trans hlength)

end LiveFeed

end AgentFeed
