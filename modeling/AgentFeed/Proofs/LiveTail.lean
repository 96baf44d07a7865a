import AgentFeed.Feed.Live
import AgentFeed.Replay

/-!
# The end of a feed

A live feed drops its oldest items, and is otherwise the plain feed that gets the same messages:
`LiveFeed.IsTailOf`. Items are looked up from the end, so a change of an item finds it in the live
feed exactly when it was not dropped.

Hence a thread with a live feed is the thread with a plain feed, seen through a window: the two draw
the same ids, remember the same and announce the same (`Delivery.IsTailOf.message`).
-/

namespace AgentFeed

/-! ## 1. Feeds -/

namespace Feed

/-- The newest items, as many as a bound allows; all of them when the bound is zero. -/
def newest (bound : Nat) (newestFirst : List FeedItem) : List FeedItem :=
  if bound = 0 then newestFirst else newestFirst.take bound

theorem newest_nil (bound : Nat) : newest bound [] = [] := by
  rw [newest, List.take_nil, ite_self]

theorem newest_cons_newest (bound : Nat) (item : FeedItem) (items : List FeedItem) :
    newest bound (item :: newest bound items) = newest bound (item :: items) := by
  by_cases h : bound = 0
  · simp only [newest, if_pos h]
  · obtain ⟨n, rfl⟩ := Nat.exists_eq_succ_of_ne_zero h
    simp only [newest, if_neg h, List.take_succ_cons, List.take_take]
    rw [Nat.min_eq_left (Nat.le_succ n)]

theorem updateFirst_take (id : String) (change : FeedItem → FeedItem) (items : List FeedItem)
    (n : Nat) : (updateFirst id change items).take n = updateFirst id change (items.take n) := by
  induction items generalizing n with
  | nil => rw [updateFirst, List.take_nil, updateFirst]
  | cons item rest ih =>
    cases n with
    | zero => rfl
    | succ n =>
      rw [updateFirst, List.take_succ_cons, updateFirst]
      split
      · rfl
      · rw [List.take_succ_cons, ih]

theorem updateFirst_newest (bound : Nat) (id : String) (change : FeedItem → FeedItem)
    (items : List FeedItem) :
    newest bound (updateFirst id change items) = updateFirst id change (newest bound items) := by
  by_cases h : bound = 0
  · simp only [newest, if_pos h]
  · simp only [newest, if_neg h]
    exact updateFirst_take id change items bound

theorem reverse_newest (bound : Nat) (items : List FeedItem) :
    (newest bound items).reverse = lastItems bound items.reverse := by
  by_cases h : bound = 0
  · simp only [newest, lastItems, if_pos h]
  · simp only [newest, lastItems, if_neg h]
    rw [List.reverse_take, List.length_reverse]

theorem lastItems_sublist (bound : Nat) (items : List FeedItem) :
    List.Sublist (lastItems bound items) items := by
  rw [lastItems]
  split
  · exact List.Sublist.refl items
  · exact List.drop_sublist _ items

/-- What was cut before is not missed when more is cut. -/
theorem lastItems_lastItems_append (bound : Nat) (items newer : List FeedItem) :
    lastItems bound (lastItems bound items ++ newer) = lastItems bound (items ++ newer) := by
  by_cases h : bound = 0
  · simp only [lastItems, if_pos h]
  · simp only [lastItems, if_neg h]
    have hcut : items.drop (items.length - bound) ++ newer
        = (items ++ newer).drop (items.length - bound) :=
      (List.drop_append_of_le_length (Nat.sub_le _ _)).symm
    rw [hcut, List.drop_drop, List.length_drop, List.length_append]
    congr 1
    omega

/-- What the last items look like depends on what all items look like. -/
theorem map_lastItems_congr {β : Type} {view view' : FeedItem → β} {items items' : List FeedItem}
    (h : items.map view = items'.map view') (bound : Nat) :
    (lastItems bound items).map view = (lastItems bound items').map view' := by
  have hlength : items.length = items'.length := by
    rw [← List.length_map view, h, List.length_map]
  rw [lastItems, lastItems]
  split
  · exact h
  · rw [List.map_drop, List.map_drop, h, hlength]

end Feed

namespace LiveFeed

/-- The live feed keeps as many items as a bound allows, the last ones of a plain feed. -/
structure IsTailOf (bound : Nat) (l : LiveFeed) (f : Feed) : Prop where
  /-- The bound is that of the live feed. -/
  bound_eq : l.bound = bound
  /-- The live feed has the newest items. -/
  newest_eq : l.feed.newestFirst = Feed.newest bound f.newestFirst

variable {bound : Nat} {l : LiveFeed} {f : Feed}

theorem IsTailOf.items_eq (h : l.IsTailOf bound f) : l.items = Feed.lastItems bound f.items := by
  rw [items, Feed.items, h.newest_eq, Feed.reverse_newest]
  rfl

theorem trim_feed (l : LiveFeed) :
    l.trim.bound = l.bound ∧ l.trim.feed.newestFirst = Feed.newest l.bound l.feed.newestFirst := by
  rw [trim]
  by_cases h : l.bound = 0 ∨ l.feed.newestFirst.length ≤ l.bound
  · rw [if_pos h]
    refine ⟨rfl, ?_⟩
    rw [Feed.newest]
    split
    · rfl
    · next hbound => rw [List.take_of_length_le (h.resolve_left hbound)]
  · rw [if_neg h]
    refine ⟨rfl, ?_⟩
    rw [Feed.newest, if_neg fun hbound => h (.inl hbound)]
    rfl

/-- An item is appended at the end, and room is made for it at the other one. -/
theorem items_append (l : LiveFeed) (item : FeedItem) :
    (l.append item).items = Feed.lastItems l.bound (l.items ++ [item]) := by
  obtain ⟨-, hcut⟩ := trim_feed (tell { l with feed := l.feed.append item } (.appended item))
  calc (l.append item).items
      = (Feed.newest l.bound (item :: l.feed.newestFirst)).reverse := congrArg List.reverse hcut
    _ = Feed.lastItems l.bound (l.items ++ [item]) := by
      rw [Feed.reverse_newest, List.reverse_cons]
      rfl

theorem IsTailOf.append (h : l.IsTailOf bound f) (item : FeedItem) :
    (l.append item).IsTailOf bound (f.append item) := by
  obtain ⟨hbound, hnewest⟩ := h
  obtain ⟨htrim, hcut⟩ := trim_feed (tell { l with feed := l.feed.append item } (.appended item))
  refine ⟨htrim.trans hbound, hcut.trans ?_⟩
  have hall : (tell { l with feed := l.feed.append item } (.appended item)).feed.newestFirst
      = item :: Feed.newest bound f.newestFirst := congrArg (item :: ·) hnewest
  rw [hall]
  exact (congrArg (Feed.newest · _) hbound).trans (Feed.newest_cons_newest bound item _)

theorem IsTailOf.update (h : l.IsTailOf bound f) (id : String) (change : FeedItem → FeedItem) :
    (l.update id change).IsTailOf bound (f.update id change) := by
  obtain ⟨hbound, hnewest⟩ := h
  have hupdate : Feed.updateFirst id change l.feed.newestFirst
      = Feed.newest bound (Feed.updateFirst id change f.newestFirst) := by
    rw [hnewest, Feed.updateFirst_newest]
  rw [LiveFeed.update]
  cases hget : l.feed.get? id with
  | some item => exact ⟨hbound, hupdate⟩
  | none =>
    -- The item is gone or never was: a change would not be seen among the newest ones either.
    refine ⟨hbound, Eq.trans ?_ hupdate⟩
    rw [Feed.get?, List.find?_eq_none] at hget
    rw [Feed.updateFirst_eq_self]
    intro item hitem heq
    exact hget item hitem (decide_eq_true heq)

end LiveFeed

/-! ## 2. Threads at work -/

namespace Delivery

/-- A thread with a live feed, and the same thread with a plain feed. -/
structure IsTailOf (bound : Nat) (l : Delivery LiveFeed) (d : Delivery Feed) : Prop where
  /-- Messages are shown the same way. -/
  dispatcher : l.dispatcher = d.dispatcher
  /-- The same is remembered. -/
  state : l.state = d.state
  /-- The same is lent to the two. -/
  host : l.host = d.host
  /-- The live feed shows the end of the plain one. -/
  feed : l.sink.IsTailOf bound d.sink

theorem IsTailOf.message {bound : Nat} {l : Delivery LiveFeed} {d : Delivery Feed}
    (h : l.IsTailOf bound d) (m : WireMessage) : (l.message m).IsTailOf bound (d.message m) := by
  obtain ⟨hdispatcher, hstate, hhost, hfeed⟩ := h
  rw [Delivery.message, Delivery.message, hdispatcher, hstate, hhost, take, take, hhost]
  rcases (d.dispatcher.apply d.host.ids.head d.state m).2.edit with _ | (body | ⟨id, change⟩)
  · exact ⟨rfl, rfl, rfl, hfeed⟩
  · exact ⟨rfl, rfl, rfl, hfeed.append _⟩
  · exact ⟨rfl, rfl, rfl, hfeed.update _ _⟩

theorem IsTailOf.deliverAll {bound : Nat} {l : Delivery LiveFeed} {d : Delivery Feed}
    (h : l.IsTailOf bound d) (payloads : List Json) :
    (l.deliverAll payloads).IsTailOf bound (d.deliverAll payloads) := by
  induction payloads generalizing l d with
  | nil => exact h
  | cons p rest ih => exact ih (h.message (WireMessage.decode p))

/-- A live feed that holds nothing is the end of the empty feed. -/
theorem isTailOf_start (bound : Nat) (outbox : Option (List FeedChange)) (dispatcher : Dispatcher)
    (state : Accumulation) (host : Host) :
    IsTailOf bound { dispatcher, state, sink := { bound, outbox }, host }
      { dispatcher, state, sink := Feed.empty, host } where
  dispatcher := rfl
  state := rfl
  host := rfl
  feed := ⟨rfl, (Feed.newest_nil bound).symm⟩

end Delivery

end AgentFeed
