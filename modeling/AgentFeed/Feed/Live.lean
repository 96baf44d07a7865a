import AgentFeed.Feed.List

/-!
# Live feeds

The feed of a connected thread. It keeps at most as many items as its bound allows, dropping the
oldest ones beyond that, and tells its subscriber every change: the item appended, the whole item
after an update, and the ids of the items dropped. A bound of zero keeps everything.

What a subscriber was told and has not yet collected is part of the feed. Without a subscriber
nothing is told.
-/

namespace AgentFeed

/-- A change that a live feed tells its subscriber. -/
inductive FeedChange where
  /-- An item was appended. -/
  | appended (item : FeedItem)
  /-- An item now has this value. -/
  | updated (item : FeedItem)
  /-- The oldest items were dropped. -/
  | trimmed (ids : List String)

/-- A bounded feed with at most one subscriber. -/
structure LiveFeed where
  /-- How many items are kept; zero for all. -/
  bound : Nat := 500
  /-- The items. -/
  feed : Feed := .empty
  /-- What the subscriber was told and has not collected, oldest first; nothing when nobody is
  subscribed. -/
  outbox : Option (List FeedChange) := none

namespace LiveFeed

/-- The items, oldest first. -/
def items (f : LiveFeed) : List FeedItem :=
  f.feed.items

/-- How many items the feed holds. -/
def size (f : LiveFeed) : Nat :=
  f.feed.size

/-- Whether the feed holds no item. -/
def isEmpty (f : LiveFeed) : Bool :=
  f.feed.isEmpty

/-- The last item with an id. -/
def get? (f : LiveFeed) (id : String) : Option FeedItem :=
  f.feed.get? id

/-! ## 1. Subscribing -/

/-- The feed with a new subscriber in place of any earlier one. -/
def subscribe (f : LiveFeed) : LiveFeed :=
  { f with outbox := some [] }

/-- The feed without a subscriber. -/
def unsubscribe (f : LiveFeed) : LiveFeed :=
  { f with outbox := none }

/-- What the subscriber was told, and the feed after it was collected. -/
def collect (f : LiveFeed) : List FeedChange × LiveFeed :=
  (f.outbox.getD [], { f with outbox := f.outbox.map fun _ => [] })

/-- The feed after a change was told. -/
def tell (f : LiveFeed) (change : FeedChange) : LiveFeed :=
  { f with outbox := f.outbox.map (· ++ [change]) }

/-! ## 2. Changing -/

/-- The feed cut to its bound. -/
def trim (f : LiveFeed) : LiveFeed :=
  if f.bound = 0 ∨ f.feed.newestFirst.length ≤ f.bound then f
  else
    let dropped := (f.feed.newestFirst.drop f.bound).reverse
    tell { f with feed := ⟨f.feed.newestFirst.take f.bound⟩ } (.trimmed (dropped.map (·.id)))

/-- The feed with an item at its end. -/
def append (f : LiveFeed) (item : FeedItem) : LiveFeed :=
  -- A follower sees the item before it sees what made room for it.
  trim (tell { f with feed := f.feed.append item } (.appended item))

/-- The feed with its last item of an id changed; the same feed when no item has the id. -/
def update (f : LiveFeed) (id : String) (change : FeedItem → FeedItem) : LiveFeed :=
  match f.feed.get? id with
  | none => f
  | some item => tell { f with feed := f.feed.update id change } (.updated (change item))

instance : FeedSink LiveFeed where
  append := append
  update := update

end LiveFeed

end AgentFeed
