import AgentFeed.Feed.Edit
import AgentFeed.Host

/-!
# Feeds

A feed is a sequence of items that grows at its end. Items are looked up by id from the end, as a
change almost always concerns a recent one, so of two items with one id the later is meant. `Feed`
keeps the newest item first; `Feed.items` is the sequence as it is shown.

`FeedSink` is what a run needs of a feed: to append an item, and to change the item with an id. The
plain feed here and the bounded feed of a live thread are both sinks.

Main statements: `items_append`, and `update_eq_self` for an id that no item has.
-/

namespace AgentFeed

/-- A sequence of items, the newest first. -/
structure Feed where
  /-- The items, the newest first. -/
  newestFirst : List FeedItem := []

namespace Feed

/-- The empty feed. -/
def empty : Feed := {}

/-- The items as they are shown, oldest first. -/
def items (f : Feed) : List FeedItem :=
  f.newestFirst.reverse

/-- How many items the feed holds. -/
def size (f : Feed) : Nat :=
  f.newestFirst.length

/-- Whether the feed holds no item. -/
def isEmpty (f : Feed) : Bool :=
  f.newestFirst.isEmpty

/-- The last item with an id. -/
def get? (f : Feed) (id : String) : Option FeedItem :=
  f.newestFirst.find? (·.id = id)

/-- The feed with an item at its end. -/
def append (f : Feed) (item : FeedItem) : Feed :=
  { newestFirst := item :: f.newestFirst }

/-- The list with its first item of an id changed. -/
def updateFirst (id : String) (change : FeedItem → FeedItem) : List FeedItem → List FeedItem
  | [] => []
  | item :: rest =>
    if item.id = id then change item :: rest else item :: updateFirst id change rest

/-- The feed with its last item of an id changed; the same feed when no item has the id. -/
def update (f : Feed) (id : String) (change : FeedItem → FeedItem) : Feed :=
  { newestFirst := updateFirst id change f.newestFirst }

/-- The last items of a list, as many as a bound allows; all of them when the bound is zero. -/
def lastItems (bound : Nat) (items : List FeedItem) : List FeedItem :=
  if bound = 0 then items else items.drop (items.length - bound)

/-! ## What is shown -/

@[simp] theorem items_empty : empty.items = [] := rfl

@[simp] theorem items_append (f : Feed) (item : FeedItem) :
    (f.append item).items = f.items ++ [item] := by
  simp [items, append]

theorem updateFirst_eq_self {id : String} {change : FeedItem → FeedItem} {items : List FeedItem}
    (h : ∀ item ∈ items, item.id ≠ id) : updateFirst id change items = items := by
  induction items with
  | nil => rfl
  | cons item rest ih =>
    have hne := h item List.mem_cons_self
    simp [updateFirst, hne, ih fun x hx => h x (List.mem_cons_of_mem _ hx)]

theorem update_eq_self {f : Feed} {id : String} {change : FeedItem → FeedItem}
    (h : ∀ item ∈ f.items, item.id ≠ id) : f.update id change = f := by
  have : ∀ item ∈ f.newestFirst, item.id ≠ id := fun x hx => h x (by simpa [items] using hx)
  simp [update, updateFirst_eq_self this]

end Feed

/-! ## Sinks -/

/-- What a run needs of a feed. -/
class FeedSink (σ : Type) where
  /-- Append an item. -/
  append : σ → FeedItem → σ
  /-- Change the last item with an id, if there is one. -/
  update : σ → String → (FeedItem → FeedItem) → σ

instance : FeedSink Feed where
  append := Feed.append
  update := Feed.update

/-- The item with an amended body. -/
def FeedItem.amend (item : FeedItem) (change : Amendment) : FeedItem :=
  { item with body := change.apply item.body }

/-- A sink and its host after an edit, if there is one. A new item gets the next id and the time. -/
def FeedSink.edit {σ : Type} [FeedSink σ] (sink : σ) (h : Host) : Option FeedEdit → σ × Host
  | none => (sink, h)
  | some (.append body) => (FeedSink.append sink (h.newItem body).1, (h.newItem body).2)
  | some (.amend id change) => (FeedSink.update sink id (·.amend change), h)

end AgentFeed
