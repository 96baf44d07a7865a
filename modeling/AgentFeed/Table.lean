/-!
# Finite tables

Tables from keys to values, held as a list of pairs in increasing order of the keys. The order is
part of the representation, so a table has one form only, and listing one always gives the same
sequence: this is the order in which the members of a JSON object are written.

Main statements: `get?_insert_self` and `get?_insert_of_ne` say what a table holds after an
insertion, `get?_erase_self` and `get?_erase_of_ne` what it holds after a removal. None of the four
needs a law of the order.
-/

namespace AgentFeed

/-- A finite table from keys to values, in increasing order of the keys. -/
abbrev Table (κ : Type) (α : Type) := List (κ × α)

namespace Table

variable {κ : Type} {α β : Type}

/-! ## Reading -/

/-- The value under a key. -/
def get? [DecidableEq κ] : Table κ α → κ → Option α
  | [], _ => none
  | (k, v) :: rest, key => if k = key then some v else get? rest key

/-- Whether a key is in use. -/
def contains [DecidableEq κ] (t : Table κ α) (key : κ) : Bool :=
  (get? t key).isSome

/-- The keys in use, in order. -/
def keys (t : Table κ α) : List κ :=
  t.map Prod.fst

/-- The same keys with every value passed through a function. -/
def mapValues (f : α → β) (t : Table κ α) : Table κ β :=
  t.map fun (k, v) => (k, f v)

/-! ## Writing -/

/-- The table with a value put under a key, whether or not the key was in use. -/
def insert [DecidableEq κ] [LT κ] [DecidableLT κ] : Table κ α → κ → α → Table κ α
  | [], key, value => [(key, value)]
  | (k, v) :: rest, key, value =>
    if k = key then (key, value) :: rest
    else if key < k then (key, value) :: (k, v) :: rest
    else (k, v) :: insert rest key value

/-- The table without a key. -/
def erase [DecidableEq κ] : Table κ α → κ → Table κ α
  | [], _ => []
  | (k, v) :: rest, key => if k = key then erase rest key else (k, v) :: erase rest key

/-- The table of a list of pairs; of two pairs with one key the later counts. -/
def ofPairs [DecidableEq κ] [LT κ] [DecidableLT κ] (pairs : List (κ × α)) : Table κ α :=
  pairs.foldl (fun t (k, v) => t.insert k v) []

/-- The first table with every pair of the second put in: where both use a key, the second wins. -/
def union [DecidableEq κ] [LT κ] [DecidableLT κ] (base extra : Table κ α) : Table κ α :=
  extra.foldl (fun t (k, v) => t.insert k v) base

/-- The keys increase strictly from each pair to every later one. -/
def Sorted [LT κ] (t : Table κ α) : Prop :=
  t.Pairwise fun a b => a.1 < b.1

/-! ## What is read after what was written -/

@[simp] theorem get?_nil [DecidableEq κ] (key : κ) : get? ([] : Table κ α) key = none := rfl

theorem get?_cons [DecidableEq κ] (k : κ) (v : α) (rest : Table κ α) (key : κ) :
    get? ((k, v) :: rest) key = if k = key then some v else get? rest key := rfl

theorem get?_insert_self [DecidableEq κ] [LT κ] [DecidableLT κ] (t : Table κ α) (key : κ)
    (value : α) : (t.insert key value).get? key = some value := by
  induction t with
  | nil => simp [insert, get?]
  | cons pair rest ih =>
    obtain ⟨k, v⟩ := pair
    simp only [insert]
    split
    · simp [get?]
    · split
      · simp [get?]
      · simp [get?, *]

theorem get?_insert_of_ne [DecidableEq κ] [LT κ] [DecidableLT κ] (t : Table κ α) {key other : κ}
    (value : α) (h : key ≠ other) : (t.insert key value).get? other = t.get? other := by
  induction t with
  | nil => simp [insert, get?, h]
  | cons pair rest ih =>
    obtain ⟨k, v⟩ := pair
    simp only [insert]
    split
    · next hk => subst hk; simp [get?, h]
    · split
      · simp [get?, h]
      · simp only [get?, ih]

theorem get?_erase_self [DecidableEq κ] (t : Table κ α) (key : κ) :
    (t.erase key).get? key = none := by
  induction t with
  | nil => rfl
  | cons pair rest ih =>
    obtain ⟨k, v⟩ := pair
    simp only [erase]
    split
    · exact ih
    · simp [get?, *]

theorem get?_erase_of_ne [DecidableEq κ] (t : Table κ α) {key other : κ} (h : key ≠ other) :
    (t.erase key).get? other = t.get? other := by
  induction t with
  | nil => rfl
  | cons pair rest ih =>
    obtain ⟨k, v⟩ := pair
    simp only [erase]
    split
    · next hk => subst hk; simp [get?, h, ih]
    · simp only [get?, ih]

end Table

end AgentFeed
