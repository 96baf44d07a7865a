import AgentFeed.Table
import Mathlib.Data.List.Induction
import Mathlib.Data.String.Basic

/-!
# Looking up in tables

What a table holds after it was written, in the form the later files rewrite with, and what the
order of the keys buys: in a table whose keys increase every key stands once, so a pair is in the
list exactly when its key looks it up.

`get?_insert` and `get?_erase` need no law of the order. `Sorted.insert` does, and it is the only
operation whose result could fail to be in order; `Sorted.get?_eq_some_iff` is what the increasing
keys are kept for.
-/

namespace AgentFeed.Table

variable {κ : Type} {α β : Type}

/-! ## 1. Look-up -/

section LookUp

variable [DecidableEq κ]

theorem contains_iff {t : Table κ α} {key : κ} :
    t.contains key = true ↔ ∃ value, t.get? key = some value := by
  rw [contains, Option.isSome_iff_exists]

theorem contains_eq_false_iff {t : Table κ α} {key : κ} :
    t.contains key = false ↔ t.get? key = none := by
  rw [contains, Option.isSome_eq_false_iff, Option.isNone_iff_eq_none]

theorem mem_keys {t : Table κ α} {key : κ} : key ∈ t.keys ↔ t.contains key = true := by
  induction t with
  | nil => simp [keys, contains]
  | cons pair rest ih =>
    obtain ⟨k, v⟩ := pair
    rw [keys, List.map_cons, List.mem_cons, contains, get?_cons]
    by_cases h : k = key
    · rw [if_pos h]
      exact ⟨fun _ => rfl, fun _ => .inl h.symm⟩
    · rw [if_neg h, ← contains, ← ih, keys]
      exact ⟨fun hor => hor.resolve_left fun heq => h heq.symm, .inr⟩

theorem mem_of_get?_eq_some {t : Table κ α} {key : κ} {value : α}
    (h : t.get? key = some value) : (key, value) ∈ t := by
  induction t with
  | nil => simp at h
  | cons pair rest ih =>
    obtain ⟨k, v⟩ := pair
    rw [get?_cons] at h
    by_cases hk : k = key
    · rw [if_pos hk, Option.some.injEq] at h
      rw [hk, h]
      exact List.mem_cons_self
    · rw [if_neg hk] at h
      exact List.mem_cons_of_mem _ (ih h)

theorem get?_erase (t : Table κ α) (key other : κ) :
    (t.erase key).get? other = if key = other then none else t.get? other := by
  by_cases h : key = other
  · rw [if_pos h, ← h]
    exact get?_erase_self t key
  · rw [if_neg h]
    exact get?_erase_of_ne t h

theorem erase_eq_filter (t : Table κ α) (key : κ) :
    t.erase key = t.filter fun (k, _) => k ≠ key := by
  induction t with
  | nil => rfl
  | cons pair rest ih =>
    obtain ⟨k, v⟩ := pair
    rw [erase, ih]
    by_cases h : k = key
    · rw [if_pos h, List.filter_cons_of_neg (by simpa using h)]
    · rw [if_neg h, List.filter_cons_of_pos (by simpa using h)]

theorem erase_erase_self (t : Table κ α) (key : κ) : (t.erase key).erase key = t.erase key := by
  rw [erase_eq_filter, erase_eq_filter, List.filter_filter]
  simp only [Bool.and_self]

/-- Values that are changed under knowledge of their key keep their places. -/
theorem get?_map (f : κ → α → β) (t : Table κ α) (key : κ) :
    get? (t.map fun (k, v) => (k, f k v)) key = (t.get? key).map (f key) := by
  induction t with
  | nil => rfl
  | cons pair rest ih =>
    obtain ⟨k, v⟩ := pair
    rw [List.map_cons, get?_cons, get?_cons, ih]
    by_cases hk : k = key
    · rw [if_pos hk, if_pos hk, hk, Option.map_some]
    · rw [if_neg hk, if_neg hk]

theorem get?_mapValues (f : α → β) (t : Table κ α) (key : κ) :
    (t.mapValues f).get? key = (t.get? key).map f :=
  get?_map (fun _ => f) t key

variable [LT κ] [DecidableLT κ]

theorem get?_insert (t : Table κ α) (key : κ) (value : α) (other : κ) :
    (t.insert key value).get? other = if key = other then some value else t.get? other := by
  by_cases h : key = other
  · rw [if_pos h, ← h]
    exact get?_insert_self t key value
  · rw [if_neg h]
    exact get?_insert_of_ne t value h

/-- What is put under a key is all that goes with the key. -/
theorem erase_insert_self (t : Table κ α) (key : κ) (value : α) :
    (t.insert key value).erase key = t.erase key := by
  induction t with
  | nil => exact if_pos rfl
  | cons pair rest ih =>
    obtain ⟨k, v⟩ := pair
    rw [insert]
    by_cases hk : k = key
    · rw [if_pos hk, erase, erase, if_pos rfl, if_pos hk]
    · rw [if_neg hk]
      split
      · rw [erase, if_pos rfl]
      · rw [erase, erase, if_neg hk, if_neg hk, ih]

theorem contains_insert {t : Table κ α} {key : κ} {value : α} {other : κ} :
    (t.insert key value).contains other = true ↔ key = other ∨ t.contains other = true := by
  rw [contains, get?_insert, contains]
  by_cases h : key = other
  · rw [if_pos h]
    exact ⟨fun _ => .inl h, fun _ => rfl⟩
  · rw [if_neg h]
    exact ⟨.inr, fun hor => hor.resolve_left h⟩

theorem mapValues_insert (f : α → β) (t : Table κ α) (key : κ) (value : α) :
    (t.insert key value).mapValues f = (t.mapValues f).insert key (f value) := by
  induction t with
  | nil => rfl
  | cons pair rest ih =>
    obtain ⟨k, v⟩ := pair
    simp only [mapValues, insert, List.map_cons] at ih ⊢
    split
    · rfl
    · split
      · rfl
      · rw [List.map_cons, ih]

omit [LT κ] [DecidableLT κ] in
theorem mapValues_erase (f : α → β) (t : Table κ α) (key : κ) :
    (t.erase key).mapValues f = (t.mapValues f).erase key := by
  induction t with
  | nil => rfl
  | cons pair rest ih =>
    obtain ⟨k, v⟩ := pair
    simp only [mapValues, erase, List.map_cons] at ih ⊢
    split
    · exact ih
    · rw [List.map_cons, ih]

theorem mem_insert {t : Table κ α} {key : κ} {value : α} {pair : κ × α}
    (h : pair ∈ t.insert key value) : pair = (key, value) ∨ pair ∈ t := by
  induction t with
  | nil => exact .inl (List.mem_singleton.1 h)
  | cons head rest ih =>
    obtain ⟨k, v⟩ := head
    rw [insert] at h
    split at h
    · exact (List.mem_cons.1 h).imp_right (List.mem_cons_of_mem _)
    · split at h
      · exact List.mem_cons.1 h
      · rcases List.mem_cons.1 h with h | h
        · exact .inr (h ▸ List.mem_cons_self)
        · exact (ih h).imp_right (List.mem_cons_of_mem _)

/-- A pair that a list of pairs holds has its key in use in the table of the list. -/
theorem contains_ofPairs {pairs : List (κ × α)} {key : κ} :
    (ofPairs pairs).contains key = true ↔ ∃ value, (key, value) ∈ pairs := by
  -- The induction is on the pairs put in so far, hence from the right.
  induction pairs using List.reverseRecOn with
  | nil => simp [ofPairs, contains]
  | append_singleton pairs pair ih =>
    obtain ⟨k, v⟩ := pair
    rw [contains_iff] at ih ⊢
    simp only [ofPairs, List.foldl_append, List.foldl_cons, List.foldl_nil] at ih ⊢
    rw [get?_insert]
    by_cases hk : k = key
    · subst hk
      simp
    · rw [if_neg hk, ih]
      simp only [List.mem_append, List.mem_singleton, Prod.mk.injEq]
      constructor
      · rintro ⟨value, hmem⟩
        exact ⟨value, .inl hmem⟩
      · rintro ⟨value, hmem | ⟨hkey, -⟩⟩
        · exact ⟨value, hmem⟩
        · exact absurd hkey.symm hk

end LookUp

/-! ## 2. Keys in order -/

section Order

variable [LT κ]

theorem sorted_nil : Sorted ([] : Table κ α) := List.Pairwise.nil

theorem sorted_cons {k : κ} {v : α} {rest : Table κ α} :
    Sorted ((k, v) :: rest) ↔ (∀ pair ∈ rest, k < pair.1) ∧ Sorted rest :=
  List.pairwise_cons

/-- Order is a matter of the keys alone. -/
theorem Sorted.map {t : Table κ α} (h : t.Sorted) (f : κ → α → β) :
    Sorted (t.map fun (k, v) => (k, f k v)) := by
  rw [Sorted, List.pairwise_map]
  exact h

variable [DecidableEq κ]

theorem Sorted.erase {t : Table κ α} (h : t.Sorted) (key : κ) : (t.erase key).Sorted := by
  have hsub : ∀ t : Table κ α, List.Sublist (t.erase key) t := by
    intro t
    induction t with
    | nil => exact List.Sublist.slnil
    | cons pair rest ih =>
      obtain ⟨k, v⟩ := pair
      rw [Table.erase]
      split
      · exact ih.cons _
      · exact ih.cons_cons _
  exact List.Pairwise.sublist (hsub t) h

variable [DecidableLT κ] [IsStrictTotalOrder κ (· < ·)]

theorem Sorted.insert {t : Table κ α} (h : t.Sorted) (key : κ) (value : α) :
    (t.insert key value).Sorted := by
  induction t with
  | nil => exact List.pairwise_singleton _ _
  | cons pair rest ih =>
    obtain ⟨k, v⟩ := pair
    obtain ⟨hhead, hrest⟩ := sorted_cons.1 h
    rw [Table.insert]
    by_cases hk : k = key
    · rw [if_pos hk, sorted_cons]
      exact ⟨hk ▸ hhead, hrest⟩
    · rw [if_neg hk]
      by_cases hlt : key < k
      · rw [if_pos hlt, sorted_cons]
        refine ⟨?_, h⟩
        intro pair hpair
        rcases List.mem_cons.1 hpair with hpair | hpair
        · rw [hpair]
          exact hlt
        · exact trans_of (· < ·) hlt (hhead pair hpair)
      · rw [if_neg hlt, sorted_cons]
        refine ⟨?_, ih hrest⟩
        intro pair hpair
        -- Neither equal nor below, so above: the one place where the order has to be total.
        have hgt : k < key := by
          rcases trichotomous_of (· < ·) k key with hgt | heq | hlt'
          · exact hgt
          · exact absurd heq hk
          · exact absurd hlt' hlt
        rcases mem_insert hpair with hpair | hpair
        · rw [hpair]
          exact hgt
        · exact hhead pair hpair

theorem sorted_ofPairs (pairs : List (κ × α)) : (ofPairs pairs).Sorted := by
  induction pairs using List.reverseRecOn with
  | nil => exact sorted_nil
  | append_singleton rest pair ih =>
    rw [ofPairs, List.foldl_append]
    exact ih.insert pair.1 pair.2

omit [DecidableLT κ] in
/-- In a table in order, the pairs in the list are those that look-up finds. -/
theorem Sorted.get?_eq_some_iff {t : Table κ α} (h : t.Sorted) {key : κ} {value : α} :
    t.get? key = some value ↔ (key, value) ∈ t := by
  refine ⟨mem_of_get?_eq_some, ?_⟩
  induction t with
  | nil => simp
  | cons pair rest ih =>
    obtain ⟨k, v⟩ := pair
    obtain ⟨hhead, hrest⟩ := sorted_cons.1 h
    intro hmem
    rw [get?_cons]
    rcases List.mem_cons.1 hmem with heq | hmem
    · obtain ⟨rfl, rfl⟩ := Prod.mk.inj heq
      exact if_pos rfl
    · have hne : k ≠ key := fun heq => irrefl_of (· < ·) key (heq ▸ hhead _ hmem)
      rw [if_neg hne]
      exact ih hrest hmem

theorem insert_of_lt {t : Table κ α} {key : κ} (h : ∀ pair ∈ t, pair.1 < key) (value : α) :
    t.insert key value = t ++ [(key, value)] := by
  induction t with
  | nil => rfl
  | cons pair rest ih =>
    obtain ⟨k, v⟩ := pair
    obtain ⟨hk, hrest⟩ := List.forall_mem_cons.1 h
    have hne : k ≠ key := fun heq => irrefl_of (· < ·) key (heq ▸ hk)
    have hnlt : ¬key < k := fun hlt => irrefl_of (· < ·) key (trans_of (· < ·) hlt hk)
    rw [Table.insert, if_neg hne, if_neg hnlt, ih hrest, List.cons_append]

/-- A table in order is the table of its pairs. -/
theorem Sorted.ofPairs_eq_self {t : Table κ α} (h : t.Sorted) : ofPairs t = t := by
  -- Each pair goes behind those put in before it, hence the induction from the right.
  induction t using List.reverseRecOn with
  | nil => rfl
  | append_singleton t pair ih =>
    obtain ⟨k, v⟩ := pair
    obtain ⟨hsorted, -, hlast⟩ := List.pairwise_append.1 h
    have hprefix : ofPairs t = t := ih hsorted
    rw [ofPairs] at hprefix ⊢
    rw [List.foldl_append, hprefix]
    exact insert_of_lt (fun pair hpair => hlast pair hpair (k, v) (List.mem_singleton_self _)) v

end Order

end AgentFeed.Table
