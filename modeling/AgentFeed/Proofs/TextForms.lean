import AgentFeed.Timestamp
import AgentFeed.Uuid
import Mathlib.Data.Nat.Digits.Defs

/-!
# The forms of identifiers and times

Whatever the random bits are, the text made from them is that of a random identifier
(`Uuid.isVersion4_text`). The text of a time has the shape of a time up to the end of the year 9999,
and no longer when the year takes a fifth digit (`Timestamp.hasShape_text_iff`).
-/

namespace AgentFeed

/-! ## 1. Identifiers -/

namespace Uuid

theorem isDigit_digit (random : Nat → Nat) (place : Nat) :
    isDigit (digit random place) = true := by
  have hchars : ∀ n < 16, isDigit (Nat.digitChar n) = true := by decide
  rw [digit]
  split
  · rfl
  · split
    · exact hchars _ (by omega)
    · exact hchars _ (Nat.mod_lt _ (by decide))

section Groups

variable {digit : Nat → Char} (hdigit : ∀ place, isDigit (digit place) = true)
include hdigit

theorem hyphen_notMem_group (place size : Nat) :
    '-' ∉ (List.range size).map fun i => digit (place + i) := by
  intro hmem
  obtain ⟨i, -, hi⟩ := List.mem_map.1 hmem
  have hhyphen := hdigit (place + i)
  rw [hi] at hhyphen
  exact absurd hhyphen (by decide)

theorem filter_group (place size : Nat) :
    ((List.range size).map fun i => digit (place + i)).filter (· ≠ '-')
      = (List.range size).map fun i => digit (place + i) := by
  rw [List.filter_eq_self]
  intro c hc
  exact decide_eq_true fun heq => hyphen_notMem_group hdigit place size (heq ▸ hc)

/-- The groups have the sizes they were made with. -/
theorem groupsFit_grouped : ∀ (place : Nat) (sizes : List Nat),
    groupsFit sizes (grouped digit place sizes) = true
  | _, [] => rfl
  | place, [size] => by
    simp [groupsFit, grouped, hyphen_notMem_group hdigit place size]
  | place, size :: next :: rest => by
    have hrest := groupsFit_grouped (place + size) (next :: rest)
    have hlength : size = ((List.range size).map fun i => digit (place + i)).length := by simp
    have hnone := hyphen_notMem_group hdigit place size
    simp only [groupsFit, grouped]
    generalize (List.range size).map (fun i => digit (place + i)) = group at hlength hnone ⊢
    subst hlength
    simp [hnone, hrest]

/-- Without hyphens the groups are the digits one after another. -/
theorem filter_grouped : ∀ (place : Nat) (sizes : List Nat),
    (grouped digit place sizes).filter (· ≠ '-')
      = (List.range sizes.sum).map fun i => digit (place + i)
  | _, [] => rfl
  | place, [size] => by
    rw [grouped, List.sum_singleton, filter_group hdigit]
  | place, size :: next :: rest => by
    have hrest := filter_grouped (place + size) (next :: rest)
    have hsum : (size :: next :: rest).sum = size + (next :: rest).sum := List.sum_cons
    rw [grouped, List.filter_append, filter_group hdigit, List.filter_cons_of_neg (by simp), hrest,
      hsum, List.range_add, List.map_append, List.map_map]
    · simp only [Function.comp_def, Nat.add_assoc]
    · simp

end Groups

/-- **The text made from random bits is that of a random identifier**, whatever the bits are. -/
theorem isVersion4_text (random : Nat → Nat) : isVersion4 (text random) = true := by
  have hdigit := isDigit_digit random
  have hvariants : ∀ n < 4, (['8', '9', 'a', 'b'].contains (Nat.digitChar (8 + n))) = true := by
    decide
  have hvariant := hvariants (random variantPlace % 4) (Nat.mod_lt _ (by decide))
  have hrow : ∀ place < groups.sum,
      ((List.range groups.sum).map fun i => digit random (0 + i))[place]?
        = some (digit random place) := by
    intro place h
    rw [List.getElem?_map, List.getElem?_range h, Option.map_some, Nat.zero_add]
  rw [isVersion4, text, String.toList_ofList, groupsFit_grouped hdigit, filter_grouped hdigit,
    digitsFit, hrow versionPlace (by decide), hrow variantPlace (by decide)]
  have hversion : digit random versionPlace = '4' := if_pos rfl
  have hplace : digit random variantPlace = Nat.digitChar (8 + random variantPlace % 4) :=
    (if_neg (by decide)).trans (if_pos rfl)
  rw [hversion, hplace]
  simpa [hdigit, or_assoc] using hvariant

end Uuid

/-! ## 2. Times -/

namespace CalendarDate

/-- The month and the day of a date are those of a calendar. -/
theorem bounds_ofDays (days : Nat) :
    let date := ofDays days
    (1 ≤ date.month ∧ date.month ≤ 12) ∧ 1 ≤ date.day ∧ date.day ≤ 31 := by
  intro date
  simp only [date, ofDays, ofMarchDays]
  split
  · dsimp only
    omega
  · dsimp only
    omega

end CalendarDate

namespace Timestamp

/-- A character with a zero for a digit. -/
def zeroed (c : Char) : Char :=
  if c.isDigit then '0' else c

theorem hasShape_eq (s : String) : hasShape s = (s.toList.map zeroed == shape) := rfl

theorem length_padded (width n : Nat) :
    (padded width n).length = max width (Nat.toDigits 10 n).length := by
  rw [padded, List.length_append, List.length_replicate]
  omega

theorem length_padded_eq_iff {width : Nat} (hwidth : 0 < width) (n : Nat) :
    (padded width n).length = width ↔ n < 10 ^ width := by
  rw [length_padded, ← Nat.length_toDigits_le_iff (by decide) hwidth]
  omega

theorem map_zeroed_padded (width n : Nat) :
    (padded width n).map zeroed = List.replicate (padded width n).length '0' := by
  rw [List.map_eq_replicate_iff]
  intro c hc
  rw [padded, List.mem_append] at hc
  rcases hc with hzero | hdigit
  · rw [List.eq_of_mem_replicate hzero]
    rfl
  · exact if_pos (Nat.isDigit_of_mem_toDigits (by decide) (by decide) hdigit)

theorem map_zeroed_padded_of_lt {width n : Nat} (hwidth : 0 < width) (h : n < 10 ^ width) :
    (padded width n).map zeroed = List.replicate width '0' := by
  rw [map_zeroed_padded, (length_padded_eq_iff hwidth n).2 h]

/-- **The text of a time has the shape of a time** as long as the year has four digits. -/
theorem hasShape_text_iff (millis : Nat) :
    hasShape (text millis) = true ↔ (CalendarDate.ofDays (millis / 1000 / 86400)).year < 10000 := by
  have hdate := CalendarDate.bounds_ofDays (millis / 1000 / 86400)
  rw [hasShape_eq, text, String.toList_ofList]
  generalize CalendarDate.ofDays (millis / 1000 / 86400) = date at hdate ⊢
  -- All numbers but the year have as many digits as there is room for.
  have htwo : ∀ n < 100, (padded 2 n).map zeroed = ['0', '0'] :=
    fun n h => map_zeroed_padded_of_lt (by decide) h
  have hthree : ∀ n < 1000, (padded 3 n).map zeroed = ['0', '0', '0'] :=
    fun n h => map_zeroed_padded_of_lt (by decide) h
  have hmonth := htwo date.month (by omega)
  have hday := htwo date.day (by omega)
  have hhour := htwo (millis / 1000 / 3600 % 24) (by omega)
  have hminute := htwo (millis / 1000 / 60 % 60) (by omega)
  have hsecond := htwo (millis / 1000 % 60) (by omega)
  have hmilli := hthree (millis % 1000) (by omega)
  simp only [List.map_append, List.map_cons, List.map_nil, hmonth, hday, hhour, hminute, hsecond,
    hmilli, map_zeroed_padded 4 date.year]
  have hyear : (padded 4 date.year).length = 4 ↔ date.year < 10000 :=
    length_padded_eq_iff (by decide) date.year
  rw [← hyear, beq_iff_eq]
  constructor
  · intro h
    have hlength := congrArg List.length h
    simp only [List.length_append, List.length_replicate, List.length_cons, List.length_nil]
      at hlength
    exact Nat.add_right_cancel (m := 20) hlength
  · intro h
    rw [h]
    decide

end Timestamp

end AgentFeed
