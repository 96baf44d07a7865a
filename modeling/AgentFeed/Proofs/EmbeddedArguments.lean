import AgentFeed.Proofs.JsonRoundTrip
import AgentFeed.Proofs.TranscriptLines
import AgentFeed.Tool.Arguments

/-!
# Arguments in the middle of a text

A model likes to talk around the arguments of a tool. They are looked for between the first opening
brace of the text and the last closing one, then between the brackets. A value that is written in
between is cut out whole, whatever its strings and inner values hold, as long as the talk in front
has no opening character and the talk behind no closing one (`outermost?_embedded`). What is cut out
has no blanks at its ends, so it is read as the value (`readWhole?_enclosed`).
-/

namespace AgentFeed.ToolArguments

/-! ## 1. Cutting out -/

/-- **The outermost part of a text** is all from an opening character to a closing one, if no such
characters stand before and after. -/
theorem outermost?_embedded {opening closing : Char} {before after : List Char}
    (hbefore : opening ∉ before) (hafter : closing ∉ after) (inside : List Char) :
    outermost? opening closing (before ++ (opening :: inside ++ [closing]) ++ after)
      = some (opening :: inside ++ [closing]) := by
  have hskipBefore : ∀ c ∈ before, decide (c ≠ opening) = true :=
    fun c hc => decide_eq_true fun heq => hbefore (heq ▸ hc)
  have hskipAfter : ∀ c ∈ after.reverse, decide (c ≠ closing) = true :=
    fun c hc => decide_eq_true fun heq => hafter (heq ▸ List.mem_reverse.1 hc)
  have hopening : (before ++ (opening :: inside ++ [closing]) ++ after).dropWhile (· ≠ opening)
      = opening :: inside ++ [closing] ++ after := by
    rw [List.append_assoc, List.dropWhile_append_of_pos hskipBefore, List.cons_append,
      List.cons_append, List.dropWhile_cons_of_neg (by simp)]
  -- From the right it is the same with the closing character.
  have hclosing : (opening :: inside ++ [closing] ++ after).reverse.dropWhile (· ≠ closing)
      = (opening :: inside ++ [closing]).reverse := by
    rw [List.reverse_append, List.dropWhile_append_of_pos hskipAfter, List.reverse_append,
      List.reverse_singleton, List.singleton_append, List.dropWhile_cons_of_neg (by simp)]
  rw [outermost?]
  simp only [hopening, hclosing, List.reverse_reverse]
  rw [if_pos]
  simp

/-- A value whose text begins and ends with characters that are no blanks is read from its text. -/
theorem readWhole?_enclosed {v : Json} (h : v.Canonical) (hintegers : v.integersOnly = true)
    (hdepth : v.depth ≤ Json.depthLimit) {first last : Char} {inside : List Char}
    (hchars : v.chars = first :: inside ++ [last]) (hfirst : Text.isBlank first = false)
    (hlast : Text.isBlank last = false) : readWhole? v.chars = some v := by
  have htrim : Text.trimChars v.chars = v.chars := by
    rw [hchars]
    exact Text.trimChars_of_ends hfirst hlast inside
  have hparse := Json.parse?_compact h hintegers
  rw [if_pos hdepth] at hparse
  rw [readWhole?, htrim]
  exact hparse

/-! ## 2. Finding the value -/

/-- **Arguments are found in the text around them.** Let a value be an object or an array, without
doubles and not nested too deep, and let its compact text stand in the middle of another text. An
object with no opening brace before it and no closing brace behind it is what the text stands for,
unless the whole text can be read. An array with no opening bracket before it and no closing bracket
behind it is, unless the whole text or its part between the outermost braces can be read. It makes
no difference what arguments were known before, or what characters occur in the value. -/
theorem embedded_value_is_found (before after : String) (v : Json) (hcanonical : v.Canonical)
    (hintegers : v.integersOnly = true) (hdepth : v.depth ≤ 127) (previous : Option Json) :
    let text := before ++ v.compact ++ after
    (∀ members, v = .object members → '{' ∉ before.toList → '}' ∉ after.toList →
      readWhole? text.toList = none → structured text previous = v) ∧
    (∀ items, v = .array items → '[' ∉ before.toList → ']' ∉ after.toList →
      readWhole? text.toList = none →
      (outermost? '{' '}' text.toList).bind readWhole? = none → structured text previous = v) := by
  intro text
  have htext : text.toList = before.toList ++ v.chars ++ after.toList := by
    rw [String.toList_append, String.toList_append, Json.compact, String.toList_ofList]
  constructor
  · rintro members rfl hbefore hafter hwhole
    have hcut := outermost?_embedded hbefore hafter (Json.membersChars members)
    have hread := readWhole?_enclosed hcanonical hintegers hdepth rfl (by decide) (by decide)
    rw [← Json.chars, ← htext] at hcut
    rw [structured, read?, hwhole, hcut, Option.bind_some, hread]
    rfl
  · rintro items rfl hbefore hafter hwhole hbraces
    have hcut := outermost?_embedded hbefore hafter (Json.itemsChars items)
    have hread := readWhole?_enclosed hcanonical hintegers hdepth rfl (by decide) (by decide)
    rw [← Json.chars, ← htext] at hcut
    rw [structured, read?, hwhole, hbraces, hcut, Option.bind_some, hread]
    rfl

/-- An object with delimiters in a text, and with another value inside it. -/
def trickyObject : Json :=
  .object [("inner", .object [("n", Json.ofInt (-3))]), ("path", .string "\x7d\"\x7b[] é")]

/-- An array with objects in it, which are not what is to be read. -/
def trickyList : Json :=
  .array [.object [], trickyObject, .string "]"]

/-- Both values are found with talk around them, although the delimiters also occur in texts, and
the talk has some of its own. -/
theorem embedded_value_is_found_sample :
    let first := "Calling \x7d with " ++ trickyObject.compact ++ " now \x7b"
    let second := "args: " ++ trickyList.compact ++ " end"
    (trickyObject.Canonical ∧ trickyObject.integersOnly = true ∧ trickyObject.depth ≤ 127) ∧
      (trickyList.Canonical ∧ trickyList.integersOnly = true ∧ trickyList.depth ≤ 127) ∧
      readWhole? first.toList = none ∧ structured first (some .null) = trickyObject ∧
      readWhole? second.toList = none ∧
      (outermost? '{' '}' second.toList).bind readWhole? = none ∧
      structured second none = trickyList := by
  intro first second
  have hobject : trickyObject.Canonical ∧ trickyObject.integersOnly = true ∧
      trickyObject.depth ≤ 127 := by decide +kernel
  have hlist : trickyList.Canonical ∧ trickyList.integersOnly = true ∧
      trickyList.depth ≤ 127 := by decide +kernel
  have hfirst : readWhole? first.toList = none :=
    Option.isNone_iff_eq_none.1 (by decide +kernel)
  have hsecond : readWhole? second.toList = none :=
    Option.isNone_iff_eq_none.1 (by decide +kernel)
  have hbraces : (outermost? '{' '}' second.toList).bind readWhole? = none :=
    Option.isNone_iff_eq_none.1 (by decide +kernel)
  obtain ⟨hfound, -⟩ := embedded_value_is_found "Calling \x7d with " " now \x7b" trickyObject
    hobject.1 hobject.2.1 hobject.2.2 (some .null)
  obtain ⟨-, hfoundList⟩ := embedded_value_is_found "args: " " end" trickyList
    hlist.1 hlist.2.1 hlist.2.2 none
  exact ⟨hobject, hlist, hfirst, hfound _ rfl (by decide) (by decide) hfirst, hsecond, hbraces,
    hfoundList _ rfl (by decide) (by decide) hsecond hbraces⟩

end AgentFeed.ToolArguments
