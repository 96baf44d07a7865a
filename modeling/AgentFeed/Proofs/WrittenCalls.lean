import AgentFeed.Proofs.CallPairing
import AgentFeed.Proofs.JsonRoundTrip
import AgentFeed.Proofs.TranscriptLines

/-!
# Calls written to a log

An older server writes a call as two lines, each with the mark, the name of the tool and an object
in its compact text (`ToolLine.write`). Nothing in the object can mislead the reader: the name ends
before it, it has no line feed, and it begins and ends with a brace, so it is cut out and read whole
(`ToolLine.parse?_write`).

It can mislead the filter that is put before the reader. A line in which one of a few texts occurs
is taken for the provider talking to itself, also when the text comes from the arguments or the
result of a call (`ToolLine.isNoise_write`). As no such text has a blank in it, it occurs in the
name or in the object or not at all.
-/

namespace AgentFeed

/-! ## 1. Noise -/

section Occurrence

variable {α : Type} {c : α}

theorem prefix_append_cons_iff {part : List α} (hc : c ∉ part) (before after : List α) :
    part <+: before ++ c :: after ↔ part <+: before := by
  induction before generalizing part with
  | nil =>
    rw [List.nil_append, List.prefix_cons_iff, List.prefix_nil]
    refine or_iff_left ?_
    rintro ⟨rest, rfl, -⟩
    exact hc List.mem_cons_self
  | cons x before ih =>
    rw [List.cons_append, List.prefix_cons_iff, List.prefix_cons_iff]
    refine or_congr_right (exists_congr fun rest => and_congr_right ?_)
    rintro rfl
    exact ih (List.not_mem_of_not_mem_cons hc)

/-- What is without some character occurs on one side of that character or not at all. -/
theorem infix_append_cons_iff {part : List α} (hc : c ∉ part) (before after : List α) :
    part <:+: before ++ c :: after ↔ part <:+: before ∨ part <:+: after := by
  induction before with
  | nil =>
    have hprefix := prefix_append_cons_iff hc [] after
    rw [List.nil_append] at hprefix
    rw [List.nil_append, List.infix_cons_iff, hprefix, List.prefix_nil, List.infix_nil]
  | cons x before ih =>
    have hprefix := prefix_append_cons_iff hc (x :: before) after
    rw [List.cons_append] at hprefix
    rw [List.cons_append, List.infix_cons_iff, hprefix, ih, List.infix_cons_iff, or_assoc]

end Occurrence

namespace LogLine

theorem occursIn_iff {part cs : List Char} : occursIn part cs = true ↔ part <:+: cs := by
  induction cs with
  | nil => rw [occursIn, List.isEmpty_iff, List.infix_nil]
  | cons c rest ih =>
    rw [occursIn, Bool.or_eq_true, ih, List.isPrefixOf_iff_prefix, List.infix_cons_iff]

/-- One of the texts that mark noise occurs in a text. -/
def HasMarker (text : String) : Prop :=
  ∃ marker ∈ noiseMarkers, marker.toList <:+: text.toList

instance (text : String) : Decidable (HasMarker text) :=
  decidable_of_iff
    ((noiseMarkers.any fun marker => occursIn marker.toList text.toList) = true) <| by
    simp only [List.any_eq_true, occursIn_iff, HasMarker]

end LogLine

/-! ## 2. Writing a call -/

namespace ToolLine

/-- How a line about a call begins. -/
def markWord : ToolLineMark → String
  | .start => "tool>"
  | .finish => "tool<"

/-- The line that reports half of a call. -/
def write (mark : ToolLineMark) (name : String) (payload : Json) : String :=
  markWord mark ++ " " ++ name ++ " " ++ payload.compact

theorem toList_write (mark : ToolLineMark) (name : String) (payload : Json) :
    (write mark name payload).toList
      = (markWord mark).toList ++ ' ' :: (name.toList ++ ' ' :: payload.chars) := by
  rw [write, Json.compact, String.toList_append, String.toList_append, String.toList_append,
    String.toList_append, String.toList_ofList]
  simp

/-- **A written line is noise** just when a marker of noise occurs in the name or in the object. -/
theorem isNoise_write (mark : ToolLineMark) (name : String) (payload : Json) :
    LogLine.isNoise (write mark name payload) = true ↔
      LogLine.HasMarker name ∨ LogLine.HasMarker payload.compact := by
  have hstart : Text.trimLeft (write mark name payload).toList
      = (write mark name payload).toList := by
    rw [toList_write]
    cases mark <;> exact List.dropWhile_cons_of_neg (by decide)
  have hecho : LogLine.echoStart.toList.isPrefixOf (write mark name payload).toList = false := by
    rw [toList_write]
    cases mark <;> rfl
  -- No marker has a blank in it, and none occurs in the mark.
  have hblank : ∀ marker ∈ LogLine.noiseMarkers, ' ' ∉ marker.toList := by decide
  have hmark : ∀ marker ∈ LogLine.noiseMarkers, ¬marker.toList <:+: (markWord mark).toList := by
    cases mark <;> decide +kernel
  have hsides : ∀ marker ∈ LogLine.noiseMarkers,
      (marker.toList <:+: (write mark name payload).toList ↔
        marker.toList <:+: name.toList ∨ marker.toList <:+: payload.compact.toList) := by
    intro marker hmarker
    rw [toList_write, infix_append_cons_iff (hblank marker hmarker),
      infix_append_cons_iff (hblank marker hmarker), or_iff_right (hmark marker hmarker),
      Json.compact, String.toList_ofList]
  rw [LogLine.isNoise]
  rw [hstart, hecho, Bool.false_or, List.any_eq_true, LogLine.HasMarker, LogLine.HasMarker,
    ← exists_or]
  refine exists_congr fun marker => ?_
  rw [LogLine.occursIn_iff, ← and_or_left]
  exact and_congr_right fun hmarker => hsides marker hmarker

/-! ## 3. Reading it back -/

/-- A name that can stand in a line: it has no blank, no opening brace and no opening bracket. -/
structure IsName (name : String) : Prop where
  /-- There is a name. -/
  filled : name ≠ ""
  /-- Every character can stand in a name. -/
  chars : ∀ c ∈ name.toList, isNameChar c = true

end ToolLine

/-- An object that is read back from its compact text as it was written. -/
structure Json.IsPlainObject (v : Json) : Prop where
  /-- It is an object. -/
  isObject : ∃ members, v = .object members
  /-- The keys of each object in it are in order, and its numbers are in range. -/
  canonical : v.Canonical
  /-- It has no doubles. -/
  integers : v.integersOnly = true
  /-- It is not nested too deep. -/
  shallow : v.depth ≤ 127

namespace Json.IsPlainObject

variable {v : Json}

theorem exists_chars (h : v.IsPlainObject) : ∃ inside, v.chars = '{' :: inside ++ ['}'] := by
  obtain ⟨members, rfl⟩ := h.isObject
  exact ⟨Json.membersChars members, rfl⟩

theorem parse?_ofList_chars (h : v.IsPlainObject) : Json.parse? (String.ofList v.chars) = some v :=
  (Json.parse?_compact h.canonical h.integers).trans (if_pos h.shallow)

end Json.IsPlainObject

namespace ToolLine

variable {name : String} {v : Json}

theorem IsName.exists_cons (h : IsName name) :
    ∃ c more, name.toList = c :: more ∧ Text.isBlank c = false := by
  cases hname : name.toList with
  | nil => exact absurd (String.toList_eq_nil_iff.1 hname) h.filled
  | cons c more =>
    have hc := h.chars c (hname ▸ List.mem_cons_self)
    rw [isNameChar, Bool.and_eq_true, Bool.and_eq_true, Bool.not_eq_true'] at hc
    exact ⟨c, more, rfl, hc.1.1⟩

theorem payload?_chars (h : v.IsPlainObject) : payload? v.chars = some v := by
  obtain ⟨inside, hchars⟩ := h.exists_chars
  have htrim : Text.trimChars v.chars = '{' :: (inside ++ ['}']) := by
    rw [hchars]
    exact Text.trimChars_of_ends (by decide) (by decide) inside
  have hparse := h.parse?_ofList_chars
  rw [hchars, List.cons_append] at hparse
  simp only [payload?, htrim, hparse, Option.getD_some]

/-- The name is cut out at the blank behind it. -/
theorem afterMark?_written (hname : IsName name) (h : v.IsPlainObject) (mark : ToolLineMark) :
    afterMark? mark (' ' :: (name.toList ++ ' ' :: v.chars))
      = some { mark, name, payload := some v } := by
  obtain ⟨c, more, hcons, hblank⟩ := hname.exists_cons
  obtain ⟨inside, hchars⟩ := h.exists_chars
  have hfromName : (' ' :: (name.toList ++ ' ' :: v.chars)).dropWhile Text.isBlank
      = name.toList ++ ' ' :: v.chars := by
    rw [List.dropWhile_cons_of_pos (by decide), hcons, List.cons_append,
      List.dropWhile_cons_of_neg (by simp [hblank])]
  have htake : (name.toList ++ ' ' :: v.chars).takeWhile isNameChar = name.toList := by
    rw [List.takeWhile_append_of_pos hname.chars, List.takeWhile_cons_of_neg (by decide),
      List.append_nil]
  have hdrop : (name.toList ++ ' ' :: v.chars).dropWhile isNameChar = ' ' :: v.chars := by
    rw [List.dropWhile_append_of_pos hname.chars, List.dropWhile_cons_of_neg (by decide)]
  have hrest : (' ' :: v.chars).dropWhile Text.isBlank = v.chars := by
    rw [List.dropWhile_cons_of_pos (by decide), hchars, List.cons_append,
      List.dropWhile_cons_of_neg (by decide)]
  have hline := Json.newline_notMem_chars v h.integers
  rw [afterMark?]
  simp only [hfromName, htake, hdrop, hrest]
  rw [if_pos ⟨Nat.lt_succ_self _, by simp [hcons], hline⟩, payload?_chars h, String.ofList_toList]

/-- **A written line is read back**: what the object holds makes no difference. -/
theorem parse?_write (hname : IsName name) (h : v.IsPlainObject) (mark : ToolLineMark) :
    parse? (write mark name v) = some { mark, name, payload := some v } := by
  have htrim : Text.trimChars (write mark name v).toList = (write mark name v).toList := by
    obtain ⟨inside, hchars⟩ := h.exists_chars
    obtain ⟨word, hword⟩ : ∃ word, (markWord mark).toList = 't' :: word := by
      cases mark <;> exact ⟨_, rfl⟩
    have hends : (write mark name v).toList
        = 't' :: (word ++ ' ' :: (name.toList ++ ' ' :: '{' :: inside)) ++ ['}'] := by
      rw [toList_write, hword, hchars]
      simp
    rw [hends]
    exact Text.trimChars_of_ends (by decide) (by decide) _
  rw [parse?, htrim, toList_write]
  have hafter := afterMark?_written hname h mark
  cases mark <;> exact hafter

/-- The action that a written line asks for, if it is not noise. -/
theorem logAction_write (hname : IsName name) (h : v.IsPlainObject) (mark : ToolLineMark)
    (hclean : ¬LogLine.HasMarker name) (hquiet : ¬LogLine.HasMarker v.compact) :
    LogLine.action (write mark name v) = ToolLine.action { mark, name, payload := some v } := by
  have hnoise : ¬LogLine.isNoise (write mark name v) = true :=
    fun hnoise => ((isNoise_write mark name v).1 hnoise).elim hclean hquiet
  rw [LogLine.action, if_neg hnoise, parse?_write hname h]
  rfl

end ToolLine

/-! ## 4. The item of a written call -/

/-- A change of the item that was appended last concerns no other, also if its id is not new. -/
theorem Feed.items_update_append (f : Feed) (item : FeedItem) (change : FeedItem → FeedItem) :
    ((f.append item).update item.id change).items = f.items ++ [change item] := by
  rw [append, update, updateFirst, if_pos rfl]
  exact f.items_append (change item)

namespace Delivery

variable {d : Delivery Feed} {name : String} {args result : Json}

/-- A line that is noise changes nothing. -/
theorem message_of_noise (d : Delivery Feed) {line : String} (h : LogLine.isNoise line = true) :
    d.message (.log line) = d := by
  rw [message_eq, Dispatcher.action, LogLine.action, if_pos h]
  exact d.perform_idle d.dispatcher

/-- A written line that is not noise does what the call that was written asks for. -/
theorem message_write (d : Delivery Feed) {v : Json} (hname : ToolLine.IsName name)
    (h : v.IsPlainObject) (mark : ToolLineMark) (hclean : ¬LogLine.HasMarker name)
    (hquiet : ¬LogLine.HasMarker v.compact) :
    d.message (.log (ToolLine.write mark name v))
      = d.perform d.dispatcher (ToolLine.action { mark, name, payload := some v }) := by
  rw [message_eq, Dispatcher.action, ToolLine.logAction_write hname h mark hclean hquiet]
  rfl

/-- The start of a call that has to wait for no other. -/
theorem started_call (hname : ToolLine.IsName name) (hargs : args.IsPlainObject)
    (hclean : ¬LogLine.HasMarker name) (hquiet : ¬LogLine.HasMarker args.compact)
    (hidle : d.state.oldestCall? name = none) :
    let item := (d.host.newItem (.tool .running name (some args) none)).1
    let started := d.message (.log (ToolLine.write .start name args))
    started.sink = d.sink.append item ∧ started.state.held (.call name) = [item.id] := by
  intro item started
  have hqueue : d.state.held (.call name) = [] := by
    rwa [d.state.oldestCall?_eq, List.head?_eq_none_iff] at hidle
  have hstarted : started = d.perform d.dispatcher (.callStart name (some args)) :=
    d.message_write hname hargs .start hclean hquiet
  obtain ⟨hedit, hheld⟩ := Action.step_callStart d.host.ids.head d.state name (some args)
  rw [hqueue] at hheld
  rw [hstarted]
  exact ⟨sink_take_append d.dispatcher hedit, hheld⟩

/-- The end of a call amends its item, and the call waits no longer. -/
theorem ended_call (hname : ToolLine.IsName name) (hresult : result.IsPlainObject)
    (hclean : ¬LogLine.HasMarker name) (hquiet : ¬LogLine.HasMarker result.compact) {id : String}
    (hwaits : d.state.held (.call name) = [id]) :
    let status := ToolLine.status { mark := .finish, name, payload := some result }
    let ended := d.message (.log (ToolLine.write .finish name result))
    ended.sink = d.sink.update id (·.amend (.finish status (some result))) ∧
      ended.state.held (.call name) = [] := by
  intro status ended
  have hended : ended = d.perform d.dispatcher (.callFinish status name (some result)) :=
    d.message_write hname hresult .finish hclean hquiet
  have hedit := Action.edit_callFinish_of_running d.host.ids.head d.state status name (some result)
    hwaits
  have hheld := Action.held_callFinish d.host.ids.head d.state status name (some result)
  rw [hwaits] at hheld
  rw [hended]
  exact ⟨sink_take_amend d.dispatcher hedit, hheld⟩

/-- **A written call is shown with what was written.** In a thread in which no call of a tool runs,
the line for the start of a call appends one item, which runs and has the arguments of the call. The
line for its end then makes the item one that has ended, with the same arguments and the result of
the call, and appends nothing. It makes no difference what the arguments and the result hold, except
that a marker of noise in the name or in the compact text of an object drops the line. -/
theorem written_call_is_shown (d : Delivery Feed) (name : String) (args result : Json)
    (hname : ToolLine.IsName name) (hargs : args.IsPlainObject) (hresult : result.IsPlainObject)
    (hidle : d.state.oldestCall? name = none) :
    let item := (d.host.newItem (.tool .running name (some args) none)).1
    let status := ToolLine.status { mark := .finish, name, payload := some result }
    let started := d.message (.log (ToolLine.write .start name args))
    let ended := started.message (.log (ToolLine.write .finish name result))
    (¬LogLine.HasMarker name → ¬LogLine.HasMarker args.compact →
      started.sink.items = d.sink.items ++ [item] ∧
        (¬LogLine.HasMarker result.compact →
          ended.sink.items = d.sink.items
              ++ [{ item with body := .tool status name (some args) (some result) }] ∧
            status ≠ .running ∧ ended.state.oldestCall? name = none)) ∧
      ∀ (e : Delivery Feed) (mark : ToolLineMark) (payload : Json),
        LogLine.HasMarker name ∨ LogLine.HasMarker payload.compact →
          e.message (.log (ToolLine.write mark name payload)) = e := by
  intro item status started ended
  refine ⟨fun hclean hquiet => ?_, fun e mark payload hmarker => ?_⟩
  · obtain ⟨hsink, hwaits⟩ := started_call hname hargs hclean hquiet hidle
    refine ⟨by rw [hsink, Feed.items_append], fun hquietEnd => ?_⟩
    obtain ⟨hamended, hheld⟩ := ended_call hname hresult hclean hquietEnd hwaits
    refine ⟨?_, ?_, ?_⟩
    · rw [hamended, hsink, Feed.items_update_append]
      rfl
    · simp only [status, ToolLine.status]
      split <;> decide
    · rw [Accumulation.oldestCall?_eq, hheld]
      rfl
  · exact e.message_of_noise ((ToolLine.isNoise_write mark name payload).2 hmarker)

/-- Arguments that hold line feeds, a quote and braces, and what looks like the end of the call. -/
def deceptiveArgs : Json :=
  .object [("path", .string "\n\"\x7d\ntool< cat \x7b\x7d")]

/-- While calls of other tools run, a call with deceptive arguments is shown as the sixth item, and
fails. A line with the name of a marker is dropped. -/
theorem written_call_is_shown_sample :
    let d := replayInto {} Feed.empty
      { ids := .numbered "item", clock := .constant "now" } mixedLines
    let result : Json := .object [("error", .string "no such file")]
    let started := d.message (.log (ToolLine.write .start "cat" deceptiveArgs))
    let ended := started.message (.log (ToolLine.write .finish "cat" result))
    (ToolLine.IsName "cat" ∧ deceptiveArgs.IsPlainObject ∧ result.IsPlainObject ∧
      d.state.oldestCall? "cat" = none) ∧
      (¬LogLine.HasMarker "cat" ∧ ¬LogLine.HasMarker deceptiveArgs.compact ∧
        ¬LogLine.HasMarker result.compact) ∧
      d.sink.items.length = 5 ∧
      ended.sink.items = d.sink.items
        ++ [⟨"item-6", "now", .tool .error "cat" (some deceptiveArgs) (some result)⟩] ∧
      ended.message (.log (ToolLine.write .start "cat" (.object [("obfuscation", .null)])))
        = ended := by
  intro d result started ended
  have hname : ToolLine.IsName "cat" := ⟨by decide, List.all_eq_true.1 (by decide)⟩
  have hargs : deceptiveArgs.IsPlainObject :=
    ⟨⟨_, rfl⟩, by decide +kernel, by decide +kernel, by decide +kernel⟩
  have hresult : result.IsPlainObject :=
    ⟨⟨_, rfl⟩, by decide +kernel, by decide +kernel, by decide +kernel⟩
  have hidle : d.state.oldestCall? "cat" = none := by decide +kernel
  have hclean : ¬LogLine.HasMarker "cat" := by decide +kernel
  have hquiet : ¬LogLine.HasMarker deceptiveArgs.compact := by decide +kernel
  have hquietEnd : ¬LogLine.HasMarker result.compact := by decide +kernel
  obtain ⟨hshown, hdropped⟩ :=
    written_call_is_shown d "cat" deceptiveArgs result hname hargs hresult hidle
  obtain ⟨hitems, -, -⟩ := (hshown hclean hquiet).2 hquietEnd
  have hstatus : ToolLine.status { mark := .finish, name := "cat", payload := some result }
      = .error := by decide +kernel
  have hid : d.host.ids.head = "item-6" := by decide +kernel
  have hts : d.host.clock.head = "now" := by decide +kernel
  refine ⟨⟨hname, hargs, hresult, hidle⟩, ⟨hclean, hquiet, hquietEnd⟩, by decide +kernel, ?_,
    hdropped _ _ _ (.inr (by decide +kernel))⟩
  rw [hitems, hstatus, Host.newItem, hid, hts]

/-- Searching for the name of a marker is a call like any other, and its start is dropped: in an
empty thread nothing is shown of it, and its end is taken for that of a call that never began. -/
theorem marked_call_is_dropped :
    let d : Delivery Feed :=
      { dispatcher := {}, state := .empty, sink := Feed.empty,
        host := { ids := .numbered "item", clock := .constant "now" } }
    let args : Json := .object [("pattern", .string "obfuscation")]
    let result : Json := .object [("hits", Json.ofInt 2)]
    let started := d.message (.log (ToolLine.write .start "grep" args))
    let ended := started.message (.log (ToolLine.write .finish "grep" result))
    ToolLine.IsName "grep" ∧ args.IsPlainObject ∧ result.IsPlainObject ∧
      d.state.oldestCall? "grep" = none ∧ started.sink.items = [] ∧
      ended.sink.items.map (·.render) = ["[tool:done] grep -> \x7b\"hits\":2\x7d"] := by
  intro d args result started ended
  have hargs : args.IsPlainObject :=
    ⟨⟨_, rfl⟩, by decide +kernel, by decide +kernel, by decide +kernel⟩
  have hresult : result.IsPlainObject :=
    ⟨⟨_, rfl⟩, by decide +kernel, by decide +kernel, by decide +kernel⟩
  have hname : ToolLine.IsName "grep" := ⟨by decide, List.all_eq_true.1 (by decide)⟩
  exact ⟨hname, hargs, hresult, by decide +kernel, by decide +kernel, by decide +kernel⟩

end Delivery

end AgentFeed
