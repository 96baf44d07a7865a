import AgentFeed.Proofs.UpdateRun

/-!
# Arguments that come in pieces

After each piece of input text the arguments of a call are read again, from all the text so far and
with the arguments shown so far to fall back on. So the beginning of a text can leave traces: an
inner object of the unfinished text may have been readable, and its fields are arguments until more
is known.

What such a reading leaves is known exactly. A text that can be read stands for its value, whatever
was shown before. A text that cannot keeps the fields shown before and puts itself in the place of
the key `input`; to read the same text again changes nothing (`structured_again`). So the
arguments after a piece are a function of the joined text and of the fields shown before the piece,
and the updates that follow without bringing arguments leave them as they are
(`ToolProgress.ReadFrom`).
-/

namespace AgentFeed

/-! ## 1. Reading a text again -/

namespace ToolArguments

/-- The fields of arguments, of which there are none if they are no object. -/
def fields : Option Json → Table String Json
  | some (.object members) => members
  | _ => []

theorem keptFields_eq (previous : Option Json) :
    keptFields previous = (fields previous).erase rawKey := by
  rw [Table.erase_eq_filter]
  rcases previous with _ | (_ | _ | _ | _ | _ | _) <;> rfl

theorem structured_of_readable {raw : String} {value : Json} (h : read? raw.toList = some value)
    (previous : Option Json) : structured raw previous = value := by
  rw [structured, h]

theorem structured_of_unreadable {raw : String} (h : read? raw.toList = none)
    (previous : Option Json) :
    structured raw previous = .object ((keptFields previous).insert rawKey (.string raw)) := by
  rw [structured, h]

/-- A text that is read again stands for the same arguments. -/
theorem structured_again (raw : String) (previous : Option Json) :
    structured raw (some (structured raw previous)) = structured raw previous := by
  cases hread : read? raw.toList with
  | some value =>
    rw [structured_of_readable hread, structured_of_readable hread]
  | none =>
    have hkept : keptFields (some (structured raw previous)) = keptFields previous := by
      rw [structured_of_unreadable hread, keptFields_eq, fields, Table.erase_insert_self,
        keptFields_eq, Table.erase_erase_self]
    rw [structured_of_unreadable hread, hkept, structured_of_unreadable hread]

end ToolArguments

/-! ## 2. The joined text -/

namespace StreamUpdate

/-- The piece of input text that an update brings for a call. -/
def inputPiece? (key : String) (u : StreamUpdate) : Option String :=
  (u.about? key).bind UpdateKind.toolDelta?

/-- The input text of a call: all of its pieces since the last turn began. -/
def inputText (key : String) : List StreamUpdate → String :=
  gather (inputPiece? key)

end StreamUpdate

/-- What a change does to the input text of a call does not depend on whether the call has begun. -/
theorem ToolChange.toolInputs_step (freshId : String) (s : Accumulation) (key : String)
    (change : ToolChange) :
    (change.step freshId s key).state.toolInputs.get? key
      = change.inputOver (s.toolInputs.get? key) := by
  cases change with
  | patch p =>
    rw [step, Reducer.patchTool_state]
    rfl
  | input delta =>
    rw [step, Reducer.toolInput, Reducer.patchTool_state, Table.get?_insert_self]
    rfl
  | inputEnd name =>
    rw [step, Reducer.toolInputEnd]
    split
    · rw [Reducer.patchTool_state]
      rfl
    · split
      · rw [Reducer.patchTool_state]
        rfl
      · rfl
  | settle name result =>
    rw [step, Reducer.settleTool]
    split
    · rw [Reducer.patchTool_state]
      rfl
    · rw [Reducer.patchTool_state]
      rfl

namespace Delivery

section Run

variable {σ : Type} [FeedSink σ] {key : String}

theorem toolInputs_update (d : Delivery σ) (u : StreamUpdate) :
    ((d.update u).state.toolInputs.get? key).getD ""
      = if u.kind.startsTurn then ""
        else (d.state.toolInputs.get? key).getD "" ++ (u.inputPiece? key).getD "" := by
  by_cases hreset : u.kind.startsTurn = true
  · rw [if_pos hreset, d.update_of_startsTurn hreset]
    rfl
  · have hviews := u.kind.action_views d.dispatcher.previewLimit u.turnId
    rw [if_neg hreset, update_eq, perform]
    cases habout : u.about? key with
    | some kind =>
      obtain ⟨rfl, change, hchange⟩ := StreamUpdate.about?_eq_some_iff.1 habout
      -- The progress of a call says what its updates do to the input text.
      have hinput := (ToolProgress.body_next { input := d.state.toolInputs.get? key } hchange).2
      rw [u.kind.action_of_toolChange _ _ hchange, take, Action.step,
        ToolChange.toolInputs_step, ← hinput, ToolProgress.next, ToolProgress.inputAfter,
        StreamUpdate.inputPiece?, habout, Option.bind_some]
      cases u.kind.toolDelta? <;> simp
    | none =>
      have howner : (u.kind.action d.dispatcher.previewLimit u.turnId).owner? ≠ some (.tool key) :=
        u.kind.owner?_action_of_ne _ _ fun hkey => by
          rw [StreamUpdate.about?, if_pos hkey] at habout
          cases habout
      rw [Bool.not_eq_true] at hreset
      have hframe := Action.tool_frame d.host.ids.head d.state _ (hviews.1.trans hreset) howner
      rw [take, hframe.2, StreamUpdate.inputPiece?, habout, Option.bind_none, Option.getD_none,
        String.append_empty]

/-- The input text that is remembered of a call is that of its pieces. -/
theorem toolInputs_updateAll {d : Delivery σ} (hstate : d.state = .empty)
    (updates : List StreamUpdate) :
    ((d.updateAll updates).state.toolInputs.get? key).getD ""
      = StreamUpdate.inputText key updates := by
  induction updates using List.reverseRecOn with
  | nil =>
    rw [updateAll, List.foldl_nil, hstate]
    rfl
  | append_singleton updates u ih =>
    rw [updateAll_concat, toolInputs_update, ih]
    exact (StreamUpdate.gather_concat _ updates u).symm

end Run

end Delivery

/-! ## 3. The arguments of a call -/

/-- Whether an update brings arguments for a call, as a value or as a piece of text. -/
def UpdateKind.bringsArgs : UpdateKind → Bool
  | .toolInputStart _ _ args => args.isSome
  | .toolInputDelta _ _ => true
  | .toolCall _ _ args => args.isSome
  | _ => false

/-- The arguments of a call were read from its input text. -/
structure ToolProgress.ReadFrom (p : ToolProgress) (text : String) (previous : Option Json) :
    Prop where
  /-- The input text. -/
  input : p.input = some text
  /-- The arguments. -/
  args : p.args = some (ToolArguments.structured text previous)

namespace ToolProgress

variable {p : ToolProgress} {text : String} {previous : Option Json}

theorem ReadFrom.next (h : p.ReadFrom text previous) {u : UpdateKind}
    (hargs : u.bringsArgs = false) : (p.next u).ReadFrom text previous := by
  have hkeep : ∀ {args : Option Json} {change : Json → ArgsChange}, args.isSome = false →
      args.elim .keep change = .keep := by
    intro args change hnone
    rw [Option.isSome_eq_false_iff, Option.isNone_iff_eq_none] at hnone
    rw [hnone]
    rfl
  cases u with
  | toolInputDelta key delta => cases hargs
  | toolInputStart key name args =>
    refine ⟨h.input, ?_⟩
    rw [ToolProgress.next, UpdateKind.argsChange, hkeep hargs]
    exact h.args
  | toolCall key name args =>
    refine ⟨h.input, ?_⟩
    rw [ToolProgress.next, UpdateKind.argsChange, hkeep hargs]
    exact h.args
  | toolInputEnd key name =>
    -- The one update that brings nothing and reads the text again all the same.
    refine ⟨h.input, ?_⟩
    have hinput : p.inputAfter (.toolInputEnd key name) = some text := h.input
    rw [ToolProgress.next, hinput, h.args]
    exact congrArg some (ToolArguments.structured_again text previous)
  | _ => exact ⟨h.input, h.args⟩

theorem ReadFrom.foldl (h : p.ReadFrom text previous) {updates : List UpdateKind}
    (hargs : ∀ u ∈ updates, u.bringsArgs = false) :
    (updates.foldl ToolProgress.next p).ReadFrom text previous := by
  induction updates generalizing p with
  | nil => exact h
  | cons u rest ih =>
    obtain ⟨hu, hrest⟩ := List.forall_mem_cons.1 hargs
    exact ih (h.next hu) hrest

end ToolProgress

/-- The arguments that a body shows. -/
def FeedBody.args? : FeedBody → Option Json
  | .tool _ _ args _ => args
  | _ => none

/-- Where ids are distinct, an item is found by its id. -/
theorem Feed.get?_of_mem {f : Feed} (hids : f.ids.Nodup) {item : FeedItem} (h : item ∈ f.items) :
    f.get? item.id = some item := by
  have hnewest : item ∈ f.newestFirst := List.mem_reverse.1 h
  have hfound : (f.get? item.id).isSome := by
    rw [get?, List.find?_isSome]
    exact ⟨item, hnewest, decide_eq_true rfl⟩
  obtain ⟨other, hother⟩ := Option.isSome_iff_exists.1 hfound
  rw [hother]
  have hmem : other ∈ f.items := List.mem_reverse.2 (List.mem_of_find?_eq_some hother)
  have hid : other.id = item.id := by simpa using List.find?_some hother
  exact congrArg some (List.inj_on_of_nodup_map hids hmem h hid)

namespace Delivery

/-- The arguments that the item of a call shows. -/
def toolArgs? (d : Delivery Feed) (key : String) : Option Json :=
  (d.state.toolItems.get? key).bind fun id => (d.sink.get? id).bind (·.body.args?)

variable {d : Delivery Feed} {key id : String} {n : Nat} {p : ToolProgress}

theorem Follows.toolArgs? (h : d.Follows key id n p) (hcoherent : d.Coherent) :
    d.toolArgs? key = p.args := by
  obtain ⟨item, hitem, rfl, hbody⟩ := h.getElem?
  have hget := Feed.get?_of_mem hcoherent.distinct (List.mem_of_getElem? hitem)
  rw [Delivery.toolArgs?, h.item, Option.bind_some, hget, Option.bind_some, hbody]
  rfl

/-- After a piece of input text a call has an item, be it new, and its arguments were read from the
text with those before it to fall back on. -/
theorem Coherent.follows_piece (h : d.Coherent) (hconsistent : d.state.Consistent)
    (turnId delta : String) :
    ∃ id n p, (d.update { turnId, kind := .toolInputDelta key delta }).Follows key id n p ∧
      p.ReadFrom ((d.state.toolInputs.get? key).getD "" ++ delta) (d.toolArgs? key) := by
  have hchange : (UpdateKind.toolInputDelta key delta).toolChange? = some (key, .input delta) := rfl
  rw [update_eq, UpdateKind.action_of_toolChange _ _ _ hchange]
  cases hknown : d.state.toolItems.get? key with
  | some id =>
    obtain ⟨n, p, hfollows⟩ := h.exists_follows hknown
    refine ⟨id, n, _, (h.follows_perform_tool hfollows _ hchange).1, ?_, ?_⟩
    · rw [hfollows.input]
      rfl
    · rw [hfollows.input, hfollows.toolArgs? h]
      rfl
  | none =>
    have hinput := hconsistent.toolInputs_eq_none hknown
    have hend : ∀ name, ToolChange.input delta ≠ .inputEnd name := fun _ => ToolChange.noConfusion
    refine ⟨_, _, _, (follows_perform_of_news hknown hinput _ hchange hend).1, ?_, ?_⟩
    · rw [hinput]
      rfl
    · rw [hinput, Delivery.toolArgs?, hknown]
      rfl

/-! ## 4. Every run -/

/-- **Arguments do not depend on how their text was cut.** Take any piece of input text of a call,
after any updates, and join all the pieces of the call since the last turn began. Whatever updates
follow that bring no arguments for the call and begin no turn, such as that the input is complete:
the arguments of the call stay as they were after the piece. If the joined text can be read, they
are the value that it is read as. If it cannot, they are an object, which has the text under the key
`input`, and beside it the fields that the arguments had before the piece. -/
theorem streamed_arguments_come_from_whole_text (dispatcher : Dispatcher) (host : Host)
    (hids : host.ids.NeverRepeats) (before : List StreamUpdate) (turnId key delta : String)
    (after : List StreamUpdate) (hresets : ∀ u ∈ after, u.kind.startsTurn = false)
    (hargs : ∀ u ∈ after, ∀ kind ∈ u.about? key, kind.bringsArgs = false) :
    let d : Delivery Feed :=
      updateAll { dispatcher, state := .empty, sink := Feed.empty, host } before
    let last : StreamUpdate := { turnId, kind := .toolInputDelta key delta }
    let text := StreamUpdate.inputText key (before ++ [last])
    ∃ args, (d.update last).toolArgs? key = some args ∧
      ((d.update last).updateAll after).toolArgs? key = some args ∧
      (∀ value, ToolArguments.read? text.toList = some value → args = value) ∧
      (ToolArguments.read? text.toList = none → ∃ members : Table String Json,
        args = .object members ∧ members.get? "input" = some (.string text) ∧
        members.erase "input" = (ToolArguments.fields (d.toolArgs? key)).erase "input") := by
  intro d last text
  have hcoherent : d.Coherent := (coherent_start dispatcher hids).updateAll before
  have hconsistent : d.state.Consistent :=
    consistent_updateAll Accumulation.consistent_empty before
  have htext : (d.state.toolInputs.get? key).getD "" ++ delta = text := by
    have habout : last.about? key = some last.kind := if_pos rfl
    have hpiece : last.inputPiece? key = some delta := by
      rw [StreamUpdate.inputPiece?, habout]
      rfl
    have hconcat := StreamUpdate.gather_concat (StreamUpdate.inputPiece? key) before last
    rw [hpiece] at hconcat
    rw [toolInputs_updateAll rfl]
    exact hconcat.symm
  obtain ⟨id, n, p, hfollows, hread⟩ := hcoherent.follows_piece hconsistent turnId delta
  rw [htext] at hread
  have hnow : (d.update last).Coherent := hcoherent.update last
  have hlater := hnow.follows_updateAll hfollows hresets
  have hquiet : ∀ kind ∈ after.filterMap (StreamUpdate.about? key), kind.bringsArgs = false := by
    intro kind hkind
    obtain ⟨u, hu, habout⟩ := List.mem_filterMap.1 hkind
    exact hargs u hu kind habout
  have hreadLater := hread.foldl hquiet
  refine ⟨_, (hfollows.toolArgs? hnow).trans hread.args,
    (hlater.toolArgs? (hnow.updateAll after)).trans hreadLater.args, fun value hvalue => ?_,
    fun hnone => ?_⟩
  · exact ToolArguments.structured_of_readable hvalue _
  · refine ⟨_, ToolArguments.structured_of_unreadable hnone _, Table.get?_insert_self _ _ _, ?_⟩
    rw [ToolArguments.keptFields_eq]
    exact (Table.erase_insert_self _ _ _).trans (Table.erase_erase_self _ _)

/-- A call with arguments, and the beginning of a text in which an object can be read. -/
def readableSoFar : List StreamUpdate :=
  [{ turnId := "t", kind := .toolCall "k" "bash" (some (Json.ofMembers [("path", .null)])) },
    { turnId := "t", kind := .toolInputDelta "k" "see \x7b\"n\":" },
    { turnId := "t", kind := .toolInputDelta "k" "true\x7d" }]

/-- Two notices that the input is complete, with the end of the call between them. -/
def completeTwice : List StreamUpdate :=
  [{ turnId := "t", kind := .toolInputEnd "k" "bash" },
    { turnId := "t", kind := .toolResult "k" "bash" .null },
    { turnId := "t", kind := .toolInputEnd "k" "bash" }]

/-- A blank leaves the text readable, and its object is all there is of the arguments. Another brace
makes it unreadable; then the fields of the object stay beside the text, and those of the call,
which were gone by then, do not come back. -/
theorem streamed_arguments_come_from_whole_text_sample :
    (Supply.numbered "item").NeverRepeats ∧
      (∀ u ∈ completeTwice, u.kind.startsTurn = false) ∧
      (∀ u ∈ completeTwice, ∀ kind ∈ u.about? "k", kind.bringsArgs = false) ∧
      let start : Delivery Feed :=
        { dispatcher := {}, state := .empty, sink := Feed.empty
          host := { ids := .numbered "item", clock := .constant "now" } }
      let d := start.updateAll readableSoFar
      let blank : StreamUpdate := { turnId := "t", kind := .toolInputDelta "k" " " }
      let brace : StreamUpdate := { turnId := "t", kind := .toolInputDelta "k" "\x7d" }
      (∃ args, ((d.update blank).updateAll completeTwice).toolArgs? "k" = some args ∧
          (ToolArguments.fields (some args)).keys = ["n"]) ∧
        ∃ members : Table String Json,
          ((d.update brace).updateAll completeTwice).toolArgs? "k" = some (.object members) ∧
          members.get? "input" = some (.string "see \x7b\"n\":true\x7d\x7d") ∧
          (members.erase "input").keys = ["n"] := by
  have hids := Supply.numbered_neverRepeats "item"
  have hresets : ∀ u ∈ completeTwice, u.kind.startsTurn = false := by decide
  have hargs : ∀ u ∈ completeTwice, ∀ kind ∈ u.about? "k", kind.bringsArgs = false := by decide
  refine ⟨hids, hresets, hargs, ?_⟩
  intro start d blank brace
  have hblank : (ToolArguments.read? (StreamUpdate.inputText "k"
      (readableSoFar ++ [blank])).toList).map (fun v => (ToolArguments.fields (some v)).keys)
        = some ["n"] := by decide +kernel
  have hbrace : ToolArguments.read?
      (StreamUpdate.inputText "k" (readableSoFar ++ [brace])).toList = none :=
    Option.isNone_iff_eq_none.1 (by decide +kernel)
  obtain ⟨value, hread, hkeys⟩ := Option.map_eq_some_iff.1 hblank
  obtain ⟨args, -, hlater, hvalue, -⟩ := streamed_arguments_come_from_whole_text {} start.host hids
    readableSoFar "t" "k" " " completeTwice hresets hargs
  obtain ⟨argsBrace, -, hlaterBrace, -, hraw⟩ := streamed_arguments_come_from_whole_text {}
    start.host hids readableSoFar "t" "k" "\x7d" completeTwice hresets hargs
  obtain ⟨members, hmembers, hinput, hfields⟩ := hraw hbrace
  refine ⟨⟨args, hlater, hvalue value hread ▸ hkeys⟩, members, hmembers ▸ hlaterBrace, hinput, ?_⟩
  rw [hfields]
  decide +kernel

end Delivery

end AgentFeed
