import AgentFeed.Proofs.StreamedText

/-!
# Echoes of streamed text

A server may send as a whole what it has streamed in pieces before. Such an echo is dropped, and
everything else that arrives whole is shown. The decision looks at two things in the state, a
pointer to the turn that came last and the text of that turn, which separate steps write and a reset
takes away.

`Accumulation.Recalls` says what they are in terms of the payloads since the last reset: the pieces
joined, and the turn of the last piece. One payload keeps it (`Delivery.recalls_payload`), whatever
else is interleaved, and no source of ids is asked for anything. What is left is that the two belong
together, which is part of the agreement of the tables (`Accumulation.Consistent`).
-/

namespace AgentFeed

/-! ## 1. The turn that came last -/

/-- The turn whose assistant text a piece continues. -/
def TextPiece.assistantTurn? : TextPiece → Option String
  | .assistant turnId _ => some turnId
  | .reasoning _ _ _ => none

namespace Traffic

/-- The turn whose assistant text a payload continues. -/
def assistantTurn? (payload : Json) : Option String :=
  (textPiece? payload).bind TextPiece.assistantTurn?

/-- The turn whose reasoning a payload continues. -/
def reasoningTurn? (payload : Json) : Option String :=
  (WireMessage.decode payload).reasoningStream?.map Prod.fst

/-- The last of the values that a view sees in payloads. -/
def last? {β : Type} (view : Json → Option β) (payloads : List Json) : Option β :=
  (payloads.filterMap view).getLast?

theorem last?_concat {β : Type} (view : Json → Option β) (payloads : List Json) (p : Json) :
    last? view (payloads ++ [p]) = (view p).or (last? view payloads) := by
  rw [last?, filterMap_concat, List.getLast?_append]
  cases view p <;> rfl

theorem last?_eq_none_iff {β : Type} {view : Json → Option β} {payloads : List Json} :
    last? view payloads = none ↔ ∀ p ∈ payloads, view p = none := by
  rw [last?, List.getLast?_eq_none_iff, List.filterMap_eq_nil_iff]

/-- Whether a text says what payloads have streamed: all assistant text of the turn that assistant
text came for last, blanks at the ends aside. -/
def repeatsText (payloads : List Json) (text : String) : Bool :=
  (last? assistantTurn? payloads).any fun turnId =>
    Text.trim (joined (.assistant turnId) payloads) == Text.trim text

/-- Whether payloads have streamed reasoning. -/
def streamsReasoning (payloads : List Json) : Bool :=
  payloads.any fun p => (reasoningTurn? p).isSome

end Traffic

/-! ## 2. One step -/

namespace Action

/-- The turn whose assistant text an action continues. -/
def assistantTurn? (a : Action) : Option String :=
  a.textPiece?.bind TextPiece.assistantTurn?

/-- The turn whose reasoning an action continues. -/
def reasoningTurn? (a : Action) : Option String :=
  a.reasoningStream?.map Prod.fst

variable (freshId : String) (s : Accumulation) {a : Action}

/-- A piece goes behind the text so far, whether or not the text has an item. -/
theorem textOf_of_piece {piece : TextPiece} (h : a.textPiece? = some piece) :
    (a.step freshId s).state.textOf piece.stream
      = some ((s.textOf piece.stream).getD "" ++ piece.text) := by
  cases a with
  | assistant turnId text =>
    obtain rfl := Option.some.inj h
    simp only [step, Reducer.assistantDelta]
    split <;> exact Table.get?_insert_self _ _ _
  | reasoning turnId streamId mode text =>
    obtain rfl := Option.some.inj h
    simp only [step, Reducer.reasoningDelta]
    split <;> exact Table.get?_insert_self _ _ _
  | _ => cases h

/-- The pointers to the turns that came last follow the actions. -/
theorem lastTurns_step (hreset : a.isReset = false) :
    (a.step freshId s).state.lastAssistantTurn = a.assistantTurn?.or s.lastAssistantTurn ∧
      (a.step freshId s).state.lastReasoningTurn = a.reasoningTurn?.or s.lastReasoningTurn := by
  cases a with
  | reset => exact absurd hreset (by decide)
  | idle => exact ⟨rfl, rfl⟩
  | note body => exact ⟨rfl, rfl⟩
  | assistant turnId text =>
    simp only [step, Reducer.assistantDelta]
    split <;> exact ⟨rfl, rfl⟩
  | reasoning turnId streamId mode text =>
    simp only [step, Reducer.reasoningDelta]
    split <;> exact ⟨rfl, rfl⟩
  | tool key change =>
    simp only [step]
    rcases change.state_cases freshId s key with hstate | ⟨inputs, settled, hstate, -, -⟩
    · rw [hstate]
      exact ⟨rfl, rfl⟩
    · rw [hstate]
      exact ⟨rfl, rfl⟩
  | callStart name payload => exact ⟨rfl, rfl⟩
  | callFinish status name payload =>
    rw [step, WholeMessage.toolFinish_state, Accumulation.closeOldestCall]
    split <;> exact ⟨rfl, rfl⟩

end Action

/-! ## 3. What is remembered of streamed text -/

/-- What is remembered of streamed text is what payloads have streamed. -/
structure Accumulation.Recalls (s : Accumulation) (payloads : List Json) : Prop where
  /-- The texts are the pieces joined, and there are none without pieces. -/
  texts : ∀ stream, s.textOf stream
    = if Traffic.pieces stream payloads = [] then none else some (Traffic.joined stream payloads)
  /-- The turn that assistant text came for last. -/
  assistant : s.lastAssistantTurn = Traffic.last? Traffic.assistantTurn? payloads
  /-- The turn that reasoning came for last. -/
  reasoning : s.lastReasoningTurn = Traffic.last? Traffic.reasoningTurn? payloads

namespace Accumulation

theorem recalls_empty : empty.Recalls [] where
  texts stream := by cases stream <;> rfl
  assistant := rfl
  reasoning := rfl

variable {s : Accumulation} {payloads : List Json}

/-- The text of the turn that came last is what its pieces make up. -/
theorem Recalls.lastAssistantText?_eq (h : s.Recalls payloads) (hconsistent : s.Consistent) :
    s.lastAssistantText? = (Traffic.last? Traffic.assistantTurn? payloads).map fun turnId =>
      Traffic.joined (.assistant turnId) payloads := by
  rw [lastAssistantText?, ← h.assistant]
  cases hturn : s.lastAssistantTurn with
  | none => rfl
  | some turnId =>
    -- The turn has text on record, so pieces of it came.
    obtain ⟨text, htext⟩ := Table.contains_iff.1 (hconsistent.lastAssistant_known turnId hturn)
    have hpieces := h.texts (.assistant turnId)
    rw [textOf, htext] at hpieces
    rw [Option.bind_some, Option.map_some, htext, hpieces, if_neg]
    intro hnone
    rw [if_pos hnone] at hpieces
    cases hpieces

/-- Reasoning was streamed in the turn that came last if it was streamed at all. -/
theorem Recalls.lastReasoningStreamed_eq (h : s.Recalls payloads) (hconsistent : s.Consistent) :
    s.lastReasoningStreamed = Traffic.streamsReasoning payloads := by
  rw [lastReasoningStreamed]
  cases hturn : s.lastReasoningTurn with
  | none =>
    rw [h.reasoning, Traffic.last?_eq_none_iff] at hturn
    symm
    rw [Traffic.streamsReasoning, List.any_eq_false]
    intro p hp
    rw [hturn p hp]
    exact Bool.false_ne_true
  | some turnId =>
    have hmem := List.contains_iff_mem.2 (hconsistent.lastReasoning_known turnId hturn)
    refine hmem.trans ?_
    have hsome : Traffic.last? Traffic.reasoningTurn? payloads ≠ none := by
      rw [← h.reasoning, hturn]
      exact Option.some_ne_none turnId
    rw [Ne, Traffic.last?_eq_none_iff, not_forall] at hsome
    obtain ⟨p, hp⟩ := hsome
    obtain ⟨hmem, hne⟩ := Classical.not_imp.1 hp
    symm
    rw [Traffic.streamsReasoning, List.any_eq_true]
    exact ⟨p, hmem, Option.isSome_iff_ne_none.2 hne⟩

end Accumulation

namespace Delivery

variable {σ : Type} [FeedSink σ]

/-- **What is remembered follows the payloads**, one at a time. -/
theorem recalls_payload {d : Delivery σ} {payloads : List Json} (h : d.state.Recalls payloads)
    {p : Json} (hreset : Traffic.resets p = false) :
    (d.payload p).state.Recalls (payloads ++ [p]) := by
  have hisReset := (d.dispatcher.isReset_action d.state (WireMessage.decode p)).trans hreset
  have hpiece := d.dispatcher.textPiece?_action d.state (p := p)
  obtain ⟨hassistant, hreasoning⟩ := Action.lastTurns_step d.host.ids.head d.state hisReset
  rw [Action.assistantTurn?, hpiece] at hassistant
  rw [Action.reasoningTurn?, d.dispatcher.reasoningStream?_action] at hreasoning
  rw [state_payload]
  refine ⟨fun stream => ?_, ?_, ?_⟩
  · cases hof : Traffic.pieceOf? stream p with
    | none =>
      have howner := d.dispatcher.owner?_of_no_piece d.state hof
      rw [Action.text_frame d.host.ids.head d.state hisReset howner, h.texts, Traffic.joined,
        Traffic.joined, Traffic.pieces_concat, hof, Option.toList_none, List.append_nil]
    | some piece =>
      obtain ⟨haction, rfl⟩ := d.dispatcher.action_of_piece d.state hof
      have hsome : Traffic.pieces piece.stream (payloads ++ [p]) ≠ [] := by
        rw [Traffic.pieces_concat, hof]
        exact List.concat_ne_nil _ _
      rw [Action.textOf_of_piece d.host.ids.head d.state haction, h.texts, if_neg hsome,
        Traffic.joined_concat _ _ hof]
      by_cases hnone : Traffic.pieces piece.stream payloads = []
      · rw [if_pos hnone, Traffic.joined, hnone]
        rfl
      · rw [if_neg hnone]
        rfl
  · rw [hassistant, h.assistant, Traffic.last?_concat]
    rfl
  · rw [hreasoning, h.reasoning, Traffic.last?_concat]
    rfl

theorem recalls_deliverAll {d : Delivery σ} (hstate : d.state = .empty) (payloads : List Json) :
    (d.deliverAll payloads).state.Recalls (Traffic.stretch payloads) := by
  induction payloads using List.reverseRecOn with
  | nil =>
    rw [deliverAll_nil, hstate]
    exact Accumulation.recalls_empty
  | append_singleton payloads p ih =>
    rw [deliverAll_concat, Traffic.stretch_concat]
    cases hreset : Traffic.resets p with
    | true =>
      rw [state_payload_of_resets _ hreset]
      exact Accumulation.recalls_empty
    | false => exact recalls_payload ih hreset

/-! ## 4. Echoes -/

/-- A whole assistant message is dropped if it repeats what was streamed last, and shown
otherwise. -/
theorem message_assistantMessage {d : Delivery σ} {payloads : List Json}
    (h : d.state.Recalls payloads) (hconsistent : d.state.Consistent) (text : String) :
    d.message (.assistantMessage text)
      = if Traffic.repeatsText payloads text then d else d.noted (.message .assistant text) := by
  have hdecides : (d.state.lastAssistantText?.any (WholeMessage.sameText · text))
      = Traffic.repeatsText payloads text := by
    rw [h.lastAssistantText?_eq hconsistent, Option.any_map]
    rfl
  rw [message_eq, Dispatcher.action, hdecides]
  split
  · exact d.perform_idle d.dispatcher
  · exact d.perform_note d.dispatcher _

/-- Whole reasoning is dropped if reasoning was streamed, and shown otherwise. -/
theorem message_reasoning {d : Delivery σ} {payloads : List Json}
    (h : d.state.Recalls payloads) (hconsistent : d.state.Consistent) (kind : Option String)
    (text : String) :
    d.message (.reasoning kind text)
      = if Traffic.streamsReasoning payloads then d
        else d.noted (.reasoning (ReasoningMode.ofLabel kind) text) := by
  rw [message_eq, Dispatcher.action, h.lastReasoningStreamed_eq hconsistent]
  split
  · exact d.perform_idle d.dispatcher
  · exact d.perform_note d.dispatcher _

/-! ## 5. Every run -/

/-- A whole message is dropped as an echo, or else shown as one item. -/
structure ShownUnless (d : Delivery Feed) (m : WireMessage) (echo : Bool) (body : FeedBody) :
    Prop where
  /-- Only an echo leaves the feed as it was. -/
  unchanged : (d.message m).sink = d.sink ↔ echo = true
  /-- What is no echo goes to the end of the feed, once. -/
  items : (d.message m).sink.items
    = d.sink.items ++ if echo then [] else [⟨d.host.ids.head, d.host.clock.head, body⟩]
  /-- Nothing is remembered of it. -/
  state : (d.message m).state = d.state
  /-- Nothing is announced. -/
  announced : (d.message m).host.announced = d.host.announced
  /-- So the message is judged in the same way when it is repeated. -/
  again : (d.message m).message m = if echo then d else (d.noted body).noted body

theorem sink_items_noted (d : Delivery Feed) (body : FeedBody) :
    (d.noted body).sink.items
      = d.sink.items ++ [⟨d.host.ids.head, d.host.clock.head, body⟩] :=
  Feed.items_append _ _

/-- Where equal states judge a message alike, it is dropped or shown, and that is all. -/
private theorem shownUnless {d : Delivery Feed} {m : WireMessage} {echo : Bool} {body : FeedBody}
    (h : ∀ e : Delivery Feed, e.state = d.state →
      e.message m = if echo then e else e.noted body) : d.ShownUnless m echo body := by
  have hd := h d rfl
  cases echo with
  | true =>
    have hstays : d.message m = d := hd
    constructor
    · rw [hstays]
      exact iff_of_true rfl rfl
    · rw [hstays]
      exact (List.append_nil _).symm
    · rw [hstays]
    · rw [hstays]
    · rw [hstays, hstays]
      rfl
  | false =>
    have hshown : d.message m = d.noted body := hd
    have hagain : (d.noted body).message m = (d.noted body).noted body := h (d.noted body) rfl
    constructor
    · rw [hshown]
      refine iff_of_false (fun heq => ?_) Bool.false_ne_true
      have hitems := d.sink_items_noted body
      rw [heq] at hitems
      exact List.cons_ne_nil _ _ (List.self_eq_append_right.1 hitems)
    · rw [hshown]
      exact d.sink_items_noted body
    · rw [hshown]
      rfl
    · rw [hshown]
      rfl
    · rw [hshown, hagain]
      rfl

/-- **Echoes are dropped, and nothing else is.** After any payloads, look at those since the last
reset. A whole assistant message is dropped if and only if assistant text was streamed, and all text
of the turn it came for last is the message, blanks at the ends aside; otherwise the message is
shown as it is. Whole reasoning is dropped if and only if reasoning was streamed; otherwise it is
shown, as a summary only if it calls itself exactly that. Neither is remembered. -/
theorem echoes_are_dropped (dispatcher : Dispatcher) (host : Host) (payloads : List Json) :
    let d := replayInto dispatcher Feed.empty host payloads
    let streamed := Traffic.stretch payloads
    (∀ text, d.ShownUnless (.assistantMessage text) (Traffic.repeatsText streamed text)
        (.message .assistant text)) ∧
      ∀ kind text, ∃ mode, (mode = ReasoningMode.summary ↔ kind = some "summary") ∧
        d.ShownUnless (.reasoning kind text) (Traffic.streamsReasoning streamed)
          (.reasoning mode text) := by
  intro d streamed
  have hrecalls : d.state.Recalls streamed := recalls_deliverAll rfl payloads
  have hconsistent : d.state.Consistent :=
    consistent_deliverAll Accumulation.consistent_empty payloads
  refine ⟨fun text => ?_, fun kind text => ⟨ReasoningMode.ofLabel kind, ?_, ?_⟩⟩
  · refine shownUnless fun e hstate => ?_
    exact message_assistantMessage (hstate ▸ hrecalls) (hstate ▸ hconsistent) text
  · simp only [ReasoningMode.ofLabel, ite_eq_left_iff, reduceCtorEq, imp_false, not_not]
  · refine shownUnless fun e hstate => ?_
    exact message_reasoning (hstate ▸ hrecalls) (hstate ▸ hconsistent) kind text

/-- Two turns after a reset that take turns, the text of the first one in two pieces around that of
the second, and reasoning before the reset only. -/
def interleavedTurns : List Json :=
  [Traffic.chunkPayload "t" "start" [],
    Traffic.chunkPayload "t" "reasoning-delta" [("id", .string "r"), ("text", .string "hm")],
    Traffic.chunkPayload "t" "text-delta" [("text", .string "Lost")],
    Traffic.chunkPayload "t" "start" [],
    Traffic.chunkPayload "t" "text-delta" [("text", .string "He")],
    Traffic.chunkPayload "u" "text-delta" [("text", .string "Bye")],
    Traffic.chunkPayload "t" "text-delta" [("text", .string "llo \n")]]

/-- An echo of the turn that came last is dropped; the text of the other turn, text from before the
reset and reasoning from before it are shown. -/
example :
    let d := replayInto {} Feed.empty
      { ids := .numbered "item", clock := .constant "now" } interleavedTurns
    let added (m : WireMessage) := ((d.message m).sink.items.drop d.sink.size).map (·.render)
    added (.assistantMessage " Hello") = [] ∧
      added (.assistantMessage "Bye") = ["[assistant] Bye"] ∧
      added (.assistantMessage "Lost") = ["[assistant] Lost"] ∧
      added (.reasoning (some "summary") "hm") = ["[summary] hm"] := by
  decide +kernel

end Delivery

end AgentFeed
