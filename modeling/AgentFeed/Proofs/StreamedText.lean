import AgentFeed.Proofs.Places

/-!
# Streamed text

Assistant text and reasoning come in pieces, those of several turns and streams mixed with one
another and with everything else. What a stretch shows for one text is settled by the pieces of that
text alone: nothing before the first one, and from there on one item, at the place where the first
piece came, whose text is all pieces so far joined in order.

The first piece takes another way through the reducer than the later ones, which is why one step is
said twice: `Action.step_of_first_piece` and `Action.step_of_next_piece`. `Delivery.TextHistory`
compares a thread with all payloads of the stretch so far, and each payload keeps it.
-/

namespace AgentFeed

/-! ## 1. Texts and their pieces -/

/-- A text that comes in pieces. -/
inductive TextStream where
  /-- The assistant text of a turn, whatever streams it came in. -/
  | assistant (turnId : String)
  /-- The reasoning with a key. -/
  | reasoning (key : String)
deriving DecidableEq

/-- What the item of a text is remembered for. -/
def TextStream.owner : TextStream → Owner
  | .assistant turnId => .assistant turnId
  | .reasoning key => .reasoning key

/-- A piece of a text. -/
inductive TextPiece where
  /-- A piece of the assistant text of a turn. -/
  | assistant (turnId text : String)
  /-- A piece of the reasoning with a key. -/
  | reasoning (key : String) (mode : ReasoningMode) (text : String)

namespace TextPiece

/-- The text that a piece belongs to. -/
def stream : TextPiece → TextStream
  | .assistant turnId _ => .assistant turnId
  | .reasoning key _ _ => .reasoning key

/-- What a piece adds. -/
def text : TextPiece → String
  | .assistant _ text => text
  | .reasoning _ _ text => text

/-- The body that shows a text which begins with a piece: reasoning keeps the mode of its first
piece. -/
def body (full : String) : TextPiece → FeedBody
  | .assistant _ _ => .message .assistant full
  | .reasoning _ mode _ => .reasoning mode full

theorem apply_body (first : TextPiece) (before full : String) :
    (Amendment.text full).apply (first.body before) = first.body full := by
  cases first <;> rfl

end TextPiece

/-- The text streamed so far. -/
def Accumulation.textOf (s : Accumulation) : TextStream → Option String
  | .assistant turnId => s.assistantTexts.get? turnId
  | .reasoning key => s.reasoningTexts.get? key

/-- The piece that an update brings. -/
def UpdateKind.textPiece? (turnId : String) : UpdateKind → Option TextPiece
  | .textDelta _ text => some (.assistant turnId text)
  | .reasoningDelta streamId mode text =>
    some (.reasoning (Accumulation.reasoningKey turnId streamId) mode text)
  | _ => none

/-- The piece that an action brings. -/
def Action.textPiece? : Action → Option TextPiece
  | .assistant turnId text => some (.assistant turnId text)
  | .reasoning turnId streamId mode text =>
    some (.reasoning (Accumulation.reasoningKey turnId streamId) mode text)
  | _ => none

namespace Traffic

/-- The piece that a payload brings. -/
def textPiece? (payload : Json) : Option TextPiece :=
  (WireMessage.decode payload).update?.bind fun u => u.kind.textPiece? u.turnId

/-- The piece of one text that a payload brings. -/
def pieceOf? (stream : TextStream) (payload : Json) : Option TextPiece :=
  (textPiece? payload).filter (·.stream = stream)

/-- Whether a payload brings a piece of a text. -/
def isPiece (stream : TextStream) (payload : Json) : Bool :=
  (pieceOf? stream payload).isSome

/-- All pieces of a text that payloads bring, in order. -/
def pieces (stream : TextStream) (payloads : List Json) : List TextPiece :=
  payloads.filterMap (pieceOf? stream)

/-- The text that payloads make up. -/
def joined (stream : TextStream) (payloads : List Json) : String :=
  String.join ((pieces stream payloads).map (·.text))

variable {stream : TextStream} {p : Json}

theorem pieces_concat (stream : TextStream) (payloads : List Json) (p : Json) :
    pieces stream (payloads ++ [p]) = pieces stream payloads ++ (pieceOf? stream p).toList :=
  filterMap_concat _ payloads p

theorem joined_concat (stream : TextStream) (payloads : List Json) {piece : TextPiece}
    (h : pieceOf? stream p = some piece) :
    joined stream (payloads ++ [p]) = joined stream payloads ++ piece.text := by
  rw [joined, pieces_concat, h, List.map_append, String.join_append]
  simp [joined]

theorem isPiece_of_some {piece : TextPiece} (h : pieceOf? stream p = some piece) :
    isPiece stream p = true := by
  rw [isPiece, h]
  rfl

theorem isPiece_of_none (h : pieceOf? stream p = none) : isPiece stream p = false := by
  rw [isPiece, h]
  rfl

end Traffic

/-! ## 2. One step -/

namespace Action

variable {s : Accumulation} {a : Action} {piece : TextPiece}

theorem IsWhole.textPiece? (h : a.IsWhole) : a.textPiece? = none := by
  cases a <;> first | rfl | exact h.elim

/-- An action about a text brings a piece of it. -/
theorem exists_piece_of_owner? {stream : TextStream} (h : a.owner? = some stream.owner) :
    ∃ piece, a.textPiece? = some piece ∧ piece.stream = stream := by
  cases a with
  | assistant turnId text =>
    cases stream with
    | assistant other =>
      obtain rfl := Owner.assistant.inj (Option.some.inj h)
      exact ⟨_, rfl, rfl⟩
    | reasoning key => cases h
  | reasoning turnId streamId mode text =>
    cases stream with
    | assistant other => cases h
    | reasoning key =>
      obtain rfl := Owner.reasoning.inj (Option.some.inj h)
      exact ⟨_, rfl, rfl⟩
  | _ => cases stream <;> cases h

/-- The first piece of a text is shown by a new item. -/
theorem step_of_first_piece (freshId : String) (h : a.textPiece? = some piece)
    (hheld : s.held piece.stream.owner = []) (htext : s.textOf piece.stream = none) :
    (a.step freshId s).edit = some (.append (piece.body piece.text)) ∧
      (a.step freshId s).state.held piece.stream.owner = [freshId] ∧
      (a.step freshId s).state.textOf piece.stream = some piece.text := by
  cases a with
  | assistant turnId text =>
    obtain rfl := Option.some.inj h
    have hitem : s.assistantItems.get? turnId = none := Option.toList_eq_nil_iff.1 hheld
    have hfull : (s.assistantTexts.get? turnId).getD "" ++ text = text := by
      rw [show s.assistantTexts.get? turnId = none from htext, Option.getD_none,
        String.empty_append]
    rw [step, Reducer.assistantDelta, hfull, hitem]
    exact ⟨rfl, congrArg Option.toList (Table.get?_insert_self _ _ _),
      Table.get?_insert_self _ _ _⟩
  | reasoning turnId streamId mode text =>
    obtain rfl := Option.some.inj h
    let key := Accumulation.reasoningKey turnId streamId
    have hitem : s.reasoningItems.get? key = none := Option.toList_eq_nil_iff.1 hheld
    have hfull : (s.reasoningTexts.get? key).getD "" ++ text = text := by
      rw [show s.reasoningTexts.get? key = none from htext, Option.getD_none, String.empty_append]
    rw [step, Reducer.reasoningDelta, hfull, hitem]
    exact ⟨rfl, congrArg Option.toList (Table.get?_insert_self _ _ _),
      Table.get?_insert_self _ _ _⟩
  | _ => cases h

/-- A later piece of a text gives its item the text so far. -/
theorem step_of_next_piece (freshId : String) (h : a.textPiece? = some piece) {id before : String}
    (hheld : s.held piece.stream.owner = [id]) (htext : s.textOf piece.stream = some before) :
    (a.step freshId s).edit = some (.amend id (.text (before ++ piece.text))) ∧
      (a.step freshId s).state.held piece.stream.owner = s.held piece.stream.owner ∧
      (a.step freshId s).state.textOf piece.stream = some (before ++ piece.text) := by
  cases a with
  | assistant turnId text =>
    obtain rfl := Option.some.inj h
    have hitem : s.assistantItems.get? turnId = some id := Option.toList_eq_singleton_iff.1 hheld
    have hfull : (s.assistantTexts.get? turnId).getD "" = before := by
      rw [show s.assistantTexts.get? turnId = some before from htext, Option.getD_some]
    rw [step, Reducer.assistantDelta, hfull, hitem]
    exact ⟨rfl, rfl, Table.get?_insert_self _ _ _⟩
  | reasoning turnId streamId mode text =>
    obtain rfl := Option.some.inj h
    let key := Accumulation.reasoningKey turnId streamId
    have hitem : s.reasoningItems.get? key = some id := Option.toList_eq_singleton_iff.1 hheld
    have hfull : (s.reasoningTexts.get? key).getD "" = before := by
      rw [show s.reasoningTexts.get? key = some before from htext, Option.getD_some]
    rw [step, Reducer.reasoningDelta, hfull, hitem]
    exact ⟨rfl, rfl, Table.get?_insert_self _ _ _⟩
  | _ => cases h

/-- Only a reset and a piece of a text touch the text. -/
theorem text_frame (freshId : String) (s : Accumulation) {stream : TextStream}
    (hreset : a.isReset = false) (hother : a.owner? ≠ some stream.owner) :
    (a.step freshId s).state.textOf stream = s.textOf stream := by
  cases a with
  | reset => exact absurd hreset (by decide)
  | idle => rfl
  | note body => rfl
  | assistant turnId text =>
    simp only [step, Reducer.assistantDelta]
    cases stream with
    | assistant other =>
      have hne : turnId ≠ other := fun heq => hother (heq ▸ rfl)
      split <;> exact Table.get?_insert_of_ne _ _ hne
    | reasoning key => split <;> rfl
  | reasoning turnId streamId mode text =>
    simp only [step, Reducer.reasoningDelta]
    cases stream with
    | assistant other => split <;> rfl
    | reasoning key =>
      have hne : Accumulation.reasoningKey turnId streamId ≠ key := fun heq => hother (heq ▸ rfl)
      split <;> exact Table.get?_insert_of_ne _ _ hne
  | tool key change =>
    simp only [step]
    rcases change.state_cases freshId s key with hstate | ⟨inputs, settled, hstate, -, -⟩
    · rw [hstate]
    · rw [hstate]
      cases stream <;> rfl
  | callStart name payload => cases stream <;> rfl
  | callFinish status name payload =>
    rw [step, WholeMessage.toolFinish_state, Accumulation.closeOldestCall]
    cases stream <;> split <;> rfl

end Action

namespace Dispatcher

variable (d : Dispatcher) (s : Accumulation) {stream : TextStream} {p : Json}

theorem textPiece?_action :
    (d.action s (WireMessage.decode p)).textPiece? = Traffic.textPiece? p := by
  rw [d.view_action s _ _ (fun _ h => h.textPiece?) rfl, Traffic.textPiece?]
  refine Option.bind_congr fun u _ => ?_
  obtain ⟨turnId, kind⟩ := u
  cases kind with
  | turnAbort reason => cases reason <;> rfl
  | _ => rfl

theorem action_of_piece {piece : TextPiece} (h : Traffic.pieceOf? stream p = some piece) :
    (d.action s (WireMessage.decode p)).textPiece? = some piece ∧ piece.stream = stream := by
  obtain ⟨hpiece, hstream⟩ := Option.filter_eq_some_iff.1 h
  exact ⟨(d.textPiece?_action s).trans hpiece, by simpa using hstream⟩

theorem owner?_of_no_piece (h : Traffic.pieceOf? stream p = none) :
    (d.action s (WireMessage.decode p)).owner? ≠ some stream.owner := by
  intro howner
  obtain ⟨piece, hpiece, hstream⟩ := Action.exists_piece_of_owner? howner
  rw [d.textPiece?_action s] at hpiece
  rw [Traffic.pieceOf?, hpiece, Option.filter_some, if_pos (by simpa using hstream)] at h
  cases h

end Dispatcher

/-! ## 3. A stretch -/

namespace Delivery

/-- What payloads have made of a text of which nothing was known. -/
structure TextHistory (d : Delivery Feed) (stream : TextStream) (payloads : List Json) :
    Prop where
  /-- One item was appended for it, when the first piece came. -/
  places : d.createdPlaces (Traffic.isPiece stream) payloads
    = (d.firstPlace? (Traffic.isPiece stream) payloads).toList
  /-- Before the first piece nothing is known of it. -/
  silent : Traffic.pieces stream payloads = [] →
    (d.deliverAll payloads).state.held stream.owner = [] ∧
      (d.deliverAll payloads).state.textOf stream = none
  /-- From the first piece on its item shows the pieces joined. -/
  shown : ∀ first rest, Traffic.pieces stream payloads = first :: rest →
    (∃ n, d.firstPlace? (Traffic.isPiece stream) payloads = some n ∧
      (d.deliverAll payloads).Shows stream.owner n
        (first.body (Traffic.joined stream payloads))) ∧
      (d.deliverAll payloads).state.textOf stream = some (Traffic.joined stream payloads)

variable {d : Delivery Feed} {stream : TextStream} {payloads : List Json} {p : Json}

/-- A stretch shows a text exactly when it brings pieces of it. -/
theorem firstPlace?_isPiece_eq_none_iff (d : Delivery Feed) (stream : TextStream)
    (payloads : List Json) :
    d.firstPlace? (Traffic.isPiece stream) payloads = none ↔
      Traffic.pieces stream payloads = [] := by
  rw [firstPlace?_eq_none_iff, Traffic.pieces, List.filterMap_eq_nil_iff]
  simp [Traffic.isPiece]

theorem textHistory_nil (hstate : d.state = .empty) : d.TextHistory stream [] where
  places := rfl
  silent _ := by
    rw [deliverAll_nil, hstate]
    exact ⟨Accumulation.held_empty _, by cases stream <;> rfl⟩
  shown _ _ h := by cases h

namespace TextHistory

/-- A payload without a piece of the text leaves the text as it is. -/
theorem concat_of_other (h : d.TextHistory stream payloads)
    (hcoherent : (d.deliverAll payloads).Coherent) (hreset : Traffic.resets p = false)
    (hother : Traffic.pieceOf? stream p = none) : d.TextHistory stream (payloads ++ [p]) := by
  let now := d.deliverAll payloads
  have hisReset := (now.dispatcher.isReset_action now.state (WireMessage.decode p)).trans hreset
  have howner := now.dispatcher.owner?_of_no_piece now.state hother
  have hplace : d.firstPlace? (Traffic.isPiece stream) (payloads ++ [p])
      = d.firstPlace? (Traffic.isPiece stream) payloads := by
    rw [firstPlace?_concat, Traffic.isPiece_of_none hother, if_neg Bool.false_ne_true,
      Option.or_none]
  have hpieces : Traffic.pieces stream (payloads ++ [p]) = Traffic.pieces stream payloads := by
    rw [Traffic.pieces_concat, hother, Option.toList_none, List.append_nil]
  have hjoined : Traffic.joined stream (payloads ++ [p]) = Traffic.joined stream payloads := by
    rw [Traffic.joined, hpieces, Traffic.joined]
  have hheld := now.held_perform_of_ne
    (now.dispatcher.after (WireMessage.decode p)) hisReset howner
  have htext := Action.text_frame now.host.ids.head now.state hisReset howner
  constructor
  · rw [createdPlaces_append, createdPlaces_cons_of_other (Traffic.isPiece_of_none hother), hplace,
      h.places]
    exact List.append_nil _
  · intro hnone
    obtain ⟨hold, hunknown⟩ := h.silent (hpieces ▸ hnone)
    rw [deliverAll_concat, payload_eq]
    exact ⟨hheld.trans hold, htext.trans hunknown⟩
  · intro first rest hsome
    obtain ⟨⟨n, hn, hshows⟩, hknown⟩ := h.shown first rest (hpieces ▸ hsome)
    rw [deliverAll_concat, payload_eq, hplace, hjoined]
    exact ⟨⟨n, hn, hcoherent.shows_perform_of_ne hshows _ hisReset howner⟩, htext.trans hknown⟩

/-- With the first piece the item of the text is appended. -/
theorem concat_of_first (h : d.TextHistory stream payloads) {piece : TextPiece}
    (hpiece : Traffic.pieceOf? stream p = some piece)
    (hfirst : Traffic.pieces stream payloads = []) : d.TextHistory stream (payloads ++ [p]) := by
  let now := d.deliverAll payloads
  obtain ⟨haction, rfl⟩ := now.dispatcher.action_of_piece now.state hpiece
  obtain ⟨hheld, htext⟩ := h.silent hfirst
  obtain ⟨hedit, hheld', htext'⟩ :=
    Action.step_of_first_piece now.host.ids.head haction hheld htext
  have hpieces : Traffic.pieces piece.stream (payloads ++ [p]) = [piece] := by
    rw [Traffic.pieces_concat, hfirst, hpiece]
    rfl
  have hjoined : Traffic.joined piece.stream (payloads ++ [p]) = piece.text := by
    rw [Traffic.joined, hpieces]
    simp
  have hplace : d.firstPlace? (Traffic.isPiece piece.stream) (payloads ++ [p])
      = some now.sink.size := by
    rw [firstPlace?_concat, (d.firstPlace?_isPiece_eq_none_iff _ _).2 hfirst,
      Traffic.isPiece_of_some hpiece, if_pos rfl, Option.none_or]
  have hnext : (now.payload p).Shows piece.stream.owner now.sink.size (piece.body piece.text) := by
    rw [payload_eq]
    exact now.shows_take_append _ hedit hheld'
  have hsize : (now.payload p).sink.size = now.sink.size + 1 := by
    rw [payload_eq, perform, size_take, Step.growth, hedit]
  constructor
  · rw [createdPlaces_append, h.places, hplace, (d.firstPlace?_isPiece_eq_none_iff _ _).2 hfirst,
      createdPlaces_cons_of_grown (Traffic.isPiece_of_some hpiece) hsize]
    rfl
  · intro hnone
    rw [hpieces] at hnone
    cases hnone
  · intro first rest hsome
    obtain ⟨rfl, rfl⟩ := List.cons.inj (hpieces.symm.trans hsome)
    rw [deliverAll_concat, hplace, hjoined]
    refine ⟨⟨_, rfl, hnext⟩, ?_⟩
    rw [state_payload]
    exact htext'

/-- With a later piece the item of the text is given the longer text. -/
theorem concat_of_next (h : d.TextHistory stream payloads)
    (hcoherent : (d.deliverAll payloads).Coherent) {piece first : TextPiece}
    {rest : List TextPiece} (hpiece : Traffic.pieceOf? stream p = some piece)
    (hbefore : Traffic.pieces stream payloads = first :: rest) :
    d.TextHistory stream (payloads ++ [p]) := by
  let now := d.deliverAll payloads
  obtain ⟨haction, rfl⟩ := now.dispatcher.action_of_piece now.state hpiece
  obtain ⟨⟨n, hn, hshows⟩, htext⟩ := h.shown first rest hbefore
  have ⟨item, _, _, hheld⟩ := hshows
  obtain ⟨hedit, hheld', htext'⟩ :=
    Action.step_of_next_piece now.host.ids.head haction hheld htext
  have hpieces : Traffic.pieces piece.stream (payloads ++ [p]) = first :: (rest ++ [piece]) := by
    rw [Traffic.pieces_concat, hbefore, hpiece]
    rfl
  have hplace : d.firstPlace? (Traffic.isPiece piece.stream) (payloads ++ [p]) = some n := by
    rw [firstPlace?_concat, hn, Option.some_or]
  -- The text on record is what the item shows, so the item gets what is joined now.
  have hnext : (now.payload p).Shows piece.stream.owner n
      (first.body (Traffic.joined piece.stream payloads ++ piece.text)) := by
    rw [payload_eq, ← first.apply_body (Traffic.joined piece.stream payloads)]
    exact hcoherent.shows_take_amend hshows _ hedit (hheld ▸ List.mem_singleton_self _) hheld'
  have hsize : (now.payload p).sink.size = now.sink.size := by
    rw [payload_eq, perform, size_take, Step.growth, hedit]
    rfl
  constructor
  · rw [createdPlaces_append, createdPlaces_cons_of_same hsize, h.places, hn, hplace]
    rfl
  · intro hnone
    rw [hpieces] at hnone
    cases hnone
  · intro first' rest' hsome
    obtain ⟨rfl, -⟩ := List.cons.inj (hpieces.symm.trans hsome)
    rw [deliverAll_concat, hplace, Traffic.joined_concat _ _ hpiece]
    refine ⟨⟨n, rfl, hnext⟩, ?_⟩
    rw [state_payload]
    exact htext'

end TextHistory

/-- **A stretch and a text.** -/
theorem Coherent.textHistory (h : d.Coherent) (hstate : d.state = .empty) (stream : TextStream)
    {payloads : List Json} (hresets : ∀ p ∈ payloads, Traffic.resets p = false) :
    d.TextHistory stream payloads := by
  -- From the right: a history is about all payloads so far, and the next one extends it.
  induction payloads using List.reverseRecOn with
  | nil => exact textHistory_nil hstate
  | append_singleton payloads p ih =>
    obtain ⟨hbefore, hlast⟩ := List.forall_mem_append.1 hresets
    have hreset := hlast p (List.mem_singleton_self p)
    have hhistory := ih hbefore
    have hcoherent := h.deliverAll payloads
    cases hpiece : Traffic.pieceOf? stream p with
    | none => exact hhistory.concat_of_other hcoherent hreset hpiece
    | some piece =>
      cases hpieces : Traffic.pieces stream payloads with
      | nil => exact hhistory.concat_of_first hpiece hpieces
      | cons first rest => exact hhistory.concat_of_next hcoherent hpiece hpieces

/-! ## 4. Every run -/

/-- **Streamed text is its pieces joined.** Look at the payloads since the last reset. If none of
them brings a piece of a text, no item was appended for it and none is remembered. Otherwise one
was, where the feed ended when the first piece came; it shows all pieces so far, joined in the order
they came in, and is of the sort the first piece asked for. Whatever else comes leaves it alone, and
so does everything behind the next reset. -/
theorem streamed_text_joins_its_pieces (dispatcher : Dispatcher) (host : Host)
    (hids : host.ids.NeverRepeats) (stream : TextStream) (payloads : List Json) :
    let before := replayInto dispatcher Feed.empty host (Traffic.upToReset payloads)
    let after := replayInto dispatcher Feed.empty host payloads
    let stretch := Traffic.stretch payloads
    let pieces := Traffic.pieces stream stretch
    let place := before.firstPlace? (Traffic.isPiece stream) stretch
    before.createdPlaces (Traffic.isPiece stream) stretch = place.toList ∧
      (place = none ↔ pieces = []) ∧
      (place = none → after.state.held stream.owner = []) ∧
      ∀ n, place = some n → ∃ item first,
        after.sink.items[n]? = some item ∧ after.state.held stream.owner = [item.id] ∧
          pieces.head? = some first ∧ item.body = first.body (String.join (pieces.map (·.text))) ∧
          ∀ later, Traffic.pieces stream (later.takeWhile fun p => !Traffic.resets p) = [] →
            (after.deliverAll later).sink.items[n]? = some item := by
  intro before after stretch pieces place
  have hbefore : before.Coherent :=
    (coherent_start dispatcher hids).deliverAll (Traffic.upToReset payloads)
  have hempty : before.state = .empty := state_upToReset rfl payloads
  have hafter : after = before.deliverAll stretch :=
    replayInto_eq_stretch dispatcher Feed.empty host payloads
  have hhistory : before.TextHistory stream stretch :=
    hbefore.textHistory hempty stream fun _ hp => Traffic.not_resets_of_mem_stretch hp
  have hnone : place = none ↔ pieces = [] :=
    before.firstPlace?_isPiece_eq_none_iff stream stretch
  refine ⟨hhistory.places, hnone, fun hplace => ?_, fun n hplace => ?_⟩
  · rw [hafter]
    exact (hhistory.silent (hnone.1 hplace)).1
  · obtain ⟨first, rest, hpieces⟩ : ∃ first rest, pieces = first :: rest := by
      refine List.exists_cons_of_ne_nil fun hnil => ?_
      rw [hnone.2 hnil] at hplace
      cases hplace
    obtain ⟨⟨m, hm, item, hitem, hbody, hheld⟩, -⟩ := hhistory.shown first rest hpieces
    obtain rfl := Option.some.inj (hm.symm.trans hplace)
    rw [hafter]
    refine ⟨item, first, hitem, hheld, congrArg List.head? hpieces, hbody, fun later hlater => ?_⟩
    refine (hbefore.deliverAll stretch).item_deliverAll hitem (hheld ▸ List.mem_singleton_self _)
      fun p hp dispatcher' s => dispatcher'.owner?_of_no_piece s ?_
    exact List.filterMap_eq_nil_iff.1 hlater p hp

/-- Two turns and a stream of reasoning that take turns, with a log line between them. -/
def mixedTexts : List Json :=
  [Traffic.chunkPayload "t" "start" [],
    Traffic.chunkPayload "t" "text-delta" [("id", .string "a"), ("text", .string "He")],
    Traffic.chunkPayload "t" "reasoning-delta" [("id", .string "r"), ("text", .string "hm")],
    Traffic.chunkPayload "u" "text-delta" [("id", .string "a"), ("text", .string "Bye")],
    Traffic.chunkPayload "t" "text-delta" [("id", .string "b"), ("text", .string "")],
    Traffic.logPayload "tool> grep 1",
    Traffic.chunkPayload "t" "text-delta" [("id", .string "b"), ("text", .string "llo")]]

/-- The text of the first turn is in one piece at the front, and stays so when the other turn goes
on. -/
theorem streamed_text_joins_its_pieces_sample :
    (Supply.numbered "item").NeverRepeats ∧
      let d := replayInto {} Feed.empty
        { ids := .numbered "item", clock := .constant "now" } mixedTexts
      d.sink.items.map (·.render) = ["[assistant] Hello", "[reasoning] hm", "[assistant] Bye",
        "[tool:running] grep 1"] ∧
      ∃ item, d.sink.items[0]? = some item ∧ d.state.held (.assistant "t") = [item.id] ∧
        item.body = .message .assistant "Hello" ∧
        (d.payload (Traffic.chunkPayload "u" "text-delta" [("text", .string "!")])).sink.items[0]?
          = some item := by
  have hplace : (replayInto {} Feed.empty { ids := .numbered "item", clock := .constant "now" }
      (Traffic.upToReset mixedTexts)).firstPlace? (Traffic.isPiece (.assistant "t"))
        (Traffic.stretch mixedTexts) = some 0 := by decide +kernel
  obtain ⟨-, -, -, hsome⟩ := streamed_text_joins_its_pieces {}
    { ids := .numbered "item", clock := .constant "now" } (Supply.numbered_neverRepeats "item")
    (.assistant "t") mixedTexts
  obtain ⟨item, first, hitem, hheld, hfirst, hbody, hlater⟩ := hsome 0 hplace
  have hpieces : Traffic.pieces (.assistant "t") (Traffic.stretch mixedTexts)
      = [.assistant "t" "He", .assistant "t" "", .assistant "t" "llo"] := rfl
  rw [hpieces] at hfirst hbody
  obtain rfl := Option.some.inj hfirst
  exact ⟨Supply.numbered_neverRepeats "item", by decide +kernel, item, hitem, hheld, hbody,
    hlater [_] rfl⟩

end Delivery

end AgentFeed
