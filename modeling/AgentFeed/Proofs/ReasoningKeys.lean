import AgentFeed.Proofs.StreamedText
import AgentFeed.Proofs.UpdateRun

/-!
# When two streams of reasoning share an item

A stream of reasoning is remembered by one text, which is the id of its turn, a colon and the id of
the stream. Ids are any texts, so the colon that was put in cannot be told from one that an id
brought along: `t:r` and `0` are written like `t` and `r:0`. Two different streams have one key
exactly when a part with a colon goes over from the turn of the one to the stream of the other
(`reasoningKey_eq_iff`), and then they have one item, with the texts of both.

What holds of every run is said in terms of the key. `Delivery.Reads` is a text that has an item,
`Delivery.Joins` says of any text what the updates so far have made of it, and one update keeps
either (`Coherent.reads_update`, `Coherent.joins_update`).
-/

namespace AgentFeed

/-! ## 1. Keys -/

/-- The turn of the second stream is that of the first with a colon and a part behind it, and the
same part and a colon are missing at the beginning of its stream. -/
def PartMoves (turnId streamId otherTurn otherStream : String) : Prop :=
  ∃ part, otherTurn = turnId ++ ":" ++ part ∧ streamId = part ++ ":" ++ otherStream

/-- What is left of the one key where the other one begins is empty or starts with the colon. -/
private theorem partMoves_of_append {turnId streamId otherTurn otherStream : String}
    {rest : List Char} (hturn : otherTurn.toList = turnId.toList ++ rest)
    (hstream : ':' :: streamId.toList = rest ++ ':' :: otherStream.toList) :
    (turnId = otherTurn ∧ streamId = otherStream) ∨
      PartMoves turnId streamId otherTurn otherStream := by
  cases rest with
  | nil =>
    rw [List.append_nil] at hturn
    rw [List.nil_append, List.cons.injEq] at hstream
    exact .inl ⟨String.toList_inj.1 hturn.symm, String.toList_inj.1 hstream.2⟩
  | cons colon part =>
    rw [List.cons_append, List.cons.injEq] at hstream
    obtain ⟨rfl, hstream⟩ := hstream
    refine .inr ⟨String.ofList part, String.toList_inj.1 ?_, String.toList_inj.1 ?_⟩
    · rw [hturn]
      simp
    · rw [hstream]
      simp

theorem PartMoves.reasoningKey_eq {turnId streamId otherTurn otherStream : String}
    (h : PartMoves turnId streamId otherTurn otherStream) :
    Accumulation.reasoningKey turnId streamId
      = Accumulation.reasoningKey otherTurn otherStream := by
  obtain ⟨part, rfl, rfl⟩ := h
  simp only [Accumulation.reasoningKey, String.append_assoc]

/-- **Keys that agree.** -/
theorem Accumulation.reasoningKey_eq_iff {turnId streamId otherTurn otherStream : String} :
    reasoningKey turnId streamId = reasoningKey otherTurn otherStream ↔
      (turnId = otherTurn ∧ streamId = otherStream) ∨
        PartMoves turnId streamId otherTurn otherStream ∨
        PartMoves otherTurn otherStream turnId streamId := by
  constructor
  · intro h
    have hlist : turnId.toList ++ ':' :: streamId.toList
        = otherTurn.toList ++ ':' :: otherStream.toList := by
      simpa [reasoningKey] using congrArg String.toList h
    rcases List.append_eq_append_iff.1 hlist with ⟨rest, hturn, hstream⟩ | ⟨rest, hturn, hstream⟩
    · exact (partMoves_of_append hturn hstream).imp_right .inl
    · rcases partMoves_of_append hturn hstream with ⟨rfl, rfl⟩ | hmoves
      · exact .inl ⟨rfl, rfl⟩
      · exact .inr (.inr hmoves)
  · rintro (⟨rfl, rfl⟩ | hmoves | hmoves)
    · rfl
    · exact hmoves.reasoningKey_eq
    · exact hmoves.reasoningKey_eq.symm

/-! ## 2. One action -/

/-- The item that an edit is about, where `freshId` is the id of a new one. -/
def FeedEdit.itemId (freshId : String) : FeedEdit → String
  | .append _ => freshId
  | .amend id _ => id

namespace Delivery

/-- Nothing is known of a text. -/
structure Silent (d : Delivery Feed) (stream : TextStream) : Prop where
  /-- It has no item. -/
  held : d.state.held stream.owner = []
  /-- Nothing of it has come. -/
  text : d.state.textOf stream = none

/-- A text has an item, which shows it in the form that the first piece asked for. -/
structure Reads (d : Delivery Feed) (stream : TextStream) (id : String) (n : Nat)
    (first : TextPiece) (full : String) : Prop where
  /-- The first piece is one of the text. -/
  first_stream : first.stream = stream
  /-- The item. -/
  held : d.state.held stream.owner = [id]
  /-- The item is at a place and shows the text. -/
  shows : d.Shows stream.owner n (first.body full)
  /-- What has come of the text. -/
  text : d.state.textOf stream = some full

variable {d : Delivery Feed} {stream : TextStream} {id full : String} {n : Nat}
  {piece first : TextPiece} {a : Action}

theorem Silent.perform_of_ne (h : d.Silent stream) (dispatcher : Dispatcher)
    (hreset : a.isReset = false) (hother : a.owner? ≠ some stream.owner) :
    (d.perform dispatcher a).Silent stream where
  held := (d.held_perform_of_ne dispatcher hreset hother).trans h.held
  text := (Action.text_frame _ _ hreset hother).trans h.text

theorem Coherent.reads_perform_of_ne (h : d.Coherent) (hreads : d.Reads stream id n first full)
    (dispatcher : Dispatcher) (hreset : a.isReset = false)
    (hother : a.owner? ≠ some stream.owner) :
    (d.perform dispatcher a).Reads stream id n first full where
  first_stream := hreads.first_stream
  held := (d.held_perform_of_ne dispatcher hreset hother).trans hreads.held
  shows := h.shows_perform_of_ne hreads.shows dispatcher hreset hother
  text := (Action.text_frame _ _ hreset hother).trans hreads.text

/-- The first piece of a text appends its item. -/
theorem Silent.perform_of_piece (h : d.Silent piece.stream) (dispatcher : Dispatcher)
    (hpiece : a.textPiece? = some piece) :
    (d.perform dispatcher a).Reads piece.stream d.host.ids.head d.sink.size piece piece.text ∧
      (a.step d.host.ids.head d.state).edit = some (.append (piece.body piece.text)) := by
  obtain ⟨hedit, hheld, htext⟩ :=
    Action.step_of_first_piece d.host.ids.head hpiece h.held h.text
  exact ⟨⟨rfl, hheld, d.shows_take_append dispatcher hedit hheld, htext⟩, hedit⟩

/-- A later piece of a text amends its item. -/
theorem Coherent.reads_perform_of_piece (h : d.Coherent)
    (hreads : d.Reads piece.stream id n first full) (dispatcher : Dispatcher)
    (hpiece : a.textPiece? = some piece) :
    (d.perform dispatcher a).Reads piece.stream id n first (full ++ piece.text) ∧
      (a.step d.host.ids.head d.state).edit = some (.amend id (.text (full ++ piece.text))) := by
  obtain ⟨hedit, hheld, htext⟩ :=
    Action.step_of_next_piece d.host.ids.head hpiece hreads.held hreads.text
  refine ⟨⟨hreads.first_stream, hheld.trans hreads.held, ?_, htext⟩, hedit⟩
  rw [← first.apply_body full]
  exact h.shows_take_amend hreads.shows dispatcher hedit
    (hreads.held ▸ List.mem_singleton_self id) hheld

end Delivery

/-! ## 3. Updates -/

theorem UpdateKind.textPiece?_action (limit : Nat) (turnId : String) (kind : UpdateKind) :
    (kind.action limit turnId).textPiece? = kind.textPiece? turnId := by
  cases kind with
  | turnAbort reason => cases reason <;> rfl
  | _ => rfl

namespace StreamUpdate

/-- The piece of one text that an update brings. -/
def pieceOf? (stream : TextStream) (u : StreamUpdate) : Option TextPiece :=
  (u.kind.textPiece? u.turnId).filter (·.stream = stream)

/-- All pieces of a text since the last turn began, joined. -/
def joinedText (stream : TextStream) : List StreamUpdate → String :=
  gather fun u => (u.pieceOf? stream).map (·.text)

theorem pieceOf?_reasoning (turnId streamId text : String) (mode : ReasoningMode) :
    pieceOf? (.reasoning (Accumulation.reasoningKey turnId streamId))
        { turnId, kind := .reasoningDelta streamId mode text }
      = some (.reasoning (Accumulation.reasoningKey turnId streamId) mode text) :=
  Option.filter_eq_some_iff.2 ⟨rfl, decide_eq_true rfl⟩

variable {stream : TextStream} {u : StreamUpdate}

theorem textPiece?_of_pieceOf? {piece : TextPiece} (h : u.pieceOf? stream = some piece)
    (limit : Nat) :
    (u.kind.action limit u.turnId).textPiece? = some piece ∧ piece.stream = stream := by
  obtain ⟨hpiece, hstream⟩ := Option.filter_eq_some_iff.1 h
  exact ⟨(u.kind.textPiece?_action limit u.turnId).trans hpiece, by simpa using hstream⟩

theorem owner?_of_pieceOf? (h : u.pieceOf? stream = none) (limit : Nat) :
    (u.kind.action limit u.turnId).owner? ≠ some stream.owner := by
  intro howner
  obtain ⟨piece, hpiece, hstream⟩ := Action.exists_piece_of_owner? howner
  rw [u.kind.textPiece?_action] at hpiece
  rw [pieceOf?, hpiece, Option.filter_some, if_pos (by simpa using hstream)] at h
  cases h

end StreamUpdate

namespace Delivery

/-- The item that an update appends or amends. -/
def target? {σ : Type} (d : Delivery σ) (u : StreamUpdate) : Option String :=
  (Reducer.reduce d.dispatcher.previewLimit d.host.ids.head d.state u).edit.map
    (FeedEdit.itemId d.host.ids.head)

/-- The text is what has been made of a stream: it has an item that shows the text, or nothing has
come of it. -/
def Joins (d : Delivery Feed) (stream : TextStream) (full : String) : Prop :=
  (d.Silent stream ∧ full = "") ∨ ∃ id n first, d.Reads stream id n first full

variable {d : Delivery Feed} {stream : TextStream} {id full : String} {n : Nat} {first : TextPiece}
  {u : StreamUpdate}

theorem target?_eq (d : Delivery Feed) (u : StreamUpdate) :
    d.target? u = ((u.kind.action d.dispatcher.previewLimit u.turnId).step
      d.host.ids.head d.state).edit.map (FeedEdit.itemId d.host.ids.head) := by
  rw [target?, Reducer.reduce, Reducer.reduceKind_eq]

theorem Silent.of_empty (h : d.state = .empty) : d.Silent stream := by
  constructor
  · rw [h, Accumulation.held_empty]
  · rw [h]
    cases stream <;> rfl

namespace Coherent

/-- A piece of a text is shown by the item of the text. -/
theorem reads_update_of_piece (h : d.Coherent) (hjoins : d.Joins stream full) {piece : TextPiece}
    (hpiece : u.pieceOf? stream = some piece) :
    ∃ id n first, (d.update u).Reads stream id n first (full ++ piece.text) ∧
      d.target? u = some id := by
  obtain ⟨haction, rfl⟩ := StreamUpdate.textPiece?_of_pieceOf? hpiece d.dispatcher.previewLimit
  rw [update_eq, target?_eq]
  rcases hjoins with ⟨hsilent, rfl⟩ | ⟨id, n, first, hreads⟩
  · obtain ⟨hnext, hedit⟩ := hsilent.perform_of_piece d.dispatcher haction
    rw [hedit, String.empty_append]
    exact ⟨_, _, _, hnext, rfl⟩
  · obtain ⟨hnext, hedit⟩ := h.reads_perform_of_piece hreads d.dispatcher haction
    rw [hedit]
    exact ⟨_, _, _, hnext, rfl⟩

/-- A text that has an item keeps it, until everything is forgotten. -/
theorem reads_update (h : d.Coherent) (hreads : d.Reads stream id n first full)
    (hreset : u.kind.startsTurn = false) :
    ∃ more, (d.update u).Reads stream id n first (full ++ more) := by
  rw [update_eq]
  cases hpiece : u.pieceOf? stream with
  | some piece =>
    obtain ⟨haction, rfl⟩ := StreamUpdate.textPiece?_of_pieceOf? hpiece d.dispatcher.previewLimit
    exact ⟨_, (h.reads_perform_of_piece hreads d.dispatcher haction).1⟩
  | none =>
    refine ⟨"", ?_⟩
    rw [String.append_empty]
    refine h.reads_perform_of_ne hreads _ ?_ (StreamUpdate.owner?_of_pieceOf? hpiece _)
    exact (u.kind.action_views _ _).1.trans hreset

theorem reads_updateAll (h : d.Coherent) (hreads : d.Reads stream id n first full)
    {updates : List StreamUpdate} (hresets : ∀ u ∈ updates, u.kind.startsTurn = false) :
    ∃ more, (d.updateAll updates).Reads stream id n first (full ++ more) := by
  induction updates generalizing d full with
  | nil =>
    refine ⟨"", ?_⟩
    rw [String.append_empty]
    exact hreads
  | cons u rest ih =>
    obtain ⟨hreset, hrest⟩ := List.forall_mem_cons.1 hresets
    obtain ⟨piece, hnext⟩ := h.reads_update hreads hreset
    obtain ⟨more, hlast⟩ := ih (h.update u) hnext hrest
    refine ⟨piece ++ more, ?_⟩
    rw [← String.append_assoc]
    exact hlast

theorem joins_update (h : d.Coherent) (hjoins : d.Joins stream full) :
    (d.update u).Joins stream (if u.kind.startsTurn then ""
      else full ++ ((u.pieceOf? stream).map (·.text)).getD "") := by
  by_cases hreset : u.kind.startsTurn = true
  · rw [if_pos hreset, d.update_of_startsTurn hreset]
    exact .inl ⟨.of_empty rfl, rfl⟩
  · rw [if_neg hreset]
    cases hpiece : u.pieceOf? stream with
    | some piece =>
      obtain ⟨id, n, first, hreads, -⟩ := h.reads_update_of_piece hjoins hpiece
      exact .inr ⟨id, n, first, hreads⟩
    | none =>
      have howner := StreamUpdate.owner?_of_pieceOf? hpiece d.dispatcher.previewLimit
      have hisReset := (u.kind.action_views d.dispatcher.previewLimit u.turnId).1.trans
        (Bool.not_eq_true _ ▸ hreset)
      rw [Option.map_none, Option.getD_none, String.append_empty, update_eq]
      rcases hjoins with ⟨hsilent, rfl⟩ | ⟨id, n, first, hreads⟩
      · exact .inl ⟨hsilent.perform_of_ne _ hisReset howner, rfl⟩
      · exact .inr ⟨id, n, first, h.reads_perform_of_ne hreads _ hisReset howner⟩

/-- **What updates make of a text** is its pieces since the last turn began. -/
theorem joins_updateAll (h : d.Coherent) (hstate : d.state = .empty) (stream : TextStream)
    (updates : List StreamUpdate) :
    (d.updateAll updates).Joins stream (StreamUpdate.joinedText stream updates) := by
  induction updates using List.reverseRecOn with
  | nil => exact .inl ⟨.of_empty hstate, rfl⟩
  | append_singleton updates u ih =>
    rw [updateAll_concat, StreamUpdate.joinedText, StreamUpdate.gather_concat]
    exact (h.updateAll updates).joins_update ih

end Coherent

/-- A text whose item is known shows what was made of it. -/
theorem Reads.eq_of_joins {made : String} (h : d.Reads stream id n first full)
    (hjoins : d.Joins stream made) : full = made := by
  rcases hjoins with ⟨hsilent, -⟩ | ⟨_, _, _, hreads⟩
  · exact absurd (h.text.symm.trans hsilent.text) (Option.some_ne_none full)
  · exact Option.some.inj (h.text.symm.trans hreads.text)

/-- One item has an id, and it shows reasoning with a text. -/
def ShowsReasoning (d : Delivery Feed) (id text : String) : Prop :=
  ∃ item mode, d.sink.items.filter (·.id = id) = [item] ∧ item.body = .reasoning mode text

/-- What an item of reasoning shows stays, once its text is forgotten. -/
theorem Coherent.showsReasoning_of_startsTurn (h : d.Coherent) {key : String}
    (hreads : d.Reads (.reasoning key) id n first full) {updates : List StreamUpdate}
    (hfirst : ∀ u ∈ updates.head?, u.kind.startsTurn = true) :
    (d.updateAll updates).ShowsReasoning id full := by
  obtain ⟨item, hitem, hbody, hheld⟩ := hreads.shows
  obtain rfl : item.id = id := (List.cons.inj (hheld.symm.trans hreads.held)).1
  obtain ⟨mode, hmode⟩ : ∃ mode, first.body full = .reasoning mode full := by
    cases first with
    | assistant turnId text => exact absurd hreads.first_stream TextStream.noConfusion
    | reasoning key mode text => exact ⟨mode, rfl⟩
  have hstays := h.item_updateAll_of_startsTurn hitem hfirst
  have hnames : (d.updateAll updates).sink.Names item.id (· = .reasoning mode full) :=
    ⟨item, List.mem_of_getElem? hstays, rfl, hbody.trans hmode⟩
  obtain ⟨only, honly, hshows⟩ := hnames.filter_eq (h.updateAll updates).distinct
  exact ⟨only, mode, honly, hshows⟩

/-- An item of reasoning takes part in the rest of the turn, and lies still behind it. -/
theorem Coherent.showsReasoning_updateAll (h : d.Coherent) {key : String}
    (hreads : d.Reads (.reasoning key) id n first full) (later : List StreamUpdate) {made : String}
    (hjoins : (d.updateAll (later.takeWhile (!·.kind.startsTurn))).Joins (.reasoning key) made) :
    (d.updateAll later).ShowsReasoning id made := by
  have hresets : ∀ w ∈ later.takeWhile (!·.kind.startsTurn), w.kind.startsTurn = false := by
    intro w hw
    simpa using List.mem_takeWhile_imp hw
  have hfirst : ∀ w ∈ (later.dropWhile (!·.kind.startsTurn)).head?, w.kind.startsTurn = true := by
    intro w hw
    have hnot := List.head?_dropWhile_not (!·.kind.startsTurn) later
    rw [Option.mem_def.1 hw] at hnot
    simpa using hnot
  obtain ⟨more, hturn⟩ := h.reads_updateAll hreads hresets
  have hshows := (h.updateAll _).showsReasoning_of_startsTurn hturn hfirst
  rwa [← updateAll_append, List.takeWhile_append_dropWhile, hturn.eq_of_joins hjoins] at hshows

/-! ## 4. Every run -/

/-- **Streams of reasoning share an item exactly when their keys agree.** Take any two pieces of
reasoning with no start of a turn between them, after any updates. Each is shown by an item, and it
is the same item if and only if turn and stream are the same, or a part with a colon has moved
between them. However the run goes on, one item of the feed has the id of either; it is reasoning,
and its text is all pieces with its key, joined, from the start of the turn to the next. -/
theorem reasoning_shares_item_iff_keys_agree (dispatcher : Dispatcher) (host : Host)
    (hids : host.ids.NeverRepeats) (before between later : List StreamUpdate)
    (turnId streamId text otherTurn otherStream otherText : String) (mode otherMode : ReasoningMode)
    (hbetween : ∀ w ∈ between, w.kind.startsTurn = false) :
    let start : Delivery Feed := { dispatcher, state := .empty, sink := Feed.empty, host }
    let u : StreamUpdate := { turnId, kind := .reasoningDelta streamId mode text }
    let v : StreamUpdate :=
      { turnId := otherTurn, kind := .reasoningDelta otherStream otherMode otherText }
    let upTo := before ++ u :: between
    let turn := upTo ++ v :: later.takeWhile (!·.kind.startsTurn)
    let last := start.updateAll (upTo ++ v :: later)
    ∃ id other, (start.updateAll before).target? u = some id ∧
      (start.updateAll upTo).target? v = some other ∧
      (id = other ↔ (turnId = otherTurn ∧ streamId = otherStream) ∨
        PartMoves turnId streamId otherTurn otherStream ∨
        PartMoves otherTurn otherStream turnId streamId) ∧
      last.ShowsReasoning id
        (StreamUpdate.joinedText (.reasoning (Accumulation.reasoningKey turnId streamId)) turn) ∧
      last.ShowsReasoning other
        (StreamUpdate.joinedText (.reasoning (Accumulation.reasoningKey otherTurn otherStream))
          turn) := by
  intro start u v upTo turn last
  have hstart : start.Coherent := coherent_start dispatcher hids
  have hpiece := StreamUpdate.pieceOf?_reasoning turnId streamId text mode
  have hpiece' := StreamUpdate.pieceOf?_reasoning otherTurn otherStream otherText otherMode
  -- The first piece gets its item, which stays that of its key up to the second piece.
  obtain ⟨id, n, first, hreads, htarget⟩ := (hstart.updateAll before).reads_update_of_piece
    (hstart.joins_updateAll rfl _ before) hpiece
  obtain ⟨_, hreads⟩ := ((hstart.updateAll before).update u).reads_updateAll hreads hbetween
  rw [show ((start.updateAll before).update u).updateAll between = start.updateAll upTo from
    (start.updateAll_append before (u :: between)).symm] at hreads
  have hupTo : (start.updateAll upTo).Coherent := hstart.updateAll upTo
  obtain ⟨other, m, first', hreads', htarget'⟩ :=
    hupTo.reads_update_of_piece (hstart.joins_updateAll rfl _ upTo) hpiece'
  obtain ⟨_, hreads⟩ := hupTo.reads_update hreads (u := v) rfl
  have hnow : ((start.updateAll upTo).update v).Coherent := hupTo.update v
  have hshare : id = other ↔ Accumulation.reasoningKey turnId streamId
      = Accumulation.reasoningKey otherTurn otherStream := by
    constructor
    · rintro rfl
      exact Owner.reasoning.inj <| hnow.held_owner _ _ id
        (hreads.held ▸ List.mem_singleton_self id) (hreads'.held ▸ List.mem_singleton_self id)
    · intro hkey
      have hsame := hreads.held
      rw [hkey] at hsame
      exact (List.cons.inj (hsame.symm.trans hreads'.held)).1
  have hsplit : ∀ rest, start.updateAll (upTo ++ v :: rest)
      = ((start.updateAll upTo).update v).updateAll rest :=
    fun rest => start.updateAll_append upTo (v :: rest)
  have hmade : ∀ stream, (((start.updateAll upTo).update v).updateAll
      (later.takeWhile (!·.kind.startsTurn))).Joins stream (StreamUpdate.joinedText stream turn) :=
    fun stream => hsplit _ ▸ hstart.joins_updateAll rfl stream turn
  refine ⟨id, other, htarget, htarget', hshare.trans Accumulation.reasoningKey_eq_iff, ?_, ?_⟩
  · rw [show last = _ from hsplit later]
    exact hnow.showsReasoning_updateAll hreads later (hmade _)
  · rw [show last = _ from hsplit later]
    exact hnow.showsReasoning_updateAll hreads' later (hmade _)

/-- Two streams of one turn have two items, each with its own text, and the next turn leaves both
alone although its ids are the same. -/
theorem reasoning_shares_item_iff_keys_agree_sample :
    let host : Host := { ids := .numbered "item", clock := .constant "now" }
    let start : Delivery Feed := { dispatcher := {}, state := .empty, sink := Feed.empty, host }
    let piece (streamId text : String) : StreamUpdate :=
      { turnId := "t", kind := .reasoningDelta streamId .reasoning text }
    let between := [piece "a" "b"]
    let later := [piece "b" "d", { turnId := "t", kind := .turnStart }, piece "a" "e"]
    let last := start.updateAll (piece "a" "a" :: (between ++ piece "b" "c" :: later))
    host.ids.NeverRepeats ∧ (∀ w ∈ between, w.kind.startsTurn = false) ∧
      ∃ id other, id ≠ other ∧ last.ShowsReasoning id "ab" ∧ last.ShowsReasoning other "cd" := by
  intro host start piece between later last
  have hids : host.ids.NeverRepeats := Supply.numbered_neverRepeats "item"
  have hbetween : ∀ w ∈ between, w.kind.startsTurn = false := by decide
  obtain ⟨id, other, -, -, hshare, hfirst, hsecond⟩ := reasoning_shares_item_iff_keys_agree {} host
    hids [] between later "t" "a" "a" "t" "b" "c" .reasoning .reasoning hbetween
  have hkeys : Accumulation.reasoningKey "t" "a" ≠ Accumulation.reasoningKey "t" "b" := by decide
  refine ⟨hids, hbetween, id, other, ?_, hfirst, hsecond⟩
  exact fun heq => hkeys (Accumulation.reasoningKey_eq_iff.2 (hshare.1 heq))

/-- A colon in an id makes one item of two streams: the second piece is shown behind the first one,
although turn and stream of the two differ. -/
theorem colon_joins_two_streams :
    let host : Host := { ids := .numbered "item", clock := .constant "now" }
    let start : Delivery Feed := { dispatcher := {}, state := .empty, sink := Feed.empty, host }
    let u : StreamUpdate := { turnId := "t:r", kind := .reasoningDelta "0" .reasoning "one" }
    let v : StreamUpdate := { turnId := "t", kind := .reasoningDelta "r:0" .reasoning "two" }
    host.ids.NeverRepeats ∧ u.turnId ≠ v.turnId ∧
      u.kind.reasoningStream? ≠ v.kind.reasoningStream? ∧
      start.target? u = some "item-1" ∧ (start.update u).target? v = some "item-1" ∧
      (start.updateAll [u, v]).sink.items.map (fun item => (item.id, item.text?))
        = [("item-1", some "onetwo")] :=
  ⟨Supply.numbered_neverRepeats "item", by decide, by decide, by decide +kernel,
    by decide +kernel, by decide +kernel⟩

end Delivery

end AgentFeed
