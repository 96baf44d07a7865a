import AgentFeed.Proofs.Coherence
import AgentFeed.Proofs.UpdateRecords

/-!
# Reading back what was written: items

The record of an item is read back as the item, but for one thing: a tool call whose arguments or
whose result are `null` is written with that `null` and read back without arguments or result
(`FeedItem.ofJson?_toJson`).

So it matters where a `null` in a tool call can come from. No message replaces or merges arguments
that are `null`, because a chunk is not asked for such a value. That leaves three sources
(`Action.BringsNull`): a result that is `null`, a log line with `null` behind the name of a tool, and
input text that reads `null`. A step puts a `null` into the feed only if it is one of the three
(`Delivery.showsNull_payload`), and a feed starts without, so a run in which none of them occurs
shows only items that survive.
-/

namespace AgentFeed

/-! ## 1. Bodies -/

namespace FeedBody

/-- The names of the fields that the body with a tag declares. -/
def fieldNames : String → List String
  | "message" => ["role", "text"]
  | "reasoning" => ["mode", "text"]
  | "tool" => ["status", "name", "args", "result"]
  | "todos" => ["items"]
  | "log" => ["line"]
  | "error" => ["message", "code", "source"]
  | "system" => ["line"]
  | _ => []

/-- A tool call shows `null`, as its arguments or as its result. -/
def ShowsNull : FeedBody → Prop
  | .tool _ _ args result => args = some .null ∨ result = some .null
  | _ => False

/-- A body as it is read back. -/
def dropNulls : FeedBody → FeedBody
  | .tool status name args result => .tool status name (Json.dropNull args) (Json.dropNull result)
  | body => body

theorem dropNulls_eq_self_iff (body : FeedBody) : body.dropNulls = body ↔ ¬body.ShowsNull := by
  cases body with
  | tool status name args result =>
    simp [dropNulls, ShowsNull, Json.dropNull_eq_self_iff, not_or]
  | _ => exact iff_of_true rfl not_false

theorem ofFields?_congr {tag : String} {s t : Table String Json}
    (h : Json.AgreeOn (fieldNames tag) (.object s) (.object t)) :
    ofFields? tag s = ofFields? tag t := by
  unfold ofFields?
  split <;>
    simp only [Json.AgreeOn, Json.member?, fieldNames, List.forall_mem_cons] at h <;>
    simp only [Table.need?, Table.option?, h]

end FeedBody

/-! ## 2. Items -/

namespace FeedItem

/-- The members of the record of an item. -/
def members (item : FeedItem) : Table String Json :=
  ("id", .string item.id) :: ("ts", .string item.ts) :: ("kind", .string item.body.tag)
    :: item.body.fields

/-- The fields of an item that matter: its id, its time, its tag, and what the body with that tag
declares. -/
def declaredNames (value : Json) : List String :=
  "id" :: "ts" :: "kind" ::
    (((value.member? "kind").bind (Json.tagName? FeedBody.tags)).map FeedBody.fieldNames).getD []

/-- An item as it is read back. -/
def dropNulls (item : FeedItem) : FeedItem :=
  { item with body := item.body.dropNulls }

variable (item : FeedItem)

/-- What an item writes is read back as its body, but for a `null`. -/
theorem ofFields?_members :
    FeedBody.ofFields? item.body.tag item.members = some item.body.dropNulls := by
  obtain ⟨id, ts, body⟩ := item
  cases body with
  | message role text => cases role <;> rfl
  | reasoning mode text => cases mode <;> rfl
  | tool status name args result =>
    -- The two values may be any, so they are looked up before they are read.
    have hstatus : Table.need? (members ⟨id, ts, .tool status name args result⟩) "status"
        ToolStatus.ofJson? = some status := by cases status <;> rfl
    have hargs : Table.get? (members ⟨id, ts, .tool status name args result⟩) "args" = args := by
      cases args <;> cases result <;> rfl
    have hresult : Table.get? (members ⟨id, ts, .tool status name args result⟩) "result"
        = result := by
      cases args <;> cases result <;> rfl
    simp only [FeedBody.tag, FeedBody.ofFields?, hstatus, Table.option?_any, hargs, hresult]
    rfl
  | error text code source => cases code <;> cases source <;> rfl
  | _ => rfl

theorem ofJson?_object (fields : Table String Json) :
    ofJson? (.object fields)
      = (Table.need? fields "id" Json.string?).bind fun id =>
          (Table.need? fields "ts" Json.string?).bind fun ts =>
            (Table.need? fields "kind" (Json.tagName? FeedBody.tags)).bind fun tag =>
              (FeedBody.ofFields? tag fields).bind fun body => some ⟨id, ts, body⟩ := rfl

theorem ofJson?_toJson : ofJson? item.toJson = some item.dropNulls := by
  have hrecord : item.toJson = .object item.members := rfl
  have hid : Table.need? item.members "id" Json.string? = some item.id := rfl
  have hts : Table.need? item.members "ts" Json.string? = some item.ts := rfl
  have htag : Table.need? item.members "kind" (Json.tagName? FeedBody.tags)
      = some item.body.tag := by
    cases item with | mk id ts body => cases body <;> rfl
  rw [hrecord, ofJson?_object, hid, Option.bind_some, hts, Option.bind_some, htag,
    Option.bind_some, ofFields?_members, Option.bind_some, dropNulls]

theorem ofJson?_toJson_eq_some_iff :
    ofJson? item.toJson = some item ↔ ¬item.body.ShowsNull := by
  rw [ofJson?_toJson, Option.some.injEq, ← FeedBody.dropNulls_eq_self_iff]
  exact ⟨congrArg FeedItem.body, fun h => congrArg (FeedItem.mk item.id item.ts) h⟩

theorem not_showsNull_of_not_isTool {item : FeedItem} (h : item.isTool = false) :
    ¬item.body.ShowsNull := by
  obtain ⟨id, ts, body⟩ := item
  cases body with
  | tool status name args result => cases h
  | _ => exact not_false

/-- Objects with the same declared fields are read as the same item, or both as none. -/
theorem readsOnly_ofJson? : Json.ReadsOnly declaredNames ofJson? := by
  intro s t h
  have hid : t.need? "id" Json.string? = s.need? "id" Json.string? :=
    h.need?_eq (by simp [declaredNames]) _
  have hts : t.need? "ts" Json.string? = s.need? "ts" Json.string? :=
    h.need?_eq (by simp [declaredNames]) _
  have hkind : t.need? "kind" (Json.tagName? FeedBody.tags)
      = s.need? "kind" (Json.tagName? FeedBody.tags) :=
    h.need?_eq (by simp [declaredNames]) _
  rw [ofJson?_object, ofJson?_object, hid, hts, hkind]
  cases htag : s.need? "kind" (Json.tagName? FeedBody.tags) with
  | none => rfl
  | some tag =>
    have hnames : FeedBody.fieldNames tag ⊆ declaredNames (.object s) := by
      intro name hname
      have hmember : ((Json.object s).member? "kind").bind (Json.tagName? FeedBody.tags)
          = some tag := htag
      rw [declaredNames, hmember]
      simp [hname]
    simp only [Option.bind_some, FeedBody.ofFields?_congr (h.mono hnames)]

end FeedItem

/-! ## 3. Where a null comes from -/

open ToolArguments in
theorem ToolArguments.structured_eq_null {raw : String} {previous : Option Json}
    (h : structured raw previous = .null) : read? raw.toList = some .null := by
  rw [structured] at h
  split at h
  next value hvalue => rw [hvalue, h]
  next => cases h

theorem ToolArguments.merged_eq_null {previous : Option Json} {incoming : Json}
    (h : merged previous incoming = .null) : incoming = .null := by
  unfold merged at h
  split at h
  · cases h
  · exact h

/-- A change makes the arguments `null`. -/
def ArgsChange.BringsNull : ArgsChange → Prop
  | .keep => False
  | .merge incoming => incoming = .null
  | .replace incoming => incoming = .null
  | .restructure raw => ToolArguments.read? raw.toList = some .null

theorem ArgsChange.of_apply_eq_null {c : ArgsChange} {previous : Option Json}
    (h : c.apply previous = some .null) : previous = some .null ∨ c.BringsNull := by
  cases c with
  | keep => exact .inl h
  | merge incoming => exact .inr (ToolArguments.merged_eq_null (Option.some.inj h))
  | replace incoming => exact .inr (Option.some.inj h)
  | restructure raw => exact .inr (ToolArguments.structured_eq_null (Option.some.inj h))

/-- Arguments that may be absent bring a `null` only if they are one. -/
theorem ArgsChange.eq_null_of_elim {args : Option Json} {change : Json → ArgsChange}
    (hchange : ∀ v, (change v).BringsNull → v = .null)
    (h : (args.elim .keep change).BringsNull) : args = some .null := by
  cases args with
  | none => exact h.elim
  | some v => exact congrArg some (hchange v h)

/-- A patch makes the arguments or the result `null`. -/
def ToolPatch.BringsNull (p : ToolPatch) : Prop :=
  p.args.BringsNull ∨ p.result = some .null

/-- An edit puts a `null` into a tool call. -/
def FeedEdit.BringsNull : FeedEdit → Prop
  | .append body => body.ShowsNull
  | .amend _ (.text _) => False
  | .amend _ (.patch p) => p.BringsNull
  | .amend _ (.finish _ result) => result = some .null

theorem ToolPatch.of_showsNull_newBody {p : ToolPatch} (h : p.newBody.ShowsNull) :
    p.BringsNull := by
  rcases h with hargs | hresult
  · exact .inl ((ArgsChange.of_apply_eq_null hargs).resolve_left nofun)
  · exact .inr hresult

theorem ToolPatch.of_showsNull_apply {p : ToolPatch} {body : FeedBody}
    (h : (p.apply body).ShowsNull) : body.ShowsNull ∨ p.BringsNull := by
  cases body with
  | tool status name args result =>
    rcases h with hargs | hresult
    · exact (ArgsChange.of_apply_eq_null hargs).imp .inl .inl
    · -- A new result stands in front of the old one.
      rcases Option.or_eq_some_iff.1 hresult with hnew | ⟨-, hold⟩
      · exact .inr (.inr hnew)
      · exact .inl (.inr hold)
  | _ => exact .inl h

/-- An amended body shows a `null` that was there before, or that the amendment brings. -/
theorem Amendment.of_showsNull_apply {change : Amendment} {body : FeedBody} {id : String}
    (h : (change.apply body).ShowsNull) :
    body.ShowsNull ∨ (FeedEdit.amend id change).BringsNull := by
  cases change with
  | text full => cases body <;> exact .inl h
  | patch p => exact ToolPatch.of_showsNull_apply h
  | finish status result =>
    cases body with
    | tool oldStatus name args oldResult =>
      rcases h with hargs | hresult
      · exact .inl (.inl hargs)
      · exact .inr hresult
    | _ => exact .inl h

/-! ## 4. What an action brings -/

namespace Action

/-- An action puts a `null` into a tool call: as the result of a call, from a line of a log, or with
input text that reads `null` together with what came before. -/
def BringsNull (s : Accumulation) : Action → Prop
  | .tool _ (.settle _ result) => result = .null
  | .tool key (.input delta) =>
    ToolArguments.read? ((s.toolInputs.get? key).getD "" ++ delta).toList = some .null
  | .tool key (.inputEnd _) =>
    ∃ text, s.toolInputs.get? key = some text ∧ ToolArguments.read? text.toList = some .null
  | .callStart _ payload => payload = some .null
  | .callFinish _ _ payload => payload = some .null
  | _ => False

/-- The patches and the bodies of an action are without a `null`. -/
def IsPlain : Action → Prop
  | .tool _ (.patch p) => ¬p.BringsNull
  | .note body => ¬body.ShowsNull
  | _ => True

end Action

theorem LogLine.action_isPlain (line : String) : (action line).IsPlain := by
  rw [action]
  split
  · trivial
  · split
    · exact not_false
    · split <;> trivial

/-- An update without a `null` in an optional field asks for no patch that brings one. -/
theorem UpdateKind.action_isPlain (limit : Nat) (turnId : String) {kind : UpdateKind}
    (h : kind.optionalValue? ≠ some .null) : (kind.action limit turnId).IsPlain := by
  cases kind with
  | toolInputStart key name args | toolCall key name args =>
    rintro (hargs | hresult)
    · exact h (ArgsChange.eq_null_of_elim (fun _ => id) hargs)
    · cases hresult
  | turnAbort reason => cases reason <;> exact not_false
  | _ => first | trivial | exact not_false

/-- What a message asks for is plain. -/
theorem Dispatcher.action_isPlain (d : Dispatcher) (s : Accumulation) (m : WireMessage) :
    (d.action s m).IsPlain := by
  cases m with
  | modelStreamChunk c =>
    rw [action, RawChunk.action]
    cases hupdate : c.normalize with
    | none => trivial
    | some u =>
      have hplain := UpdateKind.action_isPlain d.previewLimit u.turnId
        (RawChunk.optionalValue?_normalize hupdate)
      obtain ⟨turnId, kind⟩ := u
      cases kind with
      -- Only a value that is passed through may hold a line of a log.
      | raw value =>
        dsimp only
        cases rawLine? value with
        | none => trivial
        | some line => exact LogLine.action_isPlain line
      | _ => exact hplain
  | userMessage | assistantMessage | reasoning =>
    rw [action]
    split
    · trivial
    · exact not_false
  | log line => exact LogLine.action_isPlain line
  | sessionBusy busy => cases busy <;> trivial
  | todos items => exact not_false
  | error message code source => exact not_false
  | other messageType => exact not_false

theorem Reducer.bringsNull_of_patchTool {freshId key : String} {s : Accumulation} {p : ToolPatch}
    {e : FeedEdit} (hedit : (patchTool s freshId key p).edit = some e) (h : e.BringsNull) :
    p.BringsNull := by
  rw [patchTool] at hedit
  split at hedit
  · cases hedit
    exact h
  · cases hedit
    exact ToolPatch.of_showsNull_newBody h

/-- An edit that puts a `null` into a tool call is asked for by one of the three sources. -/
theorem Action.bringsNull_of_edit {a : Action} {freshId : String} {s : Accumulation}
    {e : FeedEdit} (hplain : a.IsPlain) (hedit : (a.step freshId s).edit = some e)
    (h : e.BringsNull) : a.BringsNull s := by
  have hnone : (none : Option Json) ≠ some .null := by simp
  cases a with
  | idle => cases hedit
  | reset => cases hedit
  | note body =>
    cases hedit
    exact absurd h hplain
  -- Streamed text is shown by items that are no calls.
  | assistant turnId delta =>
    simp only [step, Reducer.assistantDelta] at hedit
    split at hedit <;> cases hedit <;> exact h.elim
  | reasoning turnId streamId mode delta =>
    simp only [step, Reducer.reasoningDelta] at hedit
    split at hedit <;> cases hedit <;> exact h.elim
  | callStart name payload =>
    cases hedit
    exact h.resolve_right hnone
  | callFinish status name payload =>
    simp only [step, WholeMessage.toolFinish] at hedit
    split at hedit
    · cases hedit
      exact h
    · cases hedit
      exact h.resolve_left hnone
  | tool key change =>
    cases change with
    | patch p => exact absurd (Reducer.bringsNull_of_patchTool hedit h) hplain
    | input delta => exact (Reducer.bringsNull_of_patchTool hedit h).resolve_right hnone
    | inputEnd name =>
      simp only [step, ToolChange.step, Reducer.toolInputEnd] at hedit
      split at hedit
      next text htext =>
        exact ⟨text, htext, (Reducer.bringsNull_of_patchTool hedit h).resolve_right hnone⟩
      next =>
        -- Without input text, only the name can be news.
        split at hedit
        · exact ((Reducer.bringsNull_of_patchTool hedit h).resolve_right hnone).elim
        · cases hedit
    | settle name result =>
      have hpatch : (ToolPatch.mk (some name) (some .done) .keep (some result)).BringsNull := by
        simp only [step, ToolChange.step, Reducer.settleTool] at hedit
        split at hedit <;> exact Reducer.bringsNull_of_patchTool hedit h
      exact Option.some.inj (hpatch.resolve_left not_false)

/-! ## 5. Runs -/

/-- Some item of the feed shows a `null`. -/
def Feed.ShowsNull (f : Feed) : Prop :=
  ∃ item ∈ f.items, item.body.ShowsNull

theorem Feed.mem_updateFirst {id : String} {change : FeedItem → FeedItem} {items : List FeedItem}
    {item : FeedItem} (h : item ∈ updateFirst id change items) :
    item ∈ items ∨ ∃ old ∈ items, item = change old := by
  induction items with
  | nil => exact .inl h
  | cons first rest ih =>
    rw [updateFirst] at h
    split at h
    · rcases List.mem_cons.1 h with rfl | hrest
      · exact .inr ⟨first, List.mem_cons_self, rfl⟩
      · exact .inl (List.mem_cons_of_mem _ hrest)
    · rcases List.mem_cons.1 h with rfl | hrest
      · exact .inl List.mem_cons_self
      · rcases ih hrest with hmem | ⟨old, hold, heq⟩
        · exact .inl (List.mem_cons_of_mem _ hmem)
        · exact .inr ⟨old, List.mem_cons_of_mem _ hold, heq⟩

namespace Delivery

variable {d : Delivery Feed}

theorem showsNull_take {dispatcher : Dispatcher} {step : Step}
    (h : (d.take (dispatcher, step)).sink.ShowsNull) :
    d.sink.ShowsNull ∨ ∃ e, step.edit = some e ∧ e.BringsNull := by
  obtain ⟨item, hmem, hnull⟩ := h
  -- Either the item was there before, or it is the one that the edit is about.
  rcases hedit : step.edit with _ | (body | ⟨id, change⟩)
  · rw [sink_take_none dispatcher hedit] at hmem
    exact .inl ⟨item, hmem, hnull⟩
  · rw [sink_take_append dispatcher hedit, Feed.items_append, List.mem_append,
      List.mem_singleton] at hmem
    rcases hmem with hold | rfl
    · exact .inl ⟨item, hold, hnull⟩
    · exact .inr ⟨_, rfl, hnull⟩
  · rw [sink_take_amend dispatcher hedit, Feed.items, Feed.update, List.mem_reverse] at hmem
    rcases Feed.mem_updateFirst hmem with hold | ⟨old, hold, rfl⟩
    · exact .inl ⟨item, List.mem_reverse.2 hold, hnull⟩
    · rcases Amendment.of_showsNull_apply hnull with hbefore | hbrings
      · exact .inl ⟨old, List.mem_reverse.2 hold, hbefore⟩
      · exact .inr ⟨_, rfl, hbrings⟩

/-- A payload after which the feed shows a `null` found one there, or brought it. -/
theorem showsNull_payload {p : Json} (h : (d.payload p).sink.ShowsNull) :
    d.sink.ShowsNull ∨
      (d.dispatcher.action d.state (WireMessage.decode p)).BringsNull d.state := by
  rw [payload_eq] at h
  rcases showsNull_take h with hbefore | ⟨e, hedit, hbrings⟩
  · exact .inl hbefore
  · exact .inr (Action.bringsNull_of_edit (d.dispatcher.action_isPlain _ _) hedit hbrings)

/-- A run that ends with a `null` in a feed that began without has a payload that brought one. -/
theorem exists_bringsNull (hnone : ¬d.sink.ShowsNull) (payloads : List Json)
    (h : (d.deliverAll payloads).sink.ShowsNull) :
    ∃ before p after, payloads = before ++ p :: after ∧
      ((d.deliverAll before).dispatcher.action (d.deliverAll before).state
        (WireMessage.decode p)).BringsNull (d.deliverAll before).state := by
  induction payloads using List.reverseRecOn with
  | nil => exact absurd h hnone
  | append_singleton payloads p ih =>
    rw [deliverAll_concat] at h
    rcases showsNull_payload h with hbefore | hbrings
    · obtain ⟨before, q, after, rfl, hq⟩ := ih hbefore
      refine ⟨before, q, after ++ [p], ?_, hq⟩
      rw [List.append_assoc, List.cons_append]
    · exact ⟨payloads, p, [], rfl, hbrings⟩

/-- **Items survive being written, but for nulls.** Take an item that is shown after any payloads were
delivered to an empty feed. From every object with the declared fields of its record, in any order
and among any other members, the item is read back with no arguments or no result where it shows a
`null` as such. So it is read back as itself exactly when it is no tool call that shows a `null`, and
if it is not, this is due to a payload of the run that brought a `null`: as the result of a call, from
a line of a log, or as input text. -/
theorem items_read_back_but_for_nulls (dispatcher : Dispatcher) (host : Host)
    (payloads : List Json) :
    ∀ item ∈ (replayInto dispatcher Feed.empty host payloads).sink.items,
      (∀ members : Table String Json,
        Json.AgreeOn (FeedItem.declaredNames item.toJson) item.toJson (.object members) →
        FeedItem.ofJson? (.object members) = some item.dropNulls) ∧
      (FeedItem.ofJson? item.toJson = some item ↔ ¬item.body.ShowsNull) ∧
      (item.isTool = false → FeedItem.ofJson? item.toJson = some item) ∧
      (FeedItem.ofJson? item.toJson ≠ some item →
        ∃ before p after, payloads = before ++ p :: after ∧
          let now := replayInto dispatcher Feed.empty host before
          (now.dispatcher.action now.state (WireMessage.decode p)).BringsNull now.state) := by
  intro item hitem
  refine ⟨fun members hagree => ?_, item.ofJson?_toJson_eq_some_iff, fun htool => ?_,
    fun hlost => ?_⟩
  · rw [← item.ofJson?_toJson]
    exact FeedItem.readsOnly_ofJson? item.members members hagree
  · exact item.ofJson?_toJson_eq_some_iff.2 (FeedItem.not_showsNull_of_not_isTool htool)
  · have hnull : item.body.ShowsNull := by
      rw [ne_eq, item.ofJson?_toJson_eq_some_iff, not_not] at hlost
      exact hlost
    have hnone : ¬Feed.empty.ShowsNull := by
      rintro ⟨_, hmem, -⟩
      exact absurd hmem List.not_mem_nil
    exact exists_bringsNull (d := { dispatcher, state := .empty, sink := .empty, host }) hnone
      payloads ⟨item, hitem, hnull⟩

/-- A call with arguments whose result is `null`. -/
def sampleNullResult : List Json :=
  [Traffic.chunkPayload "t" "tool-call"
      [("toolCallId", .string "k"), ("toolName", .string "bash"), ("input", .bool true)],
    Traffic.chunkPayload "t" "tool-result" [("toolCallId", .string "k"), ("output", .null)]]

/-- The call of the sample is read back without a result, also when its record was sorted, and it is
its second payload that brought the `null`. -/
theorem items_read_back_but_for_nulls_sample :
    let host : Host := { ids := .numbered "item", clock := .constant "now" }
    let call : FeedItem := ⟨"item-1", "now", .tool .done "bash" (some (.bool true)) (some .null)⟩
    let sorted : Table String Json :=
      [("args", .bool true), ("id", .string "item-1"), ("kind", .string "tool"),
        ("name", .string "bash"), ("result", .null), ("status", .string "done"),
        ("ts", .string "now")]
    call ∈ (replayInto {} Feed.empty host sampleNullResult).sink.items ∧
      Json.AgreeOn (FeedItem.declaredNames call.toJson) call.toJson (.object sorted) ∧
      FeedItem.ofJson? (.object sorted)
        = some ⟨"item-1", "now", .tool .done "bash" (some (.bool true)) none⟩ ∧
      FeedItem.ofJson? call.toJson ≠ some call ∧
      ∃ before p after, sampleNullResult = before ++ p :: after ∧
        let now := replayInto {} Feed.empty host before
        (now.dispatcher.action now.state (WireMessage.decode p)).BringsNull now.state := by
  intro host call sorted
  have hshown : (replayInto {} Feed.empty host sampleNullResult).sink.items = [call] := by
    with_unfolding_all rfl
  have hmem : call ∈ (replayInto {} Feed.empty host sampleNullResult).sink.items :=
    hshown ▸ List.mem_singleton_self call
  obtain ⟨hback, hself, -, hsource⟩ :=
    items_read_back_but_for_nulls {} host sampleNullResult call hmem
  have hagree : Json.AgreeOn (FeedItem.declaredNames call.toJson) call.toJson
      (.object sorted) := by
    have hnames : FeedItem.declaredNames call.toJson
        = ["id", "ts", "kind", "status", "name", "args", "result"] := rfl
    rw [hnames]
    simp only [Json.AgreeOn, List.forall_mem_cons]
    exact ⟨rfl, rfl, rfl, rfl, rfl, rfl, rfl, List.forall_mem_nil _⟩
  have hlost : FeedItem.ofJson? call.toJson ≠ some call :=
    fun hsame => hself.1 hsame (.inr rfl)
  exact ⟨hmem, hagree, hback sorted hagree, hlost, hsource hlost⟩

/-- A call that ended with `null` is read back as one without a result. -/
theorem null_result_is_lost :
    let host : Host := { ids := .numbered "item", clock := .constant "now" }
    let payload := Traffic.chunkPayload "t" "tool-result"
      [("toolCallId", .string "k"), ("toolName", .string "bash"), ("output", .null)]
    ∃ item ∈ (replayInto {} Feed.empty host [payload]).sink.items,
      item.body = .tool .done "bash" none (some .null) ∧
        FeedItem.ofJson? item.toJson = some { item with body := .tool .done "bash" none none } ∧
        FeedItem.ofJson? item.toJson ≠ some item := by
  intro host payload
  have hshown : (replayInto {} Feed.empty host [payload]).sink.items
      = [⟨"item-1", "now", .tool .done "bash" none (some .null)⟩] := by with_unfolding_all rfl
  refine ⟨_, hshown ▸ List.mem_singleton_self _, rfl, FeedItem.ofJson?_toJson _, fun hsame => ?_⟩
  exact (FeedItem.ofJson?_toJson_eq_some_iff _).1 hsame (.inr rfl)

end Delivery

end AgentFeed
