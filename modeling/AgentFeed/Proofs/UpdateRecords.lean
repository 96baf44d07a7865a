import AgentFeed.Proofs.RecordFields
import AgentFeed.Stream.Normalize

/-!
# Reading back what was written: updates and chunks

The fields of all kinds of update share one record with the turn and the tag. What a kind writes is
read back as that kind (`UpdateKind.ofFields?_members`), except that a `null` in an optional field of
any type comes back as no value. A chunk gives no such update, since a part is not asked for a value
that is `null` (`RawChunk.optionalValue?_normalize`).

Together with what a reader looks at (`StreamUpdate.readsOnly_ofJson?`) this makes the record of an
update its name: two updates without such a `null` whose records hold the same members are the same.
A chunk has no optional fields, and is read back from either of its forms.
-/

namespace AgentFeed

/-! ## 1. Kinds of update -/

namespace UpdateKind

/-- The names of the fields that the kind with a tag declares. -/
def fieldNames : String → List String
  | "turn_finish" => ["finish_reason", "usage"]
  | "turn_abort" => ["reason"]
  | "turn_error" => ["error"]
  | "step_start" => ["part"]
  | "step_finish" => ["part"]
  | "assistant_text_start" => ["stream_id"]
  | "assistant_delta" => ["stream_id", "text"]
  | "assistant_text_end" => ["stream_id"]
  | "reasoning_start" => ["stream_id", "mode"]
  | "reasoning_delta" => ["stream_id", "mode", "text"]
  | "reasoning_end" => ["stream_id", "mode"]
  | "tool_input_start" => ["key", "name", "args"]
  | "tool_input_delta" => ["key", "delta"]
  | "tool_input_end" => ["key", "name"]
  | "tool_call" => ["key", "name", "args"]
  | "tool_result" => ["key", "name", "result"]
  | "tool_error" => ["key", "name", "error"]
  | "tool_output_denied" => ["key", "name", "reason"]
  | "tool_approval_request" => ["approval_id", "tool_call"]
  | "source" => ["source"]
  | "file" => ["file"]
  | "raw" => ["raw"]
  | "unknown" => ["part_type", "payload"]
  | _ => []

/-- The value of the optional field of any type, if the kind has one. -/
def optionalValue? : UpdateKind → Option Json
  | .turnFinish _ usage => usage
  | .toolInputStart _ _ args => args
  | .toolCall _ _ args => args
  | _ => none

/-- A kind as it is read back. -/
def dropNull : UpdateKind → UpdateKind
  | .turnFinish reason usage => .turnFinish reason (Json.dropNull usage)
  | .toolInputStart key name args => .toolInputStart key name (Json.dropNull args)
  | .toolCall key name args => .toolCall key name (Json.dropNull args)
  | kind => kind

theorem dropNull_eq_self_iff (kind : UpdateKind) :
    kind.dropNull = kind ↔ kind.optionalValue? ≠ some .null := by
  cases kind with
  | turnFinish | toolInputStart | toolCall =>
    simp [dropNull, optionalValue?, Json.dropNull_eq_self_iff]
  | _ => exact iff_of_true rfl nofun

end UpdateKind

/-- The members of the record of an update. -/
def StreamUpdate.members (u : StreamUpdate) : Table String Json :=
  ("turn_id", .string u.turnId) :: ("type", .string u.kind.tag) :: u.kind.fields

namespace UpdateKind

/-- What an update writes is read back as its kind, but for a `null`. -/
theorem ofFields?_members (turnId : String) (kind : UpdateKind) :
    ofFields? kind.tag (StreamUpdate.members ⟨turnId, kind⟩) = some kind.dropNull := by
  cases kind with
  -- Whether a value of any type survives is seen from the value.
  | turnFinish reason usage =>
    cases reason <;> cases usage with
    | none => rfl
    | some usage => cases usage <;> rfl
  | toolInputStart key name args | toolCall key name args =>
    cases args with
    | none => rfl
    | some args => cases args <;> rfl
  | turnAbort reason | toolOutputDenied _ _ reason => cases reason <;> rfl
  | reasoningStart _ mode | reasoningDelta _ mode _ | reasoningEnd _ mode => cases mode <;> rfl
  | _ => rfl

theorem ofFields?_congr {tag : String} {s t : Table String Json}
    (h : Json.AgreeOn (fieldNames tag) (.object s) (.object t)) :
    ofFields? tag s = ofFields? tag t := by
  unfold ofFields?
  dsimp only
  split <;>
    simp only [Json.AgreeOn, Json.member?, fieldNames, List.forall_mem_cons] at h <;>
    simp only [Table.need?, Table.option?, h]

end UpdateKind

/-! ## 2. Updates -/

namespace StreamUpdate

/-- The fields of an update that matter: its turn, its tag, and what the kind with that tag
declares. -/
def declaredNames (value : Json) : List String :=
  "turn_id" :: "type" ::
    (((value.member? "type").bind (Json.tagName? UpdateKind.tags)).map UpdateKind.fieldNames).getD []

variable (u : StreamUpdate)

theorem ofJson?_object (fields : Table String Json) :
    ofJson? (.object fields)
      = (Table.need? fields "turn_id" Json.string?).bind fun turnId =>
          (Table.need? fields "type" (Json.tagName? UpdateKind.tags)).bind fun tag =>
            (UpdateKind.ofFields? tag fields).bind fun kind => some ⟨turnId, kind⟩ := rfl

theorem ofJson?_toJson : ofJson? u.toJson = some { u with kind := u.kind.dropNull } := by
  have hrecord : u.toJson = .object u.members := rfl
  have hturn : Table.need? u.members "turn_id" Json.string? = some u.turnId := rfl
  have htag : Table.need? u.members "type" (Json.tagName? UpdateKind.tags) = some u.kind.tag := rfl
  rw [hrecord, ofJson?_object, hturn, Option.bind_some, htag, Option.bind_some,
    UpdateKind.ofFields?_members, Option.bind_some]

theorem ofJson?_toJson_eq_some_iff :
    ofJson? u.toJson = some u ↔ u.kind.optionalValue? ≠ some .null := by
  rw [ofJson?_toJson, Option.some.injEq, ← UpdateKind.dropNull_eq_self_iff]
  exact ⟨congrArg StreamUpdate.kind, fun h => congrArg (StreamUpdate.mk u.turnId) h⟩

/-- Objects with the same declared fields are read as the same update, or both as none. -/
theorem readsOnly_ofJson? : Json.ReadsOnly declaredNames ofJson? := by
  intro s t h
  have hturn : t.need? "turn_id" Json.string? = s.need? "turn_id" Json.string? :=
    h.need?_eq (by simp [declaredNames]) _
  have htype : t.need? "type" (Json.tagName? UpdateKind.tags)
      = s.need? "type" (Json.tagName? UpdateKind.tags) :=
    h.need?_eq (by simp [declaredNames]) _
  rw [ofJson?_object, ofJson?_object, hturn, htype]
  cases htag : s.need? "type" (Json.tagName? UpdateKind.tags) with
  | none => rfl
  | some tag =>
    have hnames : UpdateKind.fieldNames tag ⊆ declaredNames (.object s) := by
      intro name hname
      have hmember : ((Json.object s).member? "type").bind (Json.tagName? UpdateKind.tags)
          = some tag := htag
      rw [declaredNames, hmember]
      exact List.mem_cons_of_mem _ (List.mem_cons_of_mem _ hname)
    simp only [Option.bind_some, UpdateKind.ofFields?_congr (h.mono hnames)]

/-- The record of an update without a `null` is the record of no other. -/
theorem eq_of_members_eq {u v : StreamUpdate} (hu : u.kind.optionalValue? ≠ some .null)
    (hv : v.kind.optionalValue? ≠ some .null)
    (hmembers : ∀ name, u.toJson.member? name = v.toJson.member? name) : u = v := by
  have halike : ofJson? v.toJson = ofJson? u.toJson :=
    readsOnly_ofJson? _ _ fun name _ => hmembers name
  rw [(ofJson?_toJson_eq_some_iff u).2 hu, (ofJson?_toJson_eq_some_iff v).2 hv,
    Option.some.injEq] at halike
  exact halike.symm

end StreamUpdate

/-! ## 3. Chunks -/

theorem Part.value?_ne_null (part : Json) (names : List String) :
    value? part names ≠ some .null := by
  intro h
  obtain ⟨_, name, _, -, hname, -⟩ := List.findSome?_eq_some_iff.1 h
  have hnull := (Option.filter_eq_some_iff.1 hname).2
  cases hnull

namespace RawChunk

variable {c : RawChunk}

theorem optionalValue?_kindAs? {t : PartType} {kind : UpdateKind} (h : c.kindAs? t = some kind) :
    kind.optionalValue? ≠ some .null := by
  cases t with
  | finish | toolInputStart | toolCall =>
    cases h
    exact Part.value?_ne_null _ _
  | error | textDelta | reasoningDelta | toolInputDelta | toolResult | toolError
  | toolApprovalRequest | file | raw =>
    obtain ⟨_, -, rfl⟩ := Option.map_eq_some_iff.1 h
    exact nofun
  | source =>
    rw [kindAs?] at h
    split at h
    · cases h
    · cases h
      exact nofun
  | _ =>
    cases h
    exact nofun

/-- No update that a chunk stands for has a `null` in an optional field. -/
theorem optionalValue?_normalize {u : StreamUpdate} (h : c.normalize = some u) :
    u.kind.optionalValue? ≠ some .null := by
  rw [normalize] at h
  split at h
  · cases h
    exact nofun
  next t ht =>
    split at h
    next kind hkind =>
      cases h
      exact optionalValue?_kindAs? hkind
    next =>
      split at h
      · cases h
      · cases h
        exact nofun

variable (c)

/-- A chunk is read back from its record, and from its fields in order. -/
theorem ofJson?_toJson :
    ofJson? c.toJson = some c ∧
      ofJson? (.array [.string c.turnId, Json.ofNat c.index, .string c.partType, c.part])
        = some c := by
  have hfields (fields : Table String Json) (hturn : fields.get? "turnId" = some (.string c.turnId))
      (hindex : fields.get? "index" = some (.ofNat c.index))
      (htype : fields.get? "partType" = some (.string c.partType))
      (hpart : fields.get? "part" = some c.part) : ofFields? fields = some c := by
    simp only [ofFields?, Table.needOr?, Table.need?, hturn, hindex, htype, hpart,
      Option.bind_some, Json.nat?_ofNat]
    rfl
  -- Both forms are the same table of fields.
  have hback := hfields [("turnId", .string c.turnId), ("index", Json.ofNat c.index),
    ("partType", .string c.partType), ("part", c.part)] rfl rfl rfl rfl
  exact ⟨hback, hback⟩

/-- Objects with the same four fields are read as the same chunk, or both as none. -/
theorem readsOnly_ofJson? : Json.ReadsOnly (fun _ => fieldNames) ofJson? := by
  intro s t h
  simp only [Json.AgreeOn, Json.member?, fieldNames, List.forall_mem_cons] at h
  have hfields : ofFields? s = ofFields? t := by
    simp only [ofFields?, Table.needOr?, Table.need?, h]
  exact hfields.symm

end RawChunk

/-! ## 4. The stream -/

/-- **Updates and chunks survive being written.** An update is read back from its record exactly when
no optional field of any type holds a `null`, and the updates that chunks stand for are of this
kind; so the members of the record tell two such updates apart. A chunk is read back from both its
forms. Members that an update or a chunk does not declare never matter to what is read, be it an
update, a chunk or nothing. -/
theorem StreamUpdate.stream_records_read_back :
    (∀ (c : RawChunk) (u : StreamUpdate), c.normalize = some u →
      u.kind.optionalValue? ≠ some .null ∧ ofJson? u.toJson = some u) ∧
    (∀ u : StreamUpdate, ofJson? u.toJson = some u ↔ u.kind.optionalValue? ≠ some .null) ∧
    (∀ u v : StreamUpdate, u.kind.optionalValue? ≠ some .null →
      v.kind.optionalValue? ≠ some .null →
      (∀ name, u.toJson.member? name = v.toJson.member? name) → u = v) ∧
    (∀ c : RawChunk, RawChunk.ofJson? c.toJson = some c ∧
      RawChunk.ofJson? (.array [.string c.turnId, Json.ofNat c.index, .string c.partType, c.part])
        = some c) ∧
    (Json.ReadsOnly declaredNames ofJson? ∧
      Json.ReadsOnly (fun _ => RawChunk.fieldNames) RawChunk.ofJson?) ∧
    ∀ (members : Table String Json) (name : String) (value : Json),
      (name ∉ declaredNames (.object members) →
        ofJson? (.object (members.insert name value)) = ofJson? (.object members)) ∧
      (name ∉ RawChunk.fieldNames →
        RawChunk.ofJson? (.object (members.insert name value))
          = RawChunk.ofJson? (.object members)) := by
  refine ⟨fun c u hu => ?_, ofJson?_toJson_eq_some_iff, fun u v => eq_of_members_eq,
    RawChunk.ofJson?_toJson, ⟨readsOnly_ofJson?, RawChunk.readsOnly_ofJson?⟩,
    fun members name value => ⟨?_, ?_⟩⟩
  · have hfree := RawChunk.optionalValue?_normalize hu
    exact ⟨hfree, (ofJson?_toJson_eq_some_iff u).2 hfree⟩
  · exact fun hname => readsOnly_ofJson?.insert hname value
  · exact fun hname => RawChunk.readsOnly_ofJson?.insert hname value

/-- A call with arguments and the same call without: each is read back, also behind a member that no
call has, and their records differ. -/
theorem StreamUpdate.stream_records_read_back_sample :
    let part : Json := .object [("input", .bool true), ("toolCallId", .string "call")]
    let called : StreamUpdate := ⟨"turn", .toolCall "call" "tool" (some (.bool true))⟩
    let bare : StreamUpdate := ⟨"turn", .toolCall "call" "tool" none⟩
    RawChunk.normalize ⟨"turn", 0, "tool-call", part⟩ = some called ∧
      ofJson? called.toJson = some called ∧
      (¬∀ name, called.toJson.member? name = bare.toJson.member? name) ∧
      "result" ∉ declaredNames bare.toJson ∧
      ofJson? (.object (bare.members.insert "result" .null)) = some bare := by
  intro part called bare
  obtain ⟨hchunk, hback, hsame, -, -, hmore⟩ := stream_records_read_back
  have hknown : RawChunk.knownType? ⟨"turn", 0, "tool-call", part⟩ = some .toolCall := by
    decide +kernel
  have hcalled : RawChunk.normalize ⟨"turn", 0, "tool-call", part⟩ = some called := by
    rw [RawChunk.normalize, hknown]
    rfl
  obtain ⟨hfree, hcalledBack⟩ := hchunk _ _ hcalled
  have hbare : bare.kind.optionalValue? ≠ some .null := nofun
  have hname : "result" ∉ declaredNames bare.toJson := by decide
  refine ⟨hcalled, hcalledBack, fun hmembers => ?_, hname, ?_⟩
  · have hargs : some (Json.bool true) = none :=
      congrArg (·.kind.optionalValue?) (hsame called bare hfree hbare hmembers)
    cases hargs
  · rw [(hmore bare.members "result" .null).1 hname]
    exact (hback bare).2 hbare

end AgentFeed
