import AgentFeed.Proofs.LiveReplay
import AgentFeed.Proofs.RecordFields

/-!
# Decoding a message

Decoding never fails, so what it says is in the message it gives. The type that a payload declares
is kept, whether the payload is a known message or not (`messageType_decode`). A payload is a known
message exactly when its type is one of eight and it meets every rule of that type
(`isSome_ofFields?`), and nothing but the fields in those rules is looked at (`readsOnly_decode`).

`rules?` is the table of these rules. It is tied to the decoder field by field: reading one more
field adds one more rule to those that must be met (`isSome_required`, `isSome_defaulted`,
`isSome_optional`), so each message is one chain of the three.
-/

namespace AgentFeed

/-! ## 1. Rules for fields -/

/-- What a field holds. -/
inductive FieldType where
  /-- A text. -/
  | text
  /-- A natural number. -/
  | count
  /-- A truth value. -/
  | truth
  /-- A list of values. -/
  | list
  /-- Any value, `null` among them. -/
  | value

/-- Whether a field must be there. -/
inductive Presence where
  /-- The field must be there. -/
  | required
  /-- The field may be missing, and then has a default. -/
  | defaulted
  /-- The field may be missing or `null`, and then has no value. -/
  | optional
deriving DecidableEq

/-- What a message declares of a field. -/
structure FieldRule where
  /-- The name of the field. -/
  name : String
  /-- Whether it must be there. -/
  presence : Presence
  /-- What it holds. -/
  type : FieldType

/-- A value is one of the type. -/
def FieldType.Accepts : FieldType → Json → Prop
  | .text, v => ∃ s, v = .string s
  | .count, v => ∃ n : Nat, v = Json.ofNat n
  | .truth, v => ∃ b, v = .bool b
  | .list, v => ∃ items, v = .array items
  | .value, _ => True

/-- The members of an object meet a rule. -/
def FieldRule.MetBy (r : FieldRule) (fields : Table String Json) : Prop :=
  match fields.get? r.name with
  | none => r.presence ≠ .required
  | some v => r.type.Accepts v ∨ r.presence = .optional ∧ v = .null

namespace FieldType

variable (v : Json)

theorem isSome_string? : v.string?.isSome ↔ text.Accepts v := by
  cases v <;> simp [Json.string?, Accepts]

theorem isSome_bool? : v.bool?.isSome ↔ truth.Accepts v := by
  cases v <;> simp [Json.bool?, Accepts]

theorem isSome_array? : v.array?.isSome ↔ list.Accepts v := by
  cases v <;> simp [Json.array?, Accepts]

theorem isSome_any? : v.any?.isSome ↔ value.Accepts v := by
  simp [Json.any?, Accepts]

theorem isSome_nat? : v.nat?.isSome ↔ count.Accepts v := by
  constructor
  · intro h
    rw [Json.nat?.eq_def] at h
    split at h
    next n =>
      split at h
      next hn => exact ⟨n.toNat, by rw [Json.ofNat, Json.ofInt, Int.toNat_of_nonneg hn]⟩
      next => cases h
    next => cases h
  · rintro ⟨n, rfl⟩
    rw [Json.nat?_ofNat]
    rfl

end FieldType

/-! ## 2. Reading field by field -/

section Reading

variable {α β : Type} {fields : Table String Json} {rules : List FieldRule} {name : String}
  {type : FieldType} {read : Json → Option α}

theorem isSome_bind_iff {x : Option α} {f : α → Option β} {p : Prop}
    (h : ∀ a, (f a).isSome ↔ p) : (x >>= f).isSome ↔ x.isSome ∧ p := by
  cases x with
  | none => simp
  | some a => simpa using h a

/-- With no field left to read, no rule is left to be met. -/
theorem isSome_done (m : β) :
    (pure m : Option β).isSome ↔ ∀ r ∈ ([] : List FieldRule), r.MetBy fields :=
  iff_of_true rfl (List.forall_mem_nil _)

theorem isSome_required {f : α → Option β} (hread : ∀ v, (read v).isSome ↔ type.Accepts v)
    (h : ∀ a, (f a).isSome ↔ ∀ r ∈ rules, r.MetBy fields) :
    (fields.need? name read >>= f).isSome
      ↔ ∀ r ∈ ⟨name, .required, type⟩ :: rules, r.MetBy fields := by
  rw [isSome_bind_iff h, List.forall_mem_cons, Table.need?, FieldRule.MetBy]
  cases fields.get? name with
  | none => simp
  | some v => simp [hread]

theorem isSome_defaulted {f : α → Option β} (default : α)
    (hread : ∀ v, (read v).isSome ↔ type.Accepts v)
    (h : ∀ a, (f a).isSome ↔ ∀ r ∈ rules, r.MetBy fields) :
    (fields.needOr? name default read >>= f).isSome
      ↔ ∀ r ∈ ⟨name, .defaulted, type⟩ :: rules, r.MetBy fields := by
  rw [isSome_bind_iff h, List.forall_mem_cons, Table.needOr?, FieldRule.MetBy]
  cases fields.get? name with
  | none => simp
  | some v => simp [hread]

theorem isSome_optional {f : Option α → Option β} (hread : ∀ v, (read v).isSome ↔ type.Accepts v)
    (h : ∀ a, (f a).isSome ↔ ∀ r ∈ rules, r.MetBy fields) :
    (fields.option? name read >>= f).isSome
      ↔ ∀ r ∈ ⟨name, .optional, type⟩ :: rules, r.MetBy fields := by
  rw [isSome_bind_iff h, List.forall_mem_cons, Table.option?, FieldRule.MetBy]
  cases fields.get? name with
  | none => simp
  | some v => cases v <;> simp [hread]

end Reading

namespace WireMessage

/-! ## 3. Known messages -/

/-- The fields that each known message declares, in order. -/
def rules? : String → Option (List FieldRule)
  | "model_stream_chunk" =>
    some [⟨"turnId", .defaulted, .text⟩, ⟨"index", .defaulted, .count⟩,
      ⟨"partType", .required, .text⟩, ⟨"part", .defaulted, .value⟩]
  | "user_message" => some [⟨"text", .required, .text⟩, ⟨"clientMessageId", .optional, .text⟩]
  | "assistant_message" => some [⟨"text", .required, .text⟩]
  | "reasoning" => some [⟨"kind", .optional, .text⟩, ⟨"text", .required, .text⟩]
  | "todos" => some [⟨"items", .defaulted, .list⟩]
  | "log" => some [⟨"line", .required, .text⟩]
  | "error" =>
    some [⟨"message", .required, .text⟩, ⟨"code", .optional, .value⟩,
      ⟨"source", .optional, .text⟩]
  | "session_busy" => some [⟨"busy", .required, .truth⟩]
  | _ => none

/-- The fields of a payload that matter: its type, and what that type declares. -/
def declaredNames (payload : Json) : List String :=
  "type" :: (((declaredType? payload).bind rules?).getD []).map FieldRule.name

variable {type : String} {fields : Table String Json}

open FieldType in
/-- A message is read when its type is known and every rule of the type is met. -/
theorem isSome_ofFields? :
    (ofFields? type fields).isSome
      ↔ ∃ rules, rules? type = some rules ∧ ∀ r ∈ rules, r.MetBy fields := by
  unfold ofFields? rules?
  split
  case h_9 => simp
  all_goals simp only [Option.some.injEq, exists_eq_left']
  -- The cases stand in the order of the table, and each is the chain of its rules.
  case h_1 =>
    rw [Option.isSome_map]
    exact isSome_defaulted "" isSome_string? fun _ => isSome_defaulted 0 isSome_nat? fun _ =>
      isSome_required isSome_string? fun _ => isSome_defaulted .null isSome_any? fun _ =>
        isSome_done _
  case h_2 =>
    exact isSome_required isSome_string? fun _ => isSome_optional isSome_string? fun _ =>
      isSome_done _
  case h_3 => exact isSome_required isSome_string? fun _ => isSome_done _
  case h_4 =>
    exact isSome_optional isSome_string? fun _ => isSome_required isSome_string? fun _ =>
      isSome_done _
  case h_5 => exact isSome_defaulted [] isSome_array? fun _ => isSome_done _
  case h_6 => exact isSome_required isSome_string? fun _ => isSome_done _
  case h_7 =>
    exact isSome_required isSome_string? fun _ => isSome_optional isSome_any? fun _ =>
      isSome_optional isSome_string? fun _ => isSome_done _
  case h_8 => exact isSome_required isSome_bool? fun _ => isSome_done _

/-- A message that is read is of the type it was read as, and a known one. -/
theorem of_ofFields?_eq_some {m : WireMessage} (h : ofFields? type fields = some m) :
    m.messageType = type ∧ ∀ other, m ≠ .other other := by
  unfold ofFields? at h
  split at h
  case h_9 => cases h
  all_goals
    simp only [Option.map_eq_some_iff, Option.bind_eq_bind, Option.bind_eq_some_iff,
      Option.pure_def, Option.some.injEq] at h
  -- A value for each field that was read, and the message made of them.
  case h_7 =>
    obtain ⟨_, -, _, -, _, -, rfl⟩ := h
    exact ⟨rfl, nofun⟩
  case h_2 | h_4 =>
    obtain ⟨_, -, _, -, rfl⟩ := h
    exact ⟨rfl, nofun⟩
  all_goals
    obtain ⟨_, -, rfl⟩ := h
    exact ⟨rfl, nofun⟩

theorem ofFields?_congr {rules : List FieldRule} (hrules : rules? type = some rules)
    {s t : Table String Json}
    (h : Json.AgreeOn (rules.map FieldRule.name) (.object s) (.object t)) :
    ofFields? type s = ofFields? type t := by
  unfold rules? at hrules
  split at hrules
  case h_9 => cases hrules
  all_goals
    -- The rules of this type name every field that is asked for.
    rw [← Option.some.inj hrules] at h
    simp only [Json.AgreeOn, Json.member?, List.map_cons, List.map_nil,
      List.forall_mem_cons] at h
    simp only [ofFields?, RawChunk.ofFields?, Table.need?, Table.needOr?, Table.option?, h]

/-! ## 4. Decoding an object -/

variable {members : Table String Json}

theorem declaredType?_object :
    declaredType? (.object members) = (members.get? "type").bind Json.string? := rfl

theorem known?_object :
    known? (.object members) = (declaredType? (.object members)).bind (ofFields? · members) := by
  rw [known?, envelope?, declaredType?_object]
  cases (members.get? "type").bind Json.string? <;> rfl

/-- The type of a message is the one its payload declares. -/
theorem messageType_decode :
    (decode (.object members)).messageType
      = (declaredType? (.object members)).getD "unknown" := by
  rw [decode]
  cases hknown : known? (.object members) with
  | none => rfl
  | some m =>
    rw [known?_object] at hknown
    obtain ⟨type, htype, hm⟩ := Option.bind_eq_some_iff.1 hknown
    rw [htype]
    exact (of_ofFields?_eq_some hm).1

/-- A payload is a known message exactly when the type it declares is known and its members meet
the rules of that type. -/
theorem decode_ne_other_iff :
    (∀ other, decode (.object members) ≠ .other other)
      ↔ ∃ type rules, declaredType? (.object members) = some type ∧ rules? type = some rules ∧
          ∀ r ∈ rules, r.MetBy members := by
  -- What cannot be read becomes `other`, and what is read never does.
  have hread : (∀ other, decode (.object members) ≠ .other other)
      ↔ (known? (.object members)).isSome := by
    rw [decode]
    cases hknown : known? (.object members) with
    | none =>
      refine iff_of_false (fun hne => ?_) Bool.false_ne_true
      exact hne ((declaredType? (.object members)).getD "unknown") rfl
    | some m =>
      rw [known?_object] at hknown
      obtain ⟨type, -, hm⟩ := Option.bind_eq_some_iff.1 hknown
      exact iff_of_true (of_ofFields?_eq_some hm).2 rfl
  rw [hread, known?_object]
  cases declaredType? (.object members) with
  | none => simp
  | some type =>
    rw [Option.bind_some, isSome_ofFields?]
    constructor
    · rintro ⟨rules, hrules, hmet⟩
      exact ⟨type, rules, rfl, hrules, hmet⟩
    · rintro ⟨_, rules, heq, hrules, hmet⟩
      cases heq
      exact ⟨rules, hrules, hmet⟩

/-- Objects with the same declared fields are decoded alike. -/
theorem readsOnly_decode : Json.ReadsOnly declaredNames decode := by
  intro s t h
  have htype : declaredType? (.object t) = declaredType? (.object s) := by
    rw [declaredType?, declaredType?, Json.stringMember?, Json.stringMember?,
      h "type" List.mem_cons_self]
  have hknown : known? (.object t) = known? (.object s) := by
    rw [known?_object, known?_object, htype]
    cases hname : declaredType? (.object s) with
    | none => rfl
    | some type =>
      rw [Option.bind_some, Option.bind_some]
      cases hrules : rules? type with
      | none =>
        -- No message has this type, whatever the members are.
        have hnone (fields : Table String Json) : ofFields? type fields = none := by
          rw [← Option.not_isSome_iff_eq_none, isSome_ofFields?]
          simp [hrules]
        rw [hnone, hnone]
      | some rules =>
        refine (ofFields?_congr hrules (h.mono ?_)).symm
        rw [declaredNames, hname, Option.bind_some, hrules]
        exact List.subset_cons_self _ _
  rw [decode, decode, hknown, htype]

theorem sessionId_notMem_declaredNames (payload : Json) :
    "sessionId" ∉ declaredNames payload := by
  rw [declaredNames]
  cases declaredType? payload with
  | none => decide
  | some type =>
    rw [Option.bind_some]
    unfold rules?
    split <;> decide

end WireMessage

/-! ## 5. Prompts -/

namespace ThreadSession

variable (s : ThreadSession) (h : Host) (accepted : Bool) (text : String)
  (clientMessageId : Option String)

theorem payload_send :
    (s.send h accepted text clientMessageId).1.payload
      = WireMessage.userPayload text (clientMessageId.getD h.ids.head) s.sessionId := by
  cases clientMessageId <;> cases accepted <;> rfl

/-- A prompt that is sent changes the session as its payload would. -/
theorem delivery_send :
    let sent := s.send h accepted text clientMessageId
    sent.2.1.delivery sent.2.2
      = (s.delivery ((SessionEvent.send accepted text clientMessageId).drawn h)).message
          (WireMessage.decode sent.1.payload) := by
  intro sent
  -- The prompt is shown from what was typed, not from the payload, but the two agree.
  have hshown : (SessionEvent.send accepted text clientMessageId).shown? s h
      = some (WireMessage.decode sent.1.payload) := by
    rw [payload_send, WireMessage.decode_userPayload]
    rfl
  have hstep := SessionEvent.step_of_shown s h _ hshown
  rw [SessionEvent.step] at hstep
  rw [hstep]
  rfl

theorem payload_of_mem_recorded_send {entry : TranscriptEntry}
    (hmem : entry ∈ (SessionEvent.send accepted text clientMessageId).recorded s h) :
    entry.payload = (s.send h accepted text clientMessageId).1.payload := by
  rw [SessionEvent.recorded] at hmem
  split at hmem
  · rw [List.mem_singleton.1 hmem, payload_send]
  · exact absurd hmem List.not_mem_nil

end ThreadSession

namespace WireMessage

/-- **A payload is decoded by the fields it declares.** Of any object, the decoded message has the
type that the object names, and it is a known message exactly when that type is one of the eight in
`rules?` and every rule of the type is met. Fields other than the type and those in the rules may be
put in, changed or taken out, one by one or many at once, and the message stays the same; the session
that a payload names is such a field.

The payload of a prompt is decoded to the prompt. It is what was shown when the prompt was sent: the
session is left as if the payload had been delivered, and this payload is the one recorded. -/
theorem payload_is_decoded_by_declared_fields :
    (∀ members : Table String Json,
      let p := Json.object members
      (decode p).messageType = (p.stringMember? "type").getD "unknown" ∧
      ((∀ other, decode p ≠ .other other)
        ↔ ∃ type rules, p.stringMember? "type" = some type ∧ rules? type = some rules ∧
            ∀ r ∈ rules, r.MetBy members) ∧
      (∀ name, name ∉ declaredNames p →
        (∀ value, decode (.object (members.insert name value)) = decode p) ∧
        decode (.object (members.erase name)) = decode p) ∧
      "sessionId" ∉ declaredNames p) ∧
    Json.ReadsOnly declaredNames decode ∧
    (∀ text id sessionId,
      decode (userPayload text id sessionId) = .userMessage text (some id)) ∧
    ∀ (s : ThreadSession) (h : Host) (accepted : Bool) (text : String)
      (clientMessageId : Option String),
      let e := SessionEvent.send accepted text clientMessageId
      let sent := s.send h accepted text clientMessageId
      decode sent.1.payload = .userMessage text (some (clientMessageId.getD h.ids.head)) ∧
      sent.2.1.delivery sent.2.2 = (s.delivery (e.drawn h)).message (decode sent.1.payload) ∧
      ∀ entry ∈ e.recorded s h, entry.payload = sent.1.payload := by
  refine ⟨fun members => ⟨messageType_decode, decode_ne_other_iff, ?_, ?_⟩, readsOnly_decode,
    decode_userPayload, ?_⟩
  · intro name hname
    exact ⟨readsOnly_decode.insert hname, readsOnly_decode.erase hname⟩
  · exact sessionId_notMem_declaredNames _
  · intro s h accepted text clientMessageId
    refine ⟨?_, s.delivery_send h accepted text clientMessageId, ?_⟩
    · rw [s.payload_send, decode_userPayload]
    · exact fun entry hmem => s.payload_of_mem_recorded_send h accepted text clientMessageId hmem

/-- A notice in another order and for another session is the same notice. -/
theorem payload_is_decoded_by_declared_fields_sample :
    let notice : Table String Json := [("busy", .bool true), ("type", .string "session_busy")]
    let turned : Table String Json := [("type", .string "session_busy"), ("busy", .bool true)]
    Json.AgreeOn (declaredNames (.object notice)) (.object notice) (.object turned) ∧
      decode (.object turned) = decode (.object notice) ∧
      "sessionId" ∉ declaredNames (.object notice) ∧
      decode (.object (notice.insert "sessionId" (.string "other"))) = .sessionBusy true := by
  intro notice turned
  obtain ⟨hobject, hmany, -, -⟩ := payload_is_decoded_by_declared_fields
  obtain ⟨-, -, hone, hsession⟩ := hobject notice
  have hagree : Json.AgreeOn (declaredNames (.object notice)) (.object notice)
      (.object turned) := by
    have hnames : declaredNames (.object notice) = ["type", "busy"] := rfl
    rw [hnames, Json.AgreeOn, List.forall_mem_cons, List.forall_mem_singleton]
    exact ⟨rfl, rfl⟩
  exact ⟨hagree, hmany notice turned hagree, hsession, (hone "sessionId" hsession).1 _⟩

end WireMessage

end AgentFeed
