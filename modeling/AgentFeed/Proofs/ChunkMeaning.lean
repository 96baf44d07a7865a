import AgentFeed.Proofs.Coherence

/-!
# What a chunk means

Nine of the known types of chunk require a field: under one of some names the part has to hold a
value of an accepted sort (`PartType.requirement?`). All that can become of a chunk of a known type
follows from that (`RawChunk.carries_kindAs?`): it says something of its type, with the value of the
field it requires, or the field is missing. Nothing else in the part can keep a chunk from being
understood.

So there are three outcomes (`RawChunk.no_chunk_is_lost`). A known type with what it requires is
understood, a type that requires something and comes without any part says nothing, and all else is
carried on as it came, and shown by a remark that names the type.
-/

namespace AgentFeed

/-! ## 1. What a type requires -/

theorem Json.isNull_eq_true_iff {v : Json} : v.isNull = true ↔ v = .null := by
  cases v <;> simp [isNull]

/-- What a type requires of a part: a field with one of some names that holds an accepted value. -/
structure Requirement where
  /-- The names of the field, the one that counts first in front. -/
  names : List String
  /-- Whether a value is accepted. -/
  accepts : Json → Bool

namespace Requirement

/-- A field that is there, whatever it holds. -/
def present (names : List String) : Requirement where
  names := names
  accepts _ := true

/-- A field that holds a text. -/
def text (names : List String) : Requirement where
  names := names
  accepts value := value.string?.isSome

/-- The part holds an accepted value under one of the names. -/
def Met (r : Requirement) (part : Json) : Prop :=
  ∃ name ∈ r.names, ∃ value, part.member? name = some value ∧ r.accepts value = true

/-- The accepted value under the first name that has one. -/
def find? (r : Requirement) (part : Json) : Option Json :=
  r.names.findSome? fun name => (part.member? name).filter r.accepts

theorem find?_eq_none_iff {r : Requirement} {part : Json} : r.find? part = none ↔ ¬r.Met part := by
  rw [find?, List.findSome?_eq_none_iff, Met]
  simp only [Option.filter_eq_none_iff, not_exists, not_and]

/-- Without a part nothing is met. -/
theorem not_met_null (r : Requirement) : ¬r.Met .null := by
  rintro ⟨name, -, value, hvalue, -⟩
  cases hvalue

theorem find?_present (names : List String) (part : Json) :
    (present names).find? part = Part.present? part names := by
  rw [find?, Part.present?]
  refine congrArg (names.findSome? ·) (funext fun name => ?_)
  cases part.member? name <;> rfl

theorem find?_text (names : List String) (part : Json) :
    (text names).find? part = (Part.text? part names).map .string := by
  induction names with
  | nil => rfl
  | cons name rest ih =>
    rw [find?, Part.text?] at ih ⊢
    dsimp only [text] at ih ⊢
    rw [List.findSome?_cons, List.findSome?_cons, Json.stringMember?]
    cases part.member? name with
    | none => exact ih
    | some value =>
      cases value with
      | string s => rfl
      | _ => exact ih

end Requirement

namespace PartType

/-- The field that a type requires. -/
def requirement? : PartType → Option Requirement
  | .error => some (.present ["error"])
  | .textDelta => some (.text ["text", "delta", "textDelta"])
  | .reasoningDelta => some (.text ["text", "delta"])
  | .toolInputDelta => some (.text ["delta", "inputTextDelta"])
  | .toolResult => some (.present ["output", "result"])
  | .toolError => some (.present ["error"])
  | .toolApprovalRequest => some (.present ["toolCall"])
  | .file => some (.present ["file"])
  | .raw => some (.present ["rawValue", "raw"])
  | _ => none

/-- Whether a type needs a part: it requires a field, or the part itself is what it is about. -/
def needsPart (t : PartType) : Bool :=
  t = .source || t.requirement?.isSome

theorem ofName?_eq_some_iff {name : String} {t : PartType} :
    ofName? name = some t ↔ t.name = name := by
  constructor
  · intro h
    rw [ofName?] at h
    have hname := List.find?_some h
    exact eq_of_beq hname
  · rintro rfl
    cases t <;> decide +kernel

theorem ofName?_eq_none_iff {name : String} :
    ofName? name = none ↔ ∀ t : PartType, t.name ≠ name := by
  rw [Option.eq_none_iff_forall_ne_some]
  exact forall_congr' fun t => not_congr ofName?_eq_some_iff

end PartType

namespace UpdateKind

/-- The type of chunk that says something of a kind; none says that it is unknown. -/
def partType? : UpdateKind → Option PartType
  | .turnStart => some .start
  | .turnFinish _ _ => some .finish
  | .turnAbort _ => some .abort
  | .turnError _ => some .error
  | .stepStart _ => some .startStep
  | .stepFinish _ => some .finishStep
  | .textStart _ => some .textStart
  | .textDelta _ _ => some .textDelta
  | .textEnd _ => some .textEnd
  | .reasoningStart _ _ => some .reasoningStart
  | .reasoningDelta _ _ _ => some .reasoningDelta
  | .reasoningEnd _ _ => some .reasoningEnd
  | .toolInputStart _ _ _ => some .toolInputStart
  | .toolInputDelta _ _ => some .toolInputDelta
  | .toolInputEnd _ _ => some .toolInputEnd
  | .toolCall _ _ _ => some .toolCall
  | .toolResult _ _ _ => some .toolResult
  | .toolError _ _ _ => some .toolError
  | .toolOutputDenied _ _ _ => some .toolOutputDenied
  | .toolApprovalRequest _ _ => some .toolApprovalRequest
  | .source _ => some .source
  | .file _ => some .file
  | .raw _ => some .raw
  | .unknown _ _ => none

/-- The value of the field that the type of a kind requires. -/
def required? : UpdateKind → Option Json
  | .turnError value => some value
  | .textDelta _ text => some (.string text)
  | .reasoningDelta _ _ text => some (.string text)
  | .toolInputDelta _ text => some (.string text)
  | .toolResult _ _ value => some value
  | .toolError _ _ value => some value
  | .toolApprovalRequest _ value => some value
  | .file value => some value
  | .raw value => some value
  | _ => none

end UpdateKind

/-! ## 2. A chunk of a known type -/

/-- What can become of a chunk whose type requires a field. -/
inductive Carries (r : Requirement) (t : PartType) (part : Json) : Option UpdateKind → Prop
  /-- The field is missing. -/
  | missing (unmet : r.find? part = none) : Carries r t part none
  /-- The chunk says something of its type, with the value of the field. -/
  | found {kind : UpdateKind} {value : Json} (met : r.find? part = some value)
    (required : kind.required? = some value) (type : kind.partType? = some t) :
    Carries r t part (some kind)

variable {t : PartType} {part : Json} {names : List String}

theorem carries_present {make : Json → UpdateKind} (hvalue : ∀ v, (make v).required? = some v)
    (htype : ∀ v, (make v).partType? = some t) :
    Carries (.present names) t part ((Part.present? part names).map make) := by
  cases hfind : Part.present? part names with
  | none => exact .missing ((Requirement.find?_present names part).trans hfind)
  | some v =>
    exact .found ((Requirement.find?_present names part).trans hfind) (hvalue v) (htype v)

theorem carries_text {make : String → UpdateKind}
    (hvalue : ∀ s, (make s).required? = some (.string s))
    (htype : ∀ s, (make s).partType? = some t) :
    Carries (.text names) t part ((Part.text? part names).map make) := by
  have hfind := Requirement.find?_text names part
  cases htext : Part.text? part names with
  | none =>
    rw [htext] at hfind
    exact .missing hfind
  | some s =>
    rw [htext] at hfind
    exact .found hfind (hvalue s) (htype s)

namespace RawChunk

/-- **A chunk whose type requires a field** carries it or lacks it. -/
theorem carries_kindAs? (c : RawChunk) {t : PartType} {r : Requirement}
    (h : t.requirement? = some r) : Carries r t c.part (c.kindAs? t) := by
  -- The nine types that require a field; of the others nothing is to be shown.
  cases t <;> cases h
  case error => exact carries_present (fun _ => rfl) fun _ => rfl
  case textDelta => exact carries_text (fun _ => rfl) fun _ => rfl
  case reasoningDelta => exact carries_text (fun _ => rfl) fun _ => rfl
  case toolInputDelta => exact carries_text (fun _ => rfl) fun _ => rfl
  case toolResult => exact carries_present (fun _ => rfl) fun _ => rfl
  case toolError => exact carries_present (fun _ => rfl) fun _ => rfl
  case toolApprovalRequest => exact carries_present (fun _ => rfl) fun _ => rfl
  case file => exact carries_present (fun _ => rfl) fun _ => rfl
  case raw => exact carries_present (fun _ => rfl) fun _ => rfl

/-- A chunk whose type requires no field says something of its type, unless it is about a part that
is not there. -/
theorem exists_kindAs? (c : RawChunk) {t : PartType} (h : t.requirement? = none)
    (hsource : t = .source → c.part ≠ .null) :
    ∃ kind, c.kindAs? t = some kind ∧ kind.partType? = some t ∧ kind.required? = none := by
  cases t
  case source =>
    have hpart : ¬c.part.isNull = true := fun h => hsource rfl (Json.isNull_eq_true_iff.1 h)
    exact ⟨.source c.part, if_neg hpart, rfl, rfl⟩
  all_goals first
    | exact ⟨_, rfl, rfl, rfl⟩
    | cases h

/-! ## 3. Outcomes -/

/-- The chunk with its type spelled in another way. -/
def spelled (c : RawChunk) (partType : String) : RawChunk :=
  { c with partType }

variable {c : RawChunk} {t : PartType}

theorem knownType?_eq_some_iff :
    c.knownType? = some t ↔ t.name = PartType.canonicalName c.partType :=
  PartType.ofName?_eq_some_iff

theorem knownType?_eq_none_iff :
    c.knownType? = none ↔ ∀ t : PartType, t.name ≠ PartType.canonicalName c.partType :=
  PartType.ofName?_eq_none_iff

/-- All that can become of a chunk. -/
inductive Outcome (c : RawChunk) : Option StreamUpdate → Prop
  /-- It is understood, and has the value of the field that its type requires. -/
  | understood {t : PartType} {kind : UpdateKind} (known : c.knownType? = some t)
    (type : kind.partType? = some t)
    (required : kind.required? = t.requirement?.bind (·.find? c.part))
    (enough : ∀ r, t.requirement? = some r → r.Met c.part)
    (whole : t = .source → c.part ≠ .null) :
    Outcome c (some ⟨c.turnId, kind⟩)
  /-- It says nothing, as there is no part. -/
  | silent {t : PartType} (known : c.knownType? = some t) (needs : t.needsPart = true)
    (nothing : c.part = .null) : Outcome c none
  /-- Its type is not known. -/
  | unknown (unknown : c.knownType? = none) :
    Outcome c (some ⟨c.turnId, .unknown c.partType c.part⟩)
  /-- It lacks the field that its type requires. -/
  | lacking {t : PartType} {r : Requirement} (known : c.knownType? = some t)
    (requires : t.requirement? = some r) (something : c.part ≠ .null) (unmet : ¬r.Met c.part) :
    Outcome c (some ⟨c.turnId, .unknown c.partType c.part⟩)

/-- A chunk whose type requires a field. -/
theorem outcome_of_requirement (c : RawChunk) {r : Requirement} (hknown : c.knownType? = some t)
    (hrequirement : t.requirement? = some r) : Outcome c c.normalize := by
  have hcarries := c.carries_kindAs? hrequirement
  rw [normalize, hknown]
  dsimp only
  cases hkind : c.kindAs? t with
  | some kind =>
    rw [hkind] at hcarries
    cases hcarries with
    | found met required type =>
      have henough : ∀ r', t.requirement? = some r' → r'.Met c.part := by
        intro r' hr'
        obtain rfl := Option.some.inj (hrequirement.symm.trans hr')
        by_contra hunmet
        cases met.symm.trans (Requirement.find?_eq_none_iff.2 hunmet)
      have hrequired : kind.required? = t.requirement?.bind (·.find? c.part) := by
        rw [required, hrequirement, Option.bind_some, met]
      refine .understood hknown type hrequired henough ?_
      rintro rfl
      cases hrequirement
  | none =>
    rw [hkind] at hcarries
    cases hcarries with
    | missing unmet =>
      by_cases hnull : c.part.isNull = true
      · have hneeds : t.needsPart = true := by
          rw [PartType.needsPart, hrequirement, Option.isSome_some, Bool.or_true]
        rw [if_pos hnull]
        exact .silent hknown hneeds (Json.isNull_eq_true_iff.1 hnull)
      · have hpart : c.part ≠ .null := fun h => hnull (Json.isNull_eq_true_iff.2 h)
        rw [if_neg hnull]
        exact .lacking hknown hrequirement hpart (Requirement.find?_eq_none_iff.1 unmet)

/-- A chunk whose type requires no field. -/
theorem outcome_of_no_requirement (c : RawChunk) (hknown : c.knownType? = some t)
    (hrequirement : t.requirement? = none) : Outcome c c.normalize := by
  rw [normalize, hknown]
  dsimp only
  by_cases hsource : t = .source ∧ c.part = .null
  · obtain ⟨rfl, hpart⟩ := hsource
    rw [kindAs?, hpart]
    exact .silent hknown rfl hpart
  · have hwhole : t = .source → c.part ≠ .null := fun h hpart => hsource ⟨h, hpart⟩
    obtain ⟨kind, hkind, htype, hrequired⟩ := c.exists_kindAs? hrequirement hwhole
    have hnothing : kind.required? = t.requirement?.bind (·.find? c.part) := by
      rw [hrequired, hrequirement, Option.bind_none]
    have henough : ∀ r, t.requirement? = some r → r.Met c.part :=
      fun r hr => nomatch hrequirement.symm.trans hr
    rw [hkind]
    exact .understood hknown htype hnothing henough hwhole

/-- **Normalizing a chunk** has one of four outcomes. -/
theorem outcome_normalize (c : RawChunk) : Outcome c c.normalize := by
  cases hknown : c.knownType? with
  | none =>
    rw [normalize, hknown]
    exact .unknown hknown
  | some t =>
    cases hrequirement : t.requirement? with
    | some r => exact c.outcome_of_requirement hknown hrequirement
    | none => exact c.outcome_of_no_requirement hknown hrequirement

theorem Outcome.of_nothing {result : Option StreamUpdate} (h : Outcome c result)
    (hpart : c.part = .null) (hknown : c.knownType? = some t) (hneeds : t.needsPart = true) :
    result = none := by
  cases h with
  | understood known type required enough whole =>
    obtain rfl := Option.some.inj (hknown.symm.trans known)
    rcases Bool.or_eq_true_iff.1 hneeds with hsource | hrequires
    · exact absurd hpart (whole (of_decide_eq_true hsource))
    · obtain ⟨r, hr⟩ := Option.isSome_iff_exists.1 hrequires
      exact absurd (hpart ▸ enough r hr) r.not_met_null
  | silent known needs nothing => rfl
  | unknown unknown => cases hknown.symm.trans unknown
  | lacking known requires something unmet => exact absurd hpart something

theorem Outcome.of_unknown {result : Option StreamUpdate} (h : Outcome c result)
    (hunknown : c.knownType? = none) :
    result = some ⟨c.turnId, .unknown c.partType c.part⟩ := by
  cases h with
  | understood known type required enough whole => cases hunknown.symm.trans known
  | silent known needs nothing => cases hunknown.symm.trans known
  | unknown unknown => rfl
  | lacking known requires something unmet => rfl

theorem Outcome.of_unmet {result : Option StreamUpdate} (h : Outcome c result)
    (hknown : c.knownType? = some t) {r : Requirement} (hr : t.requirement? = some r)
    (hpart : c.part ≠ .null) (hunmet : ¬r.Met c.part) :
    result = some ⟨c.turnId, .unknown c.partType c.part⟩ := by
  cases h with
  | understood known type required enough whole =>
    obtain rfl := Option.some.inj (hknown.symm.trans known)
    exact absurd (enough r hr) hunmet
  | silent known needs nothing => exact absurd nothing hpart
  | unknown unknown => rfl
  | lacking known requires something unmet => rfl

theorem normalize_eq_none_iff (c : RawChunk) : c.normalize = none ↔
    c.part = .null ∧ ∃ t, c.knownType? = some t ∧ t.needsPart = true := by
  constructor
  · intro h
    have houtcome := c.outcome_normalize
    rw [h] at houtcome
    cases houtcome with
    | silent known needs nothing => exact ⟨nothing, _, known, needs⟩
  · rintro ⟨hpart, t, hknown, hneeds⟩
    exact c.outcome_normalize.of_nothing hpart hknown hneeds

theorem normalize_eq_unknown_iff (c : RawChunk) :
    c.normalize = some ⟨c.turnId, .unknown c.partType c.part⟩ ↔
      c.knownType? = none ∨ ∃ t r, c.knownType? = some t ∧ t.requirement? = some r ∧
        c.part ≠ .null ∧ ¬r.Met c.part := by
  constructor
  · intro h
    have houtcome := c.outcome_normalize
    rw [h] at houtcome
    cases houtcome with
    | understood known type required enough whole => cases type
    | unknown unknown => exact .inl unknown
    | lacking known requires something unmet =>
      exact .inr ⟨_, _, known, requires, something, unmet⟩
  · rintro (hunknown | ⟨t, r, hknown, hr, hpart, hunmet⟩)
    · exact c.outcome_normalize.of_unknown hunknown
    · exact c.outcome_normalize.of_unmet hknown hr hpart hunmet

theorem knownType?_spelled {partType : String}
    (h : PartType.canonicalName partType = PartType.canonicalName c.partType) :
    (c.spelled partType).knownType? = c.knownType? :=
  congrArg PartType.ofName? h

/-- What is understood is understood however its type is spelled. -/
theorem normalize_spelled_of_ne {partType : String}
    (h : PartType.canonicalName partType = PartType.canonicalName c.partType)
    (hne : c.normalize ≠ some ⟨c.turnId, .unknown c.partType c.part⟩) :
    (c.spelled partType).normalize = c.normalize := by
  rw [normalize] at hne
  rw [normalize, normalize, knownType?_spelled h]
  cases hknown : c.knownType? with
  | none =>
    rw [hknown] at hne
    exact absurd rfl hne
  | some t =>
    have hkind : (c.spelled partType).kindAs? t = c.kindAs? t := by cases t <;> rfl
    rw [hknown] at hne
    dsimp only at hne ⊢
    rw [hkind]
    cases hsaid : c.kindAs? t with
    | some kind => rfl
    | none =>
      rw [hsaid] at hne
      by_cases hpart : c.part.isNull = true
      · exact (if_pos hpart).trans (if_pos hpart).symm
      · exact absurd (if_neg hpart) hne

theorem normalize_spelled_of_unknown {partType : String}
    (h : PartType.canonicalName partType = PartType.canonicalName c.partType)
    (hunknown : c.normalize = some ⟨c.turnId, .unknown c.partType c.part⟩) :
    (c.spelled partType).normalize = some ⟨c.turnId, .unknown partType c.part⟩ := by
  refine (normalize_eq_unknown_iff (c.spelled partType)).2 ?_
  rw [knownType?_spelled h]
  exact (normalize_eq_unknown_iff c).1 hunknown

end RawChunk

/-! ## 4. Chunks that are not understood -/

/-- **What is not understood is shown**, and nothing else changes. -/
theorem Delivery.message_of_unknown {σ : Type} [FeedSink σ] (d : Delivery σ) {c : RawChunk}
    {turnId partType : String} {payload : Json}
    (h : c.normalize = some ⟨turnId, .unknown partType payload⟩) :
    d.message (.modelStreamChunk c) = d.noted (.system ("Unhandled stream part (" ++ partType ++
      "): " ++ Reducer.preview d.dispatcher.previewLimit payload)) := by
  have haction : c.action d.dispatcher.previewLimit = .note (.system ("Unhandled stream part (" ++
      partType ++ "): " ++ Reducer.preview d.dispatcher.previewLimit payload)) := by
    rw [RawChunk.action, h]
    rfl
  rw [message_eq, Dispatcher.action, haction, perform_note]
  rfl

namespace RawChunk

/-- **No chunk is lost.** Nothing comes of a chunk just when it has no part and its type needs one.
It is carried on as it came just when its type is not known, or when it has a part that lacks the
field its type requires. Whatever comes of it belongs to its turn, and is either the chunk as it
came or says something of its type, with the value of the field that the type requires. Another
spelling of the type makes a difference only to what carries the spelling on.

A chunk that is carried on as it came leaves what is remembered alone, whatever that is, and is
shown by one remark, in which its type occurs as it was spelled. -/
theorem no_chunk_is_lost :
    (∀ c : RawChunk,
      (c.normalize = none ↔ c.part = .null ∧
        ∃ t : PartType, t.name = PartType.canonicalName c.partType ∧ t.needsPart = true) ∧
      (c.normalize = some ⟨c.turnId, .unknown c.partType c.part⟩ ↔
        (∀ t : PartType, t.name ≠ PartType.canonicalName c.partType) ∨
          ∃ (t : PartType) (r : Requirement), t.name = PartType.canonicalName c.partType ∧
            t.requirement? = some r ∧ c.part ≠ .null ∧ ¬r.Met c.part) ∧
      (∀ u, c.normalize = some u → u.turnId = c.turnId ∧
        (u.kind = .unknown c.partType c.part ∨
          ∃ t : PartType, t.name = PartType.canonicalName c.partType ∧ u.kind.partType? = some t ∧
            u.kind.required? = t.requirement?.bind (·.find? c.part))) ∧
      ∀ partType, PartType.canonicalName partType = PartType.canonicalName c.partType →
        (c.normalize ≠ some ⟨c.turnId, .unknown c.partType c.part⟩ →
          (c.spelled partType).normalize = c.normalize) ∧
        (c.normalize = some ⟨c.turnId, .unknown c.partType c.part⟩ →
          (c.spelled partType).normalize = some ⟨c.turnId, .unknown partType c.part⟩)) ∧
    ∀ (σ : Type) [FeedSink σ] (d : Delivery σ) (c : RawChunk) (turnId partType : String)
      (payload : Json), c.normalize = some ⟨turnId, .unknown partType payload⟩ →
      let after := d.message (.modelStreamChunk c)
      after.state = d.state ∧ after.dispatcher = d.dispatcher ∧
        after.host.announced = d.host.announced ∧
        ∃ item line, after.sink = FeedSink.append d.sink item ∧ item.body = .system line ∧
          c.partType.toList <:+: line.toList := by
  refine ⟨fun c => ⟨?_, ?_, fun u hu => ?_, fun partType h =>
    ⟨normalize_spelled_of_ne h, normalize_spelled_of_unknown h⟩⟩, ?_⟩
  · simp only [normalize_eq_none_iff, knownType?_eq_some_iff]
  · simp only [normalize_eq_unknown_iff, knownType?_eq_some_iff, knownType?_eq_none_iff]
  · have houtcome := c.outcome_normalize
    rw [hu] at houtcome
    cases houtcome with
    | understood known type required enough whole =>
      exact ⟨rfl, .inr ⟨_, knownType?_eq_some_iff.1 known, type, required⟩⟩
    | unknown unknown => exact ⟨rfl, .inl rfl⟩
    | lacking known requires something unmet => exact ⟨rfl, .inl rfl⟩
  · intro σ _ d c turnId partType payload h
    have hpartType : partType = c.partType := by
      have houtcome := c.outcome_normalize
      rw [h] at houtcome
      cases houtcome with
      | understood known type required enough whole => cases type
      | unknown unknown => rfl
      | lacking known requires something unmet => rfl
    subst hpartType
    dsimp only
    rw [d.message_of_unknown h]
    refine ⟨rfl, rfl, rfl, _, _, rfl, rfl, ?_⟩
    rw [String.toList_append, String.toList_append, String.toList_append]
    exact ⟨_, _, (List.append_assoc _ _ _).symm⟩

/-- A piece of text whose text is none. -/
def textlessDelta : RawChunk where
  turnId := "t"
  index := 0
  partType := " text_delta"
  part := .object [("delta", .ofInt 5)]

/-- The same piece with a text. -/
def spelledDelta : RawChunk :=
  { textlessDelta with part := .object [("delta", .string "x")] }

/-- A number is no text, so the piece is carried on as it came and shown by a remark. With a text it
is understood, and no matter how its type is spelled. -/
theorem no_chunk_is_lost_sample :
    let d : Delivery Feed := ⟨{}, .empty, .empty, ⟨.numbered "item", .constant "now", []⟩⟩
    textlessDelta.normalize = some ⟨"t", .unknown " text_delta" textlessDelta.part⟩ ∧
      PartType.canonicalName "text-delta" = PartType.canonicalName " text_delta" ∧
      (textlessDelta.spelled "text-delta").normalize
        = some ⟨"t", .unknown "text-delta" textlessDelta.part⟩ ∧
      ((d.message (.modelStreamChunk textlessDelta)).sink.items.map (·.render)
        = ["[system] Unhandled stream part ( text_delta): \x7b\"delta\":5\x7d"]) ∧
      (∃ item,
        (d.message (.modelStreamChunk textlessDelta)).sink = FeedSink.append d.sink item) ∧
      spelledDelta.normalize = some ⟨"t", .textDelta "0" "x"⟩ ∧
      (spelledDelta.spelled "text-delta").normalize = some ⟨"t", .textDelta "0" "x"⟩ := by
  intro d
  obtain ⟨hchunks, hshown⟩ := no_chunk_is_lost
  obtain ⟨-, hunknown, -, hspelled⟩ := hchunks textlessDelta
  have hunmet : ¬(Requirement.text ["text", "delta", "textDelta"]).Met textlessDelta.part :=
    Requirement.find?_eq_none_iff.1 (Option.isNone_iff_eq_none.1 (by decide +kernel))
  have hnormalize := hunknown.2
    (.inr ⟨.textDelta, _, by decide +kernel, rfl, Json.noConfusion, hunmet⟩)
  have hname : PartType.canonicalName "text-delta" = PartType.canonicalName " text_delta" := by
    decide +kernel
  obtain ⟨-, -, -, item, -, hitem, -⟩ := hshown Feed d textlessDelta _ _ _ hnormalize
  -- The other piece is not carried on as it came, so another spelling of its type is no matter.
  obtain ⟨-, -, -, halike⟩ := hchunks spelledDelta
  have hunderstood : spelledDelta.normalize = some ⟨"t", .textDelta "0" "x"⟩ := by
    with_unfolding_all rfl
  have hcontent : spelledDelta.normalize
      ≠ some ⟨spelledDelta.turnId, .unknown spelledDelta.partType spelledDelta.part⟩ := by
    rw [hunderstood]
    simp
  exact ⟨hnormalize, hname, (hspelled "text-delta" hname).2 hnormalize, by decide +kernel,
    ⟨item, hitem⟩, hunderstood, ((halike "text-delta" hname).1 hcontent).trans hunderstood⟩

end RawChunk

end AgentFeed
