import AgentFeed.Proofs.OlderItems
import AgentFeed.Proofs.Twins
import AgentFeed.Transcript.Entry

/-!
# Replay splits at turns

Where a transcript has a payload that resets, its replay falls into two: what comes before that
payload is shown, and behind it is shown what a replay of the rest alone would show. So a turn looks
the same whichever turns went before.

Two things of the first part reach the second. Ids go on where the first part left off, which does
not show (`Delivery.bodies_replayInto`), and so does the list of prompts that were seen, which shows
where a prompt is repeated. The second part is therefore asked not to repeat prompts of the first;
then the two dispatchers agree on all prompts that come (`Dispatcher.AgreesOn`).
-/

namespace AgentFeed

/-! ## 1. Prompts that were seen -/

/-- The client message id of a prompt. -/
def WireMessage.promptId? : WireMessage → Option String
  | .userMessage _ id => id
  | _ => none

/-- The client message ids of the prompts among some payloads. -/
def Traffic.promptIds (payloads : List Json) : List String :=
  payloads.filterMap fun p => (WireMessage.decode p).promptId?

theorem Traffic.mem_promptIds_cons {p : Json} {rest : List Json} {id : String} :
    id ∈ promptIds (p :: rest)
      ↔ (WireMessage.decode p).promptId? = some id ∨ id ∈ promptIds rest := by
  simp only [promptIds, List.mem_filterMap, List.mem_cons, or_and_right, exists_or,
    exists_eq_left]

namespace Dispatcher

variable (d : Dispatcher) (m : WireMessage)

theorem previewLimit_after : (d.after m).previewLimit = d.previewLimit := by
  cases m with
  | userMessage text id =>
    cases id with
    | none => rfl
    | some id =>
      rw [after]
      split <;> rfl
  | _ => rfl

theorem mem_seen_after (id : String) :
    id ∈ (d.after m).seen ↔ id ∈ d.seen ∨ m.promptId? = some id := by
  cases m with
  | userMessage text prompt =>
    cases prompt with
    | none => simp [after, WireMessage.promptId?]
    | some prompt =>
      rw [after, WireMessage.promptId?, Option.some_inj]
      by_cases hseen : d.seen.contains prompt = true
      · rw [if_pos hseen]
        refine ⟨.inl, Or.rec (fun h => h) ?_⟩
        rintro rfl
        exact List.contains_iff_mem.1 hseen
      · rw [if_neg hseen]
        simp only [List.mem_insert_iff, or_comm, eq_comm]
  | _ => simp [after, WireMessage.promptId?]

/-- Two dispatchers that show messages the same way, as long as all prompts that come have an id
among some. -/
structure AgreesOn (ids : List String) (d e : Dispatcher) : Prop where
  /-- Previews have one length. -/
  previewLimit : e.previewLimit = d.previewLimit
  /-- Of the prompts in question the same were seen. -/
  seen : ∀ id ∈ ids, (id ∈ e.seen ↔ id ∈ d.seen)

variable {ids : List String} {d e : Dispatcher} {m}

theorem AgreesOn.action (h : d.AgreesOn ids e) (hm : ∀ id, m.promptId? = some id → id ∈ ids)
    (s : Accumulation) : e.action s m = d.action s m := by
  cases m with
  | modelStreamChunk c => simp only [Dispatcher.action, h.previewLimit]
  | userMessage text id =>
    cases id with
    | none => rfl
    | some id =>
      have hseen : e.hasSeen (some id) = d.hasSeen (some id) :=
        Bool.eq_iff_iff.2 (by simpa [hasSeen] using h.seen id (hm id rfl))
      simp only [Dispatcher.action, hseen]
  | _ => rfl

theorem AgreesOn.after (h : d.AgreesOn ids e) (m : WireMessage) :
    (d.after m).AgreesOn ids (e.after m) where
  previewLimit := by rw [previewLimit_after, previewLimit_after, h.previewLimit]
  seen id hid := by rw [mem_seen_after, mem_seen_after, h.seen id hid]

end Dispatcher

namespace Delivery

variable {σ : Type} [FeedSink σ]

theorem dispatcher_payload (d : Delivery σ) (p : Json) :
    (d.payload p).dispatcher = d.dispatcher.after (WireMessage.decode p) := by
  rw [payload_eq]
  rfl

/-- What was seen after a run was seen before it or came in it. -/
theorem dispatcher_deliverAll (d : Delivery σ) (payloads : List Json) :
    (d.deliverAll payloads).dispatcher.previewLimit = d.dispatcher.previewLimit ∧
      ∀ id, id ∈ (d.deliverAll payloads).dispatcher.seen ↔
        id ∈ d.dispatcher.seen ∨ id ∈ Traffic.promptIds payloads := by
  induction payloads generalizing d with
  | nil => exact ⟨rfl, fun id => by simp [Traffic.promptIds]⟩
  | cons p rest ih =>
    obtain ⟨hlimit, hseen⟩ := ih (d.payload p)
    rw [dispatcher_payload] at hlimit hseen
    refine ⟨hlimit.trans (d.dispatcher.previewLimit_after _), fun id => (hseen id).trans ?_⟩
    rw [Dispatcher.mem_seen_after, or_assoc, Traffic.mem_promptIds_cons]

/-- A run does not notice a change of its dispatcher to one that agrees on the prompts that come. -/
theorem deliverAll_of_agreesOn {ids : List String} (d : Delivery σ) {other : Dispatcher}
    (h : d.dispatcher.AgreesOn ids other) (payloads : List Json)
    (hids : ∀ id ∈ Traffic.promptIds payloads, id ∈ ids) :
    ∃ later, deliverAll { d with dispatcher := other } payloads
      = { d.deliverAll payloads with dispatcher := later } := by
  induction payloads generalizing d other with
  | nil => exact ⟨other, rfl⟩
  | cons p rest ih =>
    have hfirst : ∀ id, (WireMessage.decode p).promptId? = some id → id ∈ ids :=
      fun id hid => hids id (Traffic.mem_promptIds_cons.2 (.inl hid))
    have hrest : ∀ id ∈ Traffic.promptIds rest, id ∈ ids :=
      fun id hid => hids id (Traffic.mem_promptIds_cons.2 (.inr hid))
    have hagrees : (d.payload p).dispatcher.AgreesOn ids (other.after (WireMessage.decode p)) :=
      d.dispatcher_payload p ▸ h.after (WireMessage.decode p)
    have hstep : payload { d with dispatcher := other } p
        = { d.payload p with dispatcher := other.after (WireMessage.decode p) } := by
      rw [payload_eq, payload_eq]
      dsimp only
      rw [h.action hfirst]
      rfl
    obtain ⟨later, hlater⟩ := ih (d.payload p) hagrees hrest
    refine ⟨later, ?_⟩
    calc deliverAll { d with dispatcher := other } (p :: rest)
        = (payload { d with dispatcher := other } p).deliverAll rest := rfl
      _ = { (d.payload p).deliverAll rest with dispatcher := later } := by rw [hstep, hlater]

end Delivery

/-! ## 2. Turns -/

namespace Delivery

/-- From a payload that resets on, a replay goes on as on an empty feed, and what it shows stands
behind what was shown before. -/
theorem replay_append_of_resets (previewLimit : Nat) {host : Host} (hids : host.ids.NeverRepeats)
    (first : List Json) {boundary : Json} (rest : List Json)
    (hreset : Traffic.resets boundary = true) :
    let d := replay previewLimit host first
    replay previewLimit host (first ++ boundary :: rest)
      = (replayInto d.dispatcher Feed.empty d.host rest).onto d.sink := by
  intro d
  have hcoherent : d.Coherent := (coherent_start { previewLimit } hids).deliverAll first
  have hnext := coherent_start d.dispatcher hcoherent.neverRepeats
  calc replay previewLimit host (first ++ boundary :: rest)
      = (d.payload boundary).deliverAll rest := deliverAll_append _ first (boundary :: rest)
    _ = deliverAll { d with state := .empty } rest := by rw [d.payload_of_resets hreset]
    _ = (replayInto d.dispatcher Feed.empty d.host rest).onto d.sink :=
      hnext.deliverAll_onto d.sink rest

/-- A payload that resets does nothing at the beginning of a replay. -/
theorem replay_cons_of_resets (previewLimit : Nat) (host : Host) {boundary : Json}
    (rest : List Json) (hreset : Traffic.resets boundary = true) :
    replay previewLimit host (boundary :: rest) = replay previewLimit host rest := by
  calc replay previewLimit host (boundary :: rest)
      = deliverAll
          (payload { dispatcher := { previewLimit }, state := .empty, sink := Feed.empty, host }
            boundary) rest := rfl
    _ = replay previewLimit host rest := by
      rw [payload_of_resets _ hreset]
      rfl

/-- What a dispatcher has seen does not matter to prompts that are none of those. -/
theorem agreesOn_replay (previewLimit : Nat) (host : Host) {first : List Json} {ids : List String}
    (hnew : ∀ id ∈ ids, id ∉ Traffic.promptIds first) :
    (replay previewLimit host first).dispatcher.AgreesOn ids { previewLimit } := by
  obtain ⟨hlimit, hseen⟩ := dispatcher_deliverAll
    { dispatcher := { previewLimit }, state := .empty, sink := Feed.empty, host } first
  refine ⟨hlimit.symm, fun id hid => ?_⟩
  have hnone : id ∉ (replay previewLimit host first).dispatcher.seen := by
    intro hmem
    rcases (hseen id).1 hmem with hold | hprompt
    · exact List.not_mem_nil hold
    · exact hnew id hid hprompt
  exact ⟨fun h => absurd h List.not_mem_nil, fun h => absurd h hnone⟩

/-- **Replay splits at turns.** Where a payload resets and no prompt from there on repeats the
client message id of a prompt before, the whole transcript replays to the bodies of its first part
and behind them those of the rest. Each of the three replays may draw ids of its own, as long as it
repeats none. -/
theorem replay_splits_at_reset (previewLimit : Nat) (host host₁ host₂ : Host)
    (hids : host.ids.NeverRepeats) (hids₁ : host₁.ids.NeverRepeats)
    (hids₂ : host₂.ids.NeverRepeats) (first : List TranscriptEntry) (boundary : TranscriptEntry)
    (rest : List TranscriptEntry) (hreset : Traffic.resets boundary.payload = true)
    (hprompts : ∀ id ∈ Traffic.promptIds (TranscriptEntry.payloads (boundary :: rest)),
      id ∉ Traffic.promptIds (TranscriptEntry.payloads first)) :
    let bodies (host : Host) (entries : List TranscriptEntry) : List FeedBody :=
      (replay previewLimit host (TranscriptEntry.payloads entries)).sink.items.map (·.body)
    bodies host (first ++ boundary :: rest)
      = bodies host₁ first ++ bodies host₂ (boundary :: rest) := by
  intro bodies
  let before := TranscriptEntry.payloads first
  let after := TranscriptEntry.payloads rest
  let d := replay previewLimit host before
  have hd : d.Coherent := (coherent_start { previewLimit } hids).deliverAll before
  have hpayloads : TranscriptEntry.payloads (first ++ boundary :: rest)
      = before ++ boundary.payload :: after := List.map_append
  have hsplit : bodies host (first ++ boundary :: rest) = d.sink.items.map (·.body)
      ++ (replayInto d.dispatcher Feed.empty d.host after).sink.items.map (·.body) := by
    simp only [bodies]
    rw [hpayloads, replay_append_of_resets previewLimit hids before after hreset, onto,
      Feed.items_onto, List.map_append]
  -- The prompts that were seen before do not come again.
  obtain ⟨later, hlater⟩ := deliverAll_of_agreesOn
    { dispatcher := d.dispatcher, state := .empty, sink := Feed.empty, host := d.host }
    (agreesOn_replay previewLimit host fun id hid =>
      hprompts id (Traffic.mem_promptIds_cons.2 (.inr hid))) after fun _ hid => hid
  have hafter : (replayInto d.dispatcher Feed.empty d.host after).sink
      = (replay previewLimit d.host after).sink := (congrArg (·.sink) hlater).symm
  calc bodies host (first ++ boundary :: rest)
      = d.sink.items.map (·.body)
          ++ (replay previewLimit d.host after).sink.items.map (·.body) := by rw [hsplit, hafter]
    _ = bodies host₁ first ++ (replay previewLimit host₂ after).sink.items.map (·.body) :=
      congrArg₂ (· ++ ·) (bodies_replayInto _ hids₁ hids before)
        (bodies_replayInto _ hids₂ hd.neverRepeats after)
    _ = bodies host₁ first ++ bodies host₂ (boundary :: rest) := by
      rw [← replay_cons_of_resets previewLimit host₂ after hreset]
      rfl

/-- A prompt and the beginning of an answer that was never finished. -/
def sampleFirst : List TranscriptEntry :=
  [⟨"time-1", "thread", .client, WireMessage.userPayload "Hi" "a" none⟩,
    ⟨"time-2", "thread", .server,
      Traffic.chunkPayload "t" "text-delta" [("text", .string "Hel")]⟩]

/-- The start of a turn that goes by the same name, another prompt, and an answer. -/
def sampleSecond : List TranscriptEntry :=
  [⟨"time-3", "thread", .server, Traffic.chunkPayload "t" "start" []⟩,
    ⟨"time-4", "thread", .client, WireMessage.userPayload "Well?" "b" none⟩,
    ⟨"time-5", "thread", .server,
      Traffic.chunkPayload "t" "text-delta" [("text", .string "Hello")]⟩]

/-- In the sample both turns have the name `t`, and the answer of the second is not added to that of
the first. -/
theorem replay_splits_at_reset_sample :
    let host (stem : String) : Host := { ids := .numbered stem, clock := .constant "now" }
    let items (stem : String) (entries : List TranscriptEntry) : List FeedItem :=
      (replay 200 (host stem) (TranscriptEntry.payloads entries)).sink.items
    (∀ stem, (host stem).ids.NeverRepeats) ∧
      Traffic.promptIds (TranscriptEntry.payloads sampleFirst) = ["a"] ∧
      Traffic.promptIds (TranscriptEntry.payloads sampleSecond) = ["b"] ∧
      (items "item" (sampleFirst ++ sampleSecond)).map (·.text?)
        = [some "Hi", some "Hel", some "Well?", some "Hello"] ∧
      (items "item" (sampleFirst ++ sampleSecond)).map (·.body)
        = (items "one" sampleFirst).map (·.body) ++ (items "two" sampleSecond).map (·.body) := by
  intro host items
  have hfirst : Traffic.promptIds (TranscriptEntry.payloads sampleFirst) = ["a"] := by
    decide +kernel
  have hsecond : Traffic.promptIds (TranscriptEntry.payloads sampleSecond) = ["b"] := by
    decide +kernel
  have hprompts : ∀ id ∈ Traffic.promptIds (TranscriptEntry.payloads sampleSecond),
      id ∉ Traffic.promptIds (TranscriptEntry.payloads sampleFirst) := by
    rw [hfirst, hsecond]
    decide
  have hsplit := replay_splits_at_reset 200 (host "item") (host "one") (host "two")
    (Supply.numbered_neverRepeats "item") (Supply.numbered_neverRepeats "one")
    (Supply.numbered_neverRepeats "two") sampleFirst _ _ (by decide +kernel) hprompts
  exact ⟨Supply.numbered_neverRepeats, hfirst, hsecond, by decide +kernel, hsplit⟩

end Delivery

end AgentFeed
