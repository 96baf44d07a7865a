import AgentFeed.Proofs.ToolCall

/-!
# The history of a tool call

Between two resets the item of a tool call is made by the updates of that call alone. An update that
says that the input is complete says nothing about a call nobody has heard of, so the history of a
call begins with its first other update: `Traffic.visibleUpdates`.

A stretch does two things to a call. Before the first news it shows nothing for it (`Untracked`);
from there on the item of the call is the progress of the updates, at the place where it began
(`Tracks`). One payload keeps either, or leads from the first to the second, and
`Coherent.tool_deliverAll` follows a stretch through both.
-/

namespace AgentFeed

/-! ## 1. What payloads say about a call -/

theorem UpdateKind.toolKey?_eq (u : UpdateKind) : u.toolKey? = u.toolChange?.map Prod.fst := by
  cases u <;> rfl

namespace Traffic

/-- What a payload says about a tool call. -/
def toolUpdate? (key : String) (payload : Json) : Option UpdateKind :=
  (WireMessage.decode payload).update?.bind fun u =>
    if u.kind.toolKey? = some key then some u.kind else none

/-- Whether a payload says something about a tool call. -/
def isToolUpdate (key : String) (payload : Json) : Bool :=
  (toolUpdate? key payload).isSome

/-- Whether a payload says something about a tool call that is news even if it has not begun. -/
def isToolNews (key : String) (payload : Json) : Bool :=
  (toolUpdate? key payload).any (!·.isToolInputEnd)

/-- All that payloads say about a tool call. -/
def toolUpdates (key : String) (payloads : List Json) : List UpdateKind :=
  payloads.filterMap (toolUpdate? key)

/-- All that payloads say about a tool call from the first news on. -/
def visibleUpdates (key : String) (payloads : List Json) : List UpdateKind :=
  (toolUpdates key payloads).dropWhile UpdateKind.isToolInputEnd

theorem toolUpdate?_eq_some_iff {key : String} {p : Json} {u : UpdateKind} :
    toolUpdate? key p = some u ↔
      ∃ change, u.toolChange? = some (key, change) ∧
        ∃ turnId, (WireMessage.decode p).update? = some { turnId, kind := u } := by
  have hkey : ∀ k : UpdateKind, k.toolKey? = some key ↔ ∃ c, k.toolChange? = some (key, c) := by
    intro k
    rw [k.toolKey?_eq, Option.map_eq_some_iff]
    constructor
    · rintro ⟨⟨other, change⟩, h, rfl⟩
      exact ⟨change, h⟩
    · rintro ⟨change, h⟩
      exact ⟨_, h, rfl⟩
  rw [toolUpdate?]
  cases hupdate : (WireMessage.decode p).update? with
  | none => simp
  | some carried =>
    obtain ⟨turnId, kind⟩ := carried
    simp only [Option.bind_some, Option.ite_none_right_eq_some, hkey, Option.some.injEq,
      StreamUpdate.mk.injEq]
    constructor
    · rintro ⟨hchange, rfl⟩
      exact ⟨_, hchange.choose_spec, turnId, rfl, rfl⟩
    · rintro ⟨change, hchange, turn, -, rfl⟩
      exact ⟨⟨change, hchange⟩, rfl⟩

theorem eq_toolInputEnd {key : String} {p : Json} {u : UpdateKind}
    (h : toolUpdate? key p = some u) (hend : u.isToolInputEnd = true) :
    ∃ name, u = .toolInputEnd key name := by
  obtain ⟨change, hchange, -⟩ := toolUpdate?_eq_some_iff.1 h
  cases u with
  | toolInputEnd k name =>
    obtain ⟨rfl, -⟩ := Prod.mk.inj (Option.some.inj hchange)
    exact ⟨name, rfl⟩
  | _ => cases hend

end Traffic

namespace Dispatcher

variable (d : Dispatcher) (s : Accumulation) {key : String} {p : Json}

theorem action_of_toolUpdate {u : UpdateKind} (h : Traffic.toolUpdate? key p = some u) :
    ∃ change, u.toolChange? = some (key, change) ∧
      d.action s (WireMessage.decode p) = .tool key change := by
  obtain ⟨change, hchange, turnId, hupdate⟩ := Traffic.toolUpdate?_eq_some_iff.1 h
  refine ⟨change, hchange, ?_⟩
  have haction := d.toolChange?_action s (WireMessage.decode p)
  rw [WireMessage.toolChange?, hupdate, Option.bind_some, hchange] at haction
  exact Action.eq_tool_of_toolChange? haction

theorem owner?_of_no_toolUpdate (h : Traffic.toolUpdate? key p = none) :
    (d.action s (WireMessage.decode p)).owner? ≠ some (.tool key) := by
  intro howner
  obtain ⟨change, hchange⟩ := Action.toolChange?_of_owner? howner
  rw [d.toolChange?_action s (WireMessage.decode p), WireMessage.toolChange?,
    Option.bind_eq_some_iff] at hchange
  obtain ⟨⟨turnId, kind⟩, hupdate, hkind⟩ := hchange
  have hsome := Traffic.toolUpdate?_eq_some_iff.2 ⟨change, hkind, turnId, hupdate⟩
  rw [h] at hsome
  cases hsome

end Dispatcher

/-! ## 2. One payload -/

namespace Delivery

/-- A call of which nothing is known. -/
structure Untracked (d : Delivery Feed) (key : String) : Prop where
  /-- It has no item. -/
  item : d.state.toolItems.get? key = none
  /-- It has no input text. -/
  input : d.state.toolInputs.get? key = none

/-- The item of a call is at a place, and the call is what a list of updates makes of it. -/
structure Tracks (d : Delivery Feed) (key : String) (n : Nat) (updates : List UpdateKind) :
    Prop where
  /-- The item shows the progress of the call. -/
  shows : d.Shows (.tool key) n (ToolProgress.of updates).body
  /-- The input text is that of the progress. -/
  input : d.state.toolInputs.get? key = (ToolProgress.of updates).input

variable {d : Delivery Feed} {key : String} {n : Nat} {updates : List UpdateKind} {p : Json}

theorem tracks_iff :
    d.Tracks key n updates ↔ ∃ id, d.Follows key id n (ToolProgress.of updates) := by
  constructor
  · intro h
    obtain ⟨item, -, -, hheld⟩ := h.shows
    have hmem : item.id ∈ d.state.held (.tool key) := hheld ▸ List.mem_singleton_self _
    exact ⟨item.id, Accumulation.mem_held_tool.1 hmem, h.shows, h.input⟩
  · rintro ⟨id, h⟩
    exact ⟨h.shows, h.input⟩

namespace Coherent

theorem tracks_payload_of_other (h : d.Coherent) (htracks : d.Tracks key n updates)
    (hreset : Traffic.resets p = false) (hother : Traffic.toolUpdate? key p = none) :
    (d.payload p).Tracks key n updates := by
  obtain ⟨id, hfollows⟩ := tracks_iff.1 htracks
  rw [payload_eq]
  refine tracks_iff.2 ⟨id, h.follows_perform_of_ne hfollows _ ?_ ?_⟩
  · exact (d.dispatcher.isReset_action d.state (WireMessage.decode p)).trans hreset
  · exact d.dispatcher.owner?_of_no_toolUpdate d.state hother

theorem tracks_payload_of_update (h : d.Coherent) (htracks : d.Tracks key n updates)
    {u : UpdateKind} (hupdate : Traffic.toolUpdate? key p = some u) :
    (d.payload p).Tracks key n (updates ++ [u]) ∧ (d.payload p).sink.size = d.sink.size := by
  obtain ⟨change, hchange, haction⟩ := d.dispatcher.action_of_toolUpdate d.state hupdate
  obtain ⟨id, hfollows⟩ := tracks_iff.1 htracks
  obtain ⟨hnext, hsize⟩ := h.follows_perform_tool hfollows
    (d.dispatcher.after (WireMessage.decode p)) hchange
  rw [payload_eq, haction, tracks_iff, ToolProgress.of_concat]
  exact ⟨⟨id, hnext⟩, hsize⟩

end Coherent

theorem Untracked.payload_of_other (hun : d.Untracked key) (hreset : Traffic.resets p = false)
    (hother : Traffic.toolUpdate? key p = none) : (d.payload p).Untracked key := by
  have hisReset := (d.dispatcher.isReset_action d.state (WireMessage.decode p)).trans hreset
  have howner := d.dispatcher.owner?_of_no_toolUpdate d.state hother
  obtain ⟨hitem, hinput⟩ := Action.tool_frame d.host.ids.head d.state _ hisReset howner
  rw [payload_eq]
  exact ⟨hitem.trans hun.item, hinput.trans hun.input⟩

/-- That the input is complete is no news of a call of which nothing is known. -/
theorem Untracked.payload_of_end (hun : d.Untracked key) {name : String}
    (hupdate : Traffic.toolUpdate? key p = some (.toolInputEnd key name)) :
    (d.payload p).Untracked key ∧ (d.payload p).sink.size = d.sink.size := by
  obtain ⟨change, hchange, haction⟩ := d.dispatcher.action_of_toolUpdate d.state hupdate
  obtain ⟨-, rfl⟩ := Prod.mk.inj (Option.some.inj hchange)
  rw [payload_eq, haction, perform, Action.step,
    ToolChange.step_unknown_end hun.item hun.input]
  exact ⟨⟨hun.item, hun.input⟩, rfl⟩

/-- With the first news of a call its item is appended. -/
theorem Untracked.payload_of_news (hun : d.Untracked key) {u : UpdateKind}
    (hupdate : Traffic.toolUpdate? key p = some u) (hnews : u.isToolInputEnd = false) :
    (d.payload p).Tracks key d.sink.size [u] ∧ (d.payload p).sink.size = d.sink.size + 1 := by
  obtain ⟨change, hchange, haction⟩ := d.dispatcher.action_of_toolUpdate d.state hupdate
  have hend : ∀ name, change ≠ .inputEnd name := by
    rintro name rfl
    cases u with
    | toolInputEnd _ _ => cases hnews
    | _ => cases hchange
  obtain ⟨hnext, hsize⟩ := follows_perform_of_news hun.item hun.input
    (d.dispatcher.after (WireMessage.decode p)) hchange hend
  rw [payload_eq, haction, tracks_iff]
  exact ⟨⟨_, hnext⟩, hsize⟩

/-! ## 3. A stretch -/

namespace Coherent

/-- A call that has begun follows its updates, and no item is appended for it. -/
theorem tracks_deliverAll (h : d.Coherent) (htracks : d.Tracks key n updates)
    {payloads : List Json} (hresets : ∀ p ∈ payloads, Traffic.resets p = false) :
    (d.deliverAll payloads).Tracks key n (updates ++ Traffic.toolUpdates key payloads) ∧
      createdPlaces (Traffic.isToolUpdate key) d payloads = [] := by
  induction payloads generalizing d updates with
  | nil =>
    rw [Traffic.toolUpdates, List.filterMap_nil, List.append_nil]
    exact ⟨htracks, rfl⟩
  | cons p rest ih =>
    obtain ⟨hreset, hrest⟩ := List.forall_mem_cons.1 hresets
    cases hupdate : Traffic.toolUpdate? key p with
    | none =>
      have hnext := h.tracks_payload_of_other htracks hreset hupdate
      rw [createdPlaces_cons_of_other (by rw [Traffic.isToolUpdate, hupdate]; rfl),
        Traffic.toolUpdates, List.filterMap_cons_none hupdate]
      exact ih (h.payload p) hnext hrest
    | some u =>
      obtain ⟨hnext, hsize⟩ := h.tracks_payload_of_update htracks hupdate
      rw [createdPlaces_cons_of_same hsize, Traffic.toolUpdates,
        List.filterMap_cons_some hupdate, List.append_cons]
      exact ih (h.payload p) hnext hrest

/-- **A stretch and a call.** Before the first news nothing is shown for the call; with it the one
item of the call is appended, which follows the updates from then on. -/
theorem tool_deliverAll (h : d.Coherent) (hun : d.Untracked key)
    {payloads : List Json} (hresets : ∀ p ∈ payloads, Traffic.resets p = false) :
    createdPlaces (Traffic.isToolUpdate key) d payloads
        = (firstPlace? (Traffic.isToolNews key) d payloads).toList ∧
      (firstPlace? (Traffic.isToolNews key) d payloads = none →
        (d.deliverAll payloads).Untracked key) ∧
      ∀ n, firstPlace? (Traffic.isToolNews key) d payloads = some n →
        (d.deliverAll payloads).Tracks key n (Traffic.visibleUpdates key payloads) := by
  induction payloads generalizing d with
  | nil => exact ⟨rfl, fun _ => hun, fun n hn => absurd hn (Option.some_ne_none n).symm⟩
  | cons p rest ih =>
    obtain ⟨hreset, hrest⟩ := List.forall_mem_cons.1 hresets
    -- As long as there is no news the stretch might as well begin with the next payload.
    have hskip : Traffic.isToolNews key p = false →
        firstPlace? (Traffic.isToolNews key) d (p :: rest)
          = firstPlace? (Traffic.isToolNews key) (d.payload p) rest := by
      intro hnews
      rw [firstPlace?, hnews]
      exact if_neg Bool.false_ne_true
    cases hupdate : Traffic.toolUpdate? key p with
    | none =>
      have hvisible : Traffic.visibleUpdates key (p :: rest) = Traffic.visibleUpdates key rest := by
        rw [Traffic.visibleUpdates, Traffic.toolUpdates, List.filterMap_cons_none hupdate]
        rfl
      rw [createdPlaces_cons_of_other (by rw [Traffic.isToolUpdate, hupdate]; rfl),
        hskip (by rw [Traffic.isToolNews, hupdate]; rfl), hvisible]
      exact ih (h.payload p) (hun.payload_of_other hreset hupdate) hrest
    | some u =>
      cases hend : u.isToolInputEnd with
      | true =>
        -- About the call, but no news: it stays unknown, and the update is not a visible one.
        have hvisible : Traffic.visibleUpdates key (p :: rest)
            = Traffic.visibleUpdates key rest := by
          rw [Traffic.visibleUpdates, Traffic.toolUpdates, List.filterMap_cons_some hupdate,
            List.dropWhile_cons_of_pos hend]
          rfl
        obtain ⟨name, rfl⟩ := Traffic.eq_toolInputEnd hupdate hend
        obtain ⟨hnext, hsize⟩ := hun.payload_of_end hupdate
        rw [createdPlaces_cons_of_same hsize,
          hskip (by rw [Traffic.isToolNews, hupdate]; rfl), hvisible]
        exact ih (h.payload p) hnext hrest
      | false =>
        -- The first news: from here on the call follows its updates.
        obtain ⟨hnext, hsize⟩ := hun.payload_of_news hupdate hend
        obtain ⟨htracks, hplaces⟩ := (h.payload p).tracks_deliverAll hnext hrest
        have hfirst : firstPlace? (Traffic.isToolNews key) d (p :: rest) = some d.sink.size := by
          rw [firstPlace?, Traffic.isToolNews, hupdate, Option.any_some, hend]
          rfl
        have hvisible : Traffic.visibleUpdates key (p :: rest)
            = [u] ++ Traffic.toolUpdates key rest := by
          rw [Traffic.visibleUpdates, Traffic.toolUpdates, List.filterMap_cons_some hupdate,
            List.dropWhile_cons_of_neg (by rw [hend]; exact Bool.false_ne_true)]
          rfl
        rw [createdPlaces_cons_of_grown (by rw [Traffic.isToolUpdate, hupdate]; rfl) hsize, hplaces,
          hfirst, hvisible]
        refine ⟨rfl, fun hn => absurd hn (Option.some_ne_none _), fun n hn => ?_⟩
        rw [← Option.some.inj hn]
        exact htracks

end Coherent

/-! ## 4. Every run -/

/-- A stretch shows news of a call exactly when updates of the call are visible in it. -/
theorem firstPlace?_isToolNews_eq_none_iff (d : Delivery Feed) (key : String)
    (payloads : List Json) :
    firstPlace? (Traffic.isToolNews key) d payloads = none ↔
      Traffic.visibleUpdates key payloads = [] := by
  rw [firstPlace?_eq_none_iff, Traffic.visibleUpdates, List.dropWhile_eq_nil_iff,
    Traffic.toolUpdates]
  constructor
  · intro h u hu
    obtain ⟨p, hp, hupdate⟩ := List.mem_filterMap.1 hu
    have hnews := h p hp
    rw [Traffic.isToolNews, hupdate, Option.any_some, Bool.not_eq_false'] at hnews
    exact hnews
  · intro h p hp
    rw [Traffic.isToolNews]
    cases hupdate : Traffic.toolUpdate? key p with
    | none => rfl
    | some u => rw [Option.any_some, h u (List.mem_filterMap.2 ⟨p, hp, hupdate⟩), Bool.not_true]

/-- **A tool call is what its own updates make of it.** Look at the payloads since the last reset.
If none of them is news of a call, no item was appended for it and none is remembered. Otherwise one
was, where the feed ended when the first news came, and its body is a function of the visible
updates of the call: the last status, name proper and result that one of them carries, and the
arguments of their progress. -/
theorem replayed_tool_item_follows_its_updates (dispatcher : Dispatcher) (host : Host)
    (hids : host.ids.NeverRepeats) (key : String) (payloads : List Json) :
    let before := replayInto dispatcher Feed.empty host (Traffic.upToReset payloads)
    let after := replayInto dispatcher Feed.empty host payloads
    let stretch := Traffic.stretch payloads
    let updates := Traffic.visibleUpdates key stretch
    let place := before.firstPlace? (Traffic.isToolNews key) stretch
    before.createdPlaces (Traffic.isToolUpdate key) stretch = place.toList ∧
      (place = none ↔ updates = []) ∧
      (place = none → after.state.held (.tool key) = []) ∧
      ∀ n, place = some n → ∃ item,
        after.sink.items[n]? = some item ∧ after.state.held (.tool key) = [item.id] ∧
          item.body = .tool
            (((updates.filterMap UpdateKind.toolStatus?).getLast?).getD .running)
            (((updates.filterMap UpdateKind.properToolName?).getLast?).getD Part.unnamedTool)
            (ToolProgress.of updates).args
            (updates.filterMap UpdateKind.toolResult?).getLast? := by
  intro before after stretch updates place
  have hcoherent : before.Coherent :=
    (coherent_start dispatcher hids).deliverAll (Traffic.upToReset payloads)
  have hempty : before.state = .empty := state_upToReset rfl payloads
  have hun : before.Untracked key := by
    constructor
    · rw [hempty]
      rfl
    · rw [hempty]
      rfl
  have hafter : after = before.deliverAll stretch := by
    calc after = replayInto dispatcher Feed.empty host
          (Traffic.upToReset payloads ++ stretch) := by rw [Traffic.upToReset_append_stretch]
      _ = before.deliverAll stretch := deliverAll_append _ _ _
  obtain ⟨hplaces, hnone, hsome⟩ := hcoherent.tool_deliverAll hun
    fun p hp => Traffic.not_resets_of_mem_stretch hp
  refine ⟨hplaces, before.firstPlace?_isToolNews_eq_none_iff key stretch, ?_, ?_⟩
  · intro hplace
    rw [hafter]
    exact congrArg Option.toList (hnone hplace).item
  · intro n hplace
    obtain ⟨item, hitem, hbody, hheld⟩ := (hsome n hplace).shows
    rw [hafter]
    refine ⟨item, hitem, hheld, ?_⟩
    rw [hbody, ToolProgress.body, ToolProgress.status_of, ToolProgress.name_of,
      ToolProgress.result_of]

/-- A turn in which a call begins, gets its name and its input, and ends, while another call and
some text come in between. -/
def interleavedTurn : List Json :=
  [Traffic.chunkPayload "t" "start" [],
    Traffic.chunkPayload "t" "tool-input-end" [("toolCallId", .string "k")],
    Traffic.chunkPayload "t" "text-delta" [("text", .string "Hello")],
    Traffic.chunkPayload "t" "tool-input-delta"
      [("toolCallId", .string "k"), ("delta", .string "1")],
    Traffic.chunkPayload "t" "tool-call"
      [("toolCallId", .string "other"), ("toolName", .string "sed")],
    Traffic.chunkPayload "t" "tool-input-end"
      [("toolCallId", .string "k"), ("toolName", .string "grep")],
    Traffic.chunkPayload "t" "tool-result"
      [("toolCallId", .string "k"), ("output", .bool true)]]

/-- In the interleaved turn the call is shown behind the text, done and with its name. -/
theorem replayed_tool_item_follows_its_updates_sample :
    (Supply.numbered "item").NeverRepeats ∧
      let d := replayInto {} Feed.empty
        { ids := .numbered "item", clock := .constant "now" } interleavedTurn
      ∃ item args result, d.sink.items[1]? = some item ∧ d.state.held (.tool "k") = [item.id] ∧
        item.body = .tool .done "grep" args result := by
  have hplace : (replayInto {} Feed.empty { ids := .numbered "item", clock := .constant "now" }
      (Traffic.upToReset interleavedTurn)).firstPlace? (Traffic.isToolNews "k")
        (Traffic.stretch interleavedTurn) = some 1 := by decide +kernel
  have hstatus : (((Traffic.visibleUpdates "k" (Traffic.stretch interleavedTurn)).filterMap
      UpdateKind.toolStatus?).getLast?).getD .running = .done := by decide +kernel
  have hname : (((Traffic.visibleUpdates "k" (Traffic.stretch interleavedTurn)).filterMap
      UpdateKind.properToolName?).getLast?).getD Part.unnamedTool = "grep" := by decide +kernel
  obtain ⟨-, -, -, hsome⟩ := replayed_tool_item_follows_its_updates {}
    { ids := .numbered "item", clock := .constant "now" } (Supply.numbered_neverRepeats "item") "k"
    interleavedTurn
  obtain ⟨item, hitem, hheld, hbody⟩ := hsome 1 hplace
  rw [hstatus, hname] at hbody
  exact ⟨Supply.numbered_neverRepeats "item", item, _, _, hitem, hheld, hbody⟩

end Delivery

end AgentFeed
