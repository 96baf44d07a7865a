import AgentFeed.Proofs.Places

/-!
# Pairing the halves of a call

Log lines report a call in two halves that carry nothing but the name of the tool. A start begins an
item; an end is taken for the end of the oldest call of that name that runs, and if none runs it
makes an item of its own. `LineCall.all` says so of lines alone: it reads all lines of one name and
lists the calls they report.

A thread agrees with that list (`Delivery.CallHistory`). Its items fall into two parts, those that
have ended in front of those that run, and the queue of the name in the state is the second part.
An end moves the boundary by one, so no call ends twice and none ends before an older one.
-/

namespace AgentFeed

/-! ## 1. Lines and the calls they report -/

/-- How a call ended, by the line that reports its end. -/
def ToolLine.status (line : ToolLine) : ToolStatus :=
  if line.isError then .error else .done

/-- A call that log lines report. -/
structure LineCall where
  /-- What it was called with. -/
  args : Option Json
  /-- How it ended and with what, if it did. -/
  outcome : Option (ToolStatus × Option Json)

namespace LineCall

/-- What a call is shown as. -/
def body (name : String) (c : LineCall) : FeedBody :=
  match c.outcome with
  | none => .tool .running name c.args none
  | some (status, result) => .tool status name c.args result

/-- The oldest call that runs ends; if none runs, a call has ended that never began. -/
def endOldest (outcome : ToolStatus × Option Json) : List LineCall → List LineCall
  | [] => [{ args := none, outcome := some outcome }]
  | c :: later =>
    match c.outcome with
    | none => { c with outcome := some outcome } :: later
    | some _ => c :: endOldest outcome later

/-- The calls after one more line. -/
def after (calls : List LineCall) (line : ToolLine) : List LineCall :=
  match line.mark with
  | .start => calls ++ [{ args := line.payload, outcome := none }]
  | .finish => endOldest (line.status, line.payload) calls

/-- The calls that the lines of one tool report, in the order in which they are heard of first. -/
def all (lines : List ToolLine) : List LineCall :=
  lines.foldl after []

theorem all_concat (lines : List ToolLine) (line : ToolLine) :
    all (lines ++ [line]) = after (all lines) line := by
  rw [all, List.foldl_append]
  rfl

/-- Calls that have ended are passed over. -/
theorem endOldest_append {ended : List LineCall} (h : ∀ c ∈ ended, c.outcome ≠ none)
    (outcome : ToolStatus × Option Json) (later : List LineCall) :
    endOldest outcome (ended ++ later) = ended ++ endOldest outcome later := by
  induction ended with
  | nil => rfl
  | cons c rest ih =>
    obtain ⟨hc, hrest⟩ := List.forall_mem_cons.1 h
    obtain ⟨how, hhow⟩ := Option.ne_none_iff_exists'.1 hc
    rw [List.cons_append, endOldest, hhow, ih hrest]
    rfl

end LineCall

/-- The log line that an update passes through. -/
def UpdateKind.logLine? : UpdateKind → Option String
  | .raw value => Dispatcher.rawLine? value
  | _ => none

/-- The log line that a message carries, itself or passed through from the provider. -/
def WireMessage.logLine? : WireMessage → Option String
  | .log line => some line
  | m => m.update?.bind (·.kind.logLine?)

namespace Traffic

/-- The half of a call that a payload reports in a log line. -/
def toolLine? (payload : Json) : Option ToolLine :=
  (WireMessage.decode payload).logLine?.bind fun line =>
    if LogLine.isNoise line then none else ToolLine.parse? line

/-- The half of a call of one tool that a payload reports in a log line. -/
def callLine? (name : String) (payload : Json) : Option ToolLine :=
  (toolLine? payload).filter (·.name = name)

/-- Whether a payload reports half of a call of a tool in a log line. -/
def isCallLine (name : String) (payload : Json) : Bool :=
  (callLine? name payload).isSome

/-- All halves of calls of one tool that payloads report in log lines, in order. -/
def callLines (name : String) (payloads : List Json) : List ToolLine :=
  payloads.filterMap (callLine? name)

variable {name : String} {p : Json}

theorem callLines_concat (name : String) (payloads : List Json) (p : Json) :
    callLines name (payloads ++ [p]) = callLines name payloads ++ (callLine? name p).toList :=
  filterMap_concat _ payloads p

theorem isCallLine_of_some {line : ToolLine} (h : callLine? name p = some line) :
    isCallLine name p = true := by
  rw [isCallLine, h]
  rfl

theorem isCallLine_of_none (h : callLine? name p = none) : isCallLine name p = false := by
  rw [isCallLine, h]
  rfl

end Traffic

/-! ## 2. One step -/

/-- The action that half of a call asks for. -/
def ToolLine.action (line : ToolLine) : Action :=
  match line.mark with
  | .start => .callStart line.name line.payload
  | .finish => .callFinish line.status line.name line.payload

/-- The tool whose calls from log lines an action is about. -/
def Action.callName? : Action → Option String
  | .callStart name _ => some name
  | .callFinish _ name _ => some name
  | _ => none

theorem Action.callName?_of_owner? {a : Action} {name : String}
    (h : a.owner? = some (.call name)) : a.callName? = some name := by
  cases a <;> cases h <;> rfl

theorem ToolLine.action_of_start {line : ToolLine} (h : line.mark = .start) :
    line.action = .callStart line.name line.payload := by
  rw [action, h]

theorem ToolLine.action_of_finish {line : ToolLine} (h : line.mark = .finish) :
    line.action = .callFinish line.status line.name line.payload := by
  rw [action, h]

theorem ToolLine.owner?_action (line : ToolLine) : line.action.owner? = some (.call line.name) := by
  obtain ⟨mark, name, payload⟩ := line
  cases mark <;> rfl

theorem ToolLine.isReset_action (line : ToolLine) : line.action.isReset = false := by
  obtain ⟨mark, name, payload⟩ := line
  cases mark <;> rfl

namespace Dispatcher

variable (d : Dispatcher) (s : Accumulation)

/-- A log line asks for the same, however it comes. -/
theorem action_of_logLine {m : WireMessage} {line : String} (h : m.logLine? = some line) :
    d.action s m = LogLine.action line := by
  cases m with
  | log text =>
    obtain rfl := Option.some.inj h
    rfl
  | modelStreamChunk c =>
    obtain ⟨u, hupdate, hline⟩ := Option.bind_eq_some_iff.1 h
    obtain ⟨turnId, kind⟩ := u
    rw [WireMessage.update?] at hupdate
    cases kind with
    | raw value =>
      have hraw : rawLine? value = some line := hline
      simp only [action, RawChunk.action, hupdate, hraw, Option.elim_some]
    | _ => cases hline
  | _ => cases h

theorem action_of_callLine {name : String} {p : Json} {line : ToolLine}
    (h : Traffic.callLine? name p = some line) :
    d.action s (WireMessage.decode p) = line.action ∧ line.name = name := by
  obtain ⟨hline, hname⟩ := Option.filter_eq_some_iff.1 h
  obtain ⟨text, htext, hparse⟩ := Option.bind_eq_some_iff.1 hline
  refine ⟨?_, by simpa using hname⟩
  by_cases hnoise : LogLine.isNoise text = true
  · rw [if_pos hnoise] at hparse
    cases hparse
  · rw [if_neg hnoise] at hparse
    rw [d.action_of_logLine s htext, LogLine.action, if_neg hnoise, hparse]
    rfl

/-- Only log lines are about calls from log lines. -/
theorem callName?_of_logLine (m : WireMessage) :
    (d.action s m).callName? = m.logLine?.bind fun line => (LogLine.action line).callName? := by
  cases m with
  | modelStreamChunk c =>
    rw [action, RawChunk.action, WireMessage.logLine?, WireMessage.update?]
    · cases c.normalize with
      | none => rfl
      | some u =>
        obtain ⟨turnId, kind⟩ := u
        cases kind with
        | raw value =>
          simp only [Option.bind_some, UpdateKind.logLine?]
          cases rawLine? value <;> rfl
        | turnAbort reason => cases reason <;> rfl
        | _ => rfl
    · simp
  | userMessage text id =>
    rw [action]
    split <;> rfl
  | assistantMessage text =>
    rw [action]
    split <;> rfl
  | reasoning kind text =>
    rw [action]
    split <;> rfl
  | sessionBusy busy => cases busy <;> rfl
  | _ => rfl

/-- An action is about the calls of the tool that its payload reports half a call of. -/
theorem callName?_action (p : Json) :
    (d.action s (WireMessage.decode p)).callName? = (Traffic.toolLine? p).map (·.name) := by
  rw [d.callName?_of_logLine s, Traffic.toolLine?, Option.map_bind]
  refine Option.bind_congr fun line _ => ?_
  rw [LogLine.action, Function.comp_apply]
  split
  · rfl
  · cases ToolLine.parse? line with
    | none => rfl
    | some call =>
      obtain ⟨mark, name, payload⟩ := call
      cases mark <;> rfl

theorem owner?_of_no_callLine {name : String} {p : Json} (h : Traffic.callLine? name p = none) :
    (d.action s (WireMessage.decode p)).owner? ≠ some (.call name) := by
  intro howner
  have hname := (d.callName?_action s p).symm.trans (Action.callName?_of_owner? howner)
  obtain ⟨line, hline, rfl⟩ := Option.map_eq_some_iff.1 hname
  rw [Traffic.callLine?, hline, Option.filter_some, if_pos (by simp)] at h
  cases h

end Dispatcher

namespace Action

variable (freshId : String) (s : Accumulation) (status : ToolStatus) (name : String)
  (payload : Option Json)

theorem step_callStart :
    ((callStart name payload).step freshId s).edit
        = some (.append (.tool .running name payload none)) ∧
      ((callStart name payload).step freshId s).state.held (.call name)
        = s.held (.call name) ++ [freshId] :=
  ⟨rfl, (s.held_openCall name freshId (.call name)).trans (if_pos rfl)⟩

theorem held_callFinish :
    ((callFinish status name payload).step freshId s).state.held (.call name)
      = (s.held (.call name)).tail := by
  rw [step, WholeMessage.toolFinish_state]
  exact (s.held_closeOldestCall name (.call name)).trans (if_pos rfl)

/-- An end amends the oldest call that runs. -/
theorem edit_callFinish_of_running {id : String} {later : List String}
    (hheld : s.held (.call name) = id :: later) :
    ((callFinish status name payload).step freshId s).edit
      = some (.amend id (.finish status payload)) := by
  rw [step, WholeMessage.toolFinish, s.oldestCall?_eq, hheld]
  rfl

/-- An end that nothing waits for makes an item of its own. -/
theorem edit_callFinish_of_none (hheld : s.held (.call name) = []) :
    ((callFinish status name payload).step freshId s).edit
      = some (.append (.tool status name none payload)) := by
  rw [step, WholeMessage.toolFinish, s.oldestCall?_eq, hheld]
  rfl

end Action

/-- A queue is kept as long as calls wait in it. -/
theorem Accumulation.Consistent.openCalls_eq {s : Accumulation} (h : s.Consistent)
    (name : String) : s.openCalls.get? name
      = if s.held (.call name) = [] then none else some (s.held (.call name)) := by
  rw [Accumulation.held]
  cases hqueue : s.openCalls.get? name with
  | none => rfl
  | some ids =>
    have hfilled : ids ≠ [] := by
      rintro rfl
      exact h.queues_filled name hqueue
    exact (if_neg hfilled).symm

/-! ## 3. A stretch -/

/-- A call from log lines with the item it is shown as. -/
structure ShownCall where
  /-- Where the item is in the feed. -/
  place : Nat
  /-- The item. -/
  item : FeedItem
  /-- The call. -/
  call : LineCall

/-- The call has ended. -/
def ShownCall.settled (c : ShownCall) (status : ToolStatus) (result : Option Json) : ShownCall where
  place := c.place
  item := c.item.amend (.finish status result)
  call := { c.call with outcome := some (status, result) }

namespace Delivery

/-- A call of a tool is shown as the item at its place. -/
def ShowsCall (d : Delivery Feed) (name : String) (c : ShownCall) : Prop :=
  d.sink.items[c.place]? = some c.item ∧ c.item.body = c.call.body name

/-- A call shown as the next item. -/
def newCall (d : Delivery Feed) (name : String) (call : LineCall) : ShownCall where
  place := d.sink.size
  item := (d.host.newItem (call.body name)).1
  call := call

/-- What payloads have made of the calls of a tool from log lines, where none was known. -/
structure CallHistory (d : Delivery Feed) (name : String) (payloads : List Json)
    (ended running : List ShownCall) : Prop where
  /-- The lines of the tool have appended the items of the calls, and no others. -/
  places : d.createdPlaces (Traffic.isCallLine name) payloads = (ended ++ running).map (·.place)
  /-- The calls are those that the lines report. -/
  calls : LineCall.all (Traffic.callLines name payloads) = (ended ++ running).map (·.call)
  /-- Each of them is shown. -/
  shown : ∀ c ∈ ended ++ running, (d.deliverAll payloads).ShowsCall name c
  /-- The first part has ended. -/
  closed : ∀ c ∈ ended, c.call.outcome ≠ none
  /-- The second part runs. -/
  runs : ∀ c ∈ running, c.call.outcome = none
  /-- What runs waits in the queue of the tool. -/
  queue : (d.deliverAll payloads).state.held (.call name) = running.map (·.item.id)
  /-- What has ended waits nowhere. -/
  free : ∀ c ∈ ended, ∀ o, c.item.id ∉ (d.deliverAll payloads).state.held o

variable {d : Delivery Feed} {name : String} {payloads : List Json} {ended running : List ShownCall}
  {p : Json} {line : ToolLine}

theorem callHistory_nil (hstate : d.state = .empty) (name : String) :
    d.CallHistory name [] [] [] where
  places := rfl
  calls := rfl
  shown := List.forall_mem_nil _
  closed := List.forall_mem_nil _
  runs := List.forall_mem_nil _
  queue := by
    rw [deliverAll_nil, hstate, Accumulation.held_empty]
    rfl
  free := List.forall_mem_nil _

theorem ShowsCall.take_append {c : ShownCall} (h : d.ShowsCall name c) (dispatcher : Dispatcher)
    {step : Step} {body : FeedBody} (hedit : step.edit = some (.append body)) :
    (d.take (dispatcher, step)).ShowsCall name c := by
  refine ⟨?_, h.2⟩
  rw [sink_take_append dispatcher hedit]
  exact Feed.getElem?_append_of_some h.1 _

/-- The call that an appended item shows. -/
theorem showsCall_take_append (d : Delivery Feed) (dispatcher : Dispatcher) {step : Step}
    (call : LineCall) (hedit : step.edit = some (.append (call.body name))) :
    (d.take (dispatcher, step)).ShowsCall name (d.newCall name call) := by
  refine ⟨?_, rfl⟩
  rw [sink_take_append dispatcher hedit]
  exact d.sink.getElem?_append_self _

/-- A payload with a line of a tool does what the line asks for. -/
theorem payload_of_callLine (d : Delivery Feed) (h : Traffic.callLine? name p = some line) :
    d.payload p = d.perform (d.dispatcher.after (WireMessage.decode p)) line.action := by
  rw [payload_eq, (d.dispatcher.action_of_callLine d.state h).1]

/-- A line of one tool leaves alone what is held for anything else. -/
theorem held_payload_of_callLine (d : Delivery Feed) (h : Traffic.callLine? name p = some line)
    {o : Owner} (ho : o ≠ .call name) : (d.payload p).state.held o = d.state.held o := by
  obtain ⟨-, rfl⟩ := d.dispatcher.action_of_callLine d.state h
  rw [payload_of_callLine d h]
  refine held_perform_of_ne d _ line.isReset_action ?_
  rw [line.owner?_action]
  exact fun heq => ho (Option.some.inj heq).symm

/-- An end takes the oldest call out of the queue. -/
theorem held_payload_of_finish (d : Delivery Feed) (h : Traffic.callLine? name p = some line)
    (hmark : line.mark = .finish) :
    (d.payload p).state.held (.call name) = (d.state.held (.call name)).tail := by
  obtain ⟨-, rfl⟩ := d.dispatcher.action_of_callLine d.state h
  rw [payload_of_callLine d h, ToolLine.action_of_finish hmark]
  exact Action.held_callFinish d.host.ids.head d.state line.status line.name line.payload

namespace CallHistory

/-- What has ended lies still. -/
theorem ended_payload (h : d.CallHistory name payloads ended running)
    (hcoherent : (d.deliverAll payloads).Coherent) (p : Json) {c : ShownCall} (hc : c ∈ ended) :
    ((d.deliverAll payloads).payload p).ShowsCall name c ∧
      ∀ o, c.item.id ∉ ((d.deliverAll payloads).payload p).state.held o := by
  obtain ⟨hitem, hbody⟩ := h.shown c (List.mem_append_left _ hc)
  obtain ⟨hstays, hfree⟩ := hcoherent.unheld_deliverAll hitem (h.free c hc) [p]
  exact ⟨⟨hstays, hbody⟩, hfree⟩

/-- A payload without a line of the tool leaves its calls as they are. -/
theorem concat_of_other (h : d.CallHistory name payloads ended running)
    (hcoherent : (d.deliverAll payloads).Coherent) (hreset : Traffic.resets p = false)
    (hother : Traffic.callLine? name p = none) :
    d.CallHistory name (payloads ++ [p]) ended running := by
  let now := d.deliverAll payloads
  have hisReset := (now.dispatcher.isReset_action now.state (WireMessage.decode p)).trans hreset
  have howner := now.dispatcher.owner?_of_no_callLine now.state hother
  have hrunning : ∀ c ∈ running, (now.payload p).ShowsCall name c := by
    intro c hc
    obtain ⟨hitem, hbody⟩ := h.shown c (List.mem_append_right _ hc)
    have hmine : c.item.id ∈ now.state.held (.call name) := by
      rw [h.queue]
      exact List.mem_map_of_mem hc
    refine ⟨?_, hbody⟩
    rw [payload_eq]
    -- An action that could amend the item would be about its owner, the queue of the tool.
    refine hcoherent.item_stays _ hitem fun o habout hmem => howner ?_
    rw [habout, hcoherent.held_owner o (.call name) _ hmem hmine]
  constructor
  · rw [createdPlaces_append, createdPlaces_cons_of_other (Traffic.isCallLine_of_none hother),
      h.places]
    exact List.append_nil _
  · rw [Traffic.callLines_concat, hother, Option.toList_none, List.append_nil, h.calls]
  · rw [deliverAll_concat]
    exact List.forall_mem_append.2 ⟨fun c hc => (h.ended_payload hcoherent p hc).1, hrunning⟩
  · exact h.closed
  · exact h.runs
  · rw [deliverAll_concat, payload_eq, held_perform_of_ne _ _ hisReset howner]
    exact h.queue
  · rw [deliverAll_concat]
    exact fun c hc => (h.ended_payload hcoherent p hc).2

/-- A line that appends an item puts it behind those of the calls so far. -/
theorem shown_of_append (h : d.CallHistory name payloads ended running)
    (hline : Traffic.callLine? name p = some line) (call : LineCall)
    (hedit : (line.action.step (d.deliverAll payloads).host.ids.head
      (d.deliverAll payloads).state).edit = some (.append (call.body name))) :
    let now := d.deliverAll payloads
    let calls := ended ++ running ++ [now.newCall name call]
    d.createdPlaces (Traffic.isCallLine name) (payloads ++ [p]) = calls.map (·.place) ∧
      ∀ c ∈ calls, (now.payload p).ShowsCall name c := by
  intro now calls
  have hsize : (now.payload p).sink.size = now.sink.size + 1 := by
    rw [payload_of_callLine now hline, perform, size_take, Step.growth, hedit]
  constructor
  · rw [createdPlaces_append, h.places,
      createdPlaces_cons_of_grown (Traffic.isCallLine_of_some hline) hsize]
    simp [calls, createdPlaces, newCall]
  · rw [payload_of_callLine now hline, List.forall_mem_append, List.forall_mem_singleton]
    exact ⟨fun c hc => (h.shown c hc).take_append _ hedit, now.showsCall_take_append _ call hedit⟩

/-- The start of a call appends an item that runs, and the call queues up. -/
theorem concat_of_start (h : d.CallHistory name payloads ended running)
    (hcoherent : (d.deliverAll payloads).Coherent) (hline : Traffic.callLine? name p = some line)
    (hmark : line.mark = .start) :
    d.CallHistory name (payloads ++ [p]) ended
      (running ++ [(d.deliverAll payloads).newCall name { args := line.payload, outcome := none }])
      := by
  let now := d.deliverAll payloads
  obtain ⟨-, rfl⟩ := now.dispatcher.action_of_callLine now.state hline
  obtain ⟨hedit, hheld⟩ := Action.step_callStart now.host.ids.head now.state line.name line.payload
  rw [← ToolLine.action_of_start hmark] at hedit hheld
  obtain ⟨hplaces, hshown⟩ :=
    h.shown_of_append hline { args := line.payload, outcome := none } hedit
  rw [List.append_assoc] at hplaces hshown
  constructor
  · exact hplaces
  · rw [Traffic.callLines_concat, hline, Option.toList_some, LineCall.all_concat, h.calls,
      LineCall.after, hmark]
    simp [newCall]
  · rw [deliverAll_concat]
    exact hshown
  · exact h.closed
  · exact List.forall_mem_append.2 ⟨h.runs, List.forall_mem_singleton.2 rfl⟩
  · rw [deliverAll_concat, payload_of_callLine now hline, List.map_append, ← h.queue]
    exact hheld
  · rw [deliverAll_concat]
    exact fun c hc => (h.ended_payload hcoherent p hc).2

/-- The list of calls after an end: what has ended is passed over. -/
theorem calls_of_finish (h : d.CallHistory name payloads ended running)
    (hline : Traffic.callLine? name p = some line) (hmark : line.mark = .finish) :
    LineCall.all (Traffic.callLines name (payloads ++ [p]))
      = ended.map (·.call) ++ LineCall.endOldest (line.status, line.payload)
          (running.map (·.call)) := by
  rw [Traffic.callLines_concat, hline, Option.toList_some, LineCall.all_concat, h.calls,
    LineCall.after, hmark, List.map_append]
  exact LineCall.endOldest_append (List.forall_mem_map.2 h.closed) _ _

/-- An end that nothing waits for appends an item that has ended. -/
theorem concat_of_orphan (h : d.CallHistory name payloads ended [])
    (hcoherent : (d.deliverAll payloads).Coherent) (hline : Traffic.callLine? name p = some line)
    (hmark : line.mark = .finish) :
    d.CallHistory name (payloads ++ [p])
      (ended ++ [(d.deliverAll payloads).newCall name
        { args := none, outcome := some (line.status, line.payload) }]) [] := by
  let now := d.deliverAll payloads
  obtain ⟨-, rfl⟩ := now.dispatcher.action_of_callLine now.state hline
  have hedit := Action.edit_callFinish_of_none now.host.ids.head now.state line.status line.name
    line.payload h.queue
  rw [← ToolLine.action_of_finish hmark] at hedit
  obtain ⟨hplaces, hshown⟩ := h.shown_of_append hline
    { args := none, outcome := some (line.status, line.payload) } hedit
  rw [List.append_nil] at hplaces hshown
  have hqueue : (now.payload p).state.held (.call line.name) = [] := by
    rw [now.held_payload_of_finish hline hmark, h.queue]
    rfl
  have hfree : ∀ o, now.host.ids.head ∉ (now.payload p).state.held o := by
    intro o
    by_cases ho : o = .call line.name
    · rw [ho, hqueue]
      exact List.not_mem_nil
    · rw [now.held_payload_of_callLine hline ho]
      exact hcoherent.head_not_held o
  constructor
  · rw [hplaces, List.append_nil]
  · rw [h.calls_of_finish hline hmark, List.append_nil, List.map_append]
    rfl
  · rw [deliverAll_concat, List.append_nil]
    exact hshown
  · exact List.forall_mem_append.2
      ⟨h.closed, List.forall_mem_singleton.2 (Option.some_ne_none _)⟩
  · exact h.runs
  · rw [deliverAll_concat]
    exact hqueue
  · rw [deliverAll_concat, List.forall_mem_append, List.forall_mem_singleton]
    exact ⟨fun c hc => (h.ended_payload hcoherent p hc).2, hfree⟩

section Ending

variable {c : ShownCall} {later : List ShownCall}

/-- No call waits twice. -/
theorem notMem_later (h : d.CallHistory name payloads ended (c :: later))
    (hcoherent : (d.deliverAll payloads).Coherent) : c.item.id ∉ later.map (·.item.id) := by
  have hnodup := hcoherent.held_nodup (.call name)
  rw [h.queue] at hnodup
  exact (List.nodup_cons.1 hnodup).1

/-- A call that has ended waits for nothing more, and the others wait on. -/
theorem queue_of_end (h : d.CallHistory name payloads ended (c :: later))
    (hcoherent : (d.deliverAll payloads).Coherent) (hline : Traffic.callLine? name p = some line)
    (hmark : line.mark = .finish) :
    let next := (d.deliverAll payloads).payload p
    next.state.held (.call name) = later.map (·.item.id) ∧ ∀ o, c.item.id ∉ next.state.held o := by
  intro next
  have hqueue : next.state.held (.call name) = later.map (·.item.id) := by
    rw [held_payload_of_finish _ hline hmark, h.queue]
    rfl
  refine ⟨hqueue, fun o hmem => ?_⟩
  by_cases ho : o = .call name
  · rw [ho, hqueue] at hmem
    exact h.notMem_later hcoherent hmem
  · rw [held_payload_of_callLine _ hline ho] at hmem
    refine ho (hcoherent.held_owner o (.call name) _ hmem ?_)
    rw [h.queue]
    exact List.mem_cons_self

/-- An end amends the item of the oldest call that runs, and no other. -/
theorem shown_of_end (h : d.CallHistory name payloads ended (c :: later))
    (hcoherent : (d.deliverAll payloads).Coherent) (hline : Traffic.callLine? name p = some line)
    (hmark : line.mark = .finish) :
    let next := (d.deliverAll payloads).payload p
    next.sink.size = (d.deliverAll payloads).sink.size ∧
      next.ShowsCall name (c.settled line.status line.payload) ∧
      ∀ x ∈ later, next.ShowsCall name x := by
  intro next
  let now := d.deliverAll payloads
  obtain ⟨-, rfl⟩ := now.dispatcher.action_of_callLine now.state hline
  have hedit := Action.edit_callFinish_of_running now.host.ids.head now.state line.status line.name
    line.payload h.queue
  rw [← ToolLine.action_of_finish hmark] at hedit
  have hnext : next = now.perform (now.dispatcher.after (WireMessage.decode p)) line.action :=
    now.payload_of_callLine hline
  refine ⟨?_, ⟨?_, ?_⟩, fun x hx => ?_⟩
  · rw [hnext, perform, size_take, Step.growth, hedit]
    rfl
  · have hitem := (h.shown c (List.mem_append_right _ List.mem_cons_self)).1
    rw [hnext, perform, sink_take_amend _ hedit]
    exact (Feed.getElem?_amend hcoherent.distinct hitem _ _).trans (congrArg some (if_pos rfl))
  · have hbody := (h.shown c (List.mem_append_right _ List.mem_cons_self)).2
    rw [ShownCall.settled, Feed.amend_body, hbody, LineCall.body, h.runs c List.mem_cons_self]
    rfl
  · obtain ⟨hitem, hbody⟩ := h.shown x (List.mem_append_right _ (List.mem_cons_of_mem c hx))
    have hne : x.item.id ≠ c.item.id :=
      fun heq => h.notMem_later hcoherent (heq ▸ List.mem_map_of_mem hx)
    refine ⟨?_, hbody⟩
    rw [hnext, perform, sink_take_amend _ hedit, Feed.getElem?_amend hcoherent.distinct hitem,
      if_neg hne]

/-- With an end the oldest call that runs joins those that have ended. -/
theorem concat_of_end (h : d.CallHistory name payloads ended (c :: later))
    (hcoherent : (d.deliverAll payloads).Coherent) (hline : Traffic.callLine? name p = some line)
    (hmark : line.mark = .finish) :
    d.CallHistory name (payloads ++ [p]) (ended ++ [c.settled line.status line.payload]) later := by
  obtain ⟨hqueue, hfree⟩ := h.queue_of_end hcoherent hline hmark
  obtain ⟨hsize, hsettled, hlater⟩ := h.shown_of_end hcoherent hline hmark
  constructor
  · rw [createdPlaces_append, createdPlaces_cons_of_same hsize, h.places]
    simp [createdPlaces, ShownCall.settled]
  · rw [h.calls_of_finish hline hmark, List.map_cons, LineCall.endOldest,
      h.runs c List.mem_cons_self]
    simp [ShownCall.settled]
  · rw [deliverAll_concat, List.forall_mem_append, List.forall_mem_append,
      List.forall_mem_singleton]
    exact ⟨⟨fun c hc => (h.ended_payload hcoherent p hc).1, hsettled⟩, hlater⟩
  · exact List.forall_mem_append.2
      ⟨h.closed, List.forall_mem_singleton.2 (Option.some_ne_none _)⟩
  · exact fun x hx => h.runs x (List.mem_cons_of_mem c hx)
  · rw [deliverAll_concat]
    exact hqueue
  · rw [deliverAll_concat, List.forall_mem_append, List.forall_mem_singleton]
    exact ⟨fun c hc => (h.ended_payload hcoherent p hc).2, hfree⟩

end Ending

end CallHistory

/-- **A stretch and the calls of a tool from log lines.** -/
theorem Coherent.exists_callHistory (h : d.Coherent) (hstate : d.state = .empty) (name : String)
    {payloads : List Json} (hresets : ∀ p ∈ payloads, Traffic.resets p = false) :
    ∃ ended running, d.CallHistory name payloads ended running := by
  -- From the right, and an end is told apart by whether a call is there to end.
  induction payloads using List.reverseRecOn with
  | nil => exact ⟨[], [], callHistory_nil hstate name⟩
  | append_singleton payloads p ih =>
    obtain ⟨hbefore, hlast⟩ := List.forall_mem_append.1 hresets
    obtain ⟨ended, running, hhistory⟩ := ih hbefore
    have hcoherent := h.deliverAll payloads
    cases hline : Traffic.callLine? name p with
    | none =>
      have hreset := hlast p (List.mem_singleton_self p)
      exact ⟨_, _, hhistory.concat_of_other hcoherent hreset hline⟩
    | some line =>
      cases hmark : line.mark with
      | start => exact ⟨_, _, hhistory.concat_of_start hcoherent hline hmark⟩
      | finish =>
        cases running with
        | nil => exact ⟨_, _, hhistory.concat_of_orphan hcoherent hline hmark⟩
        | cons c later => exact ⟨_, _, hhistory.concat_of_end hcoherent hline hmark⟩

/-! ## 4. Every run -/

/-- **Calls from log lines are paired first in, first out.** Look at the payloads since the last
reset. The lines of one tool among them report calls, each end being that of the oldest call of the
tool that runs, and the items that those lines appended show these calls. They are in two parts:
those that have ended, which nothing changes any more, and behind them those that run, which only
another line of the tool can change and which make up the queue of the tool in the state. A queue
without calls is not kept. -/
theorem log_calls_pair_first_in_first_out (dispatcher : Dispatcher) (host : Host)
    (hids : host.ids.NeverRepeats) (name : String) (payloads : List Json) :
    let before := replayInto dispatcher Feed.empty host (Traffic.upToReset payloads)
    let after := replayInto dispatcher Feed.empty host payloads
    let stretch := Traffic.stretch payloads
    ∃ ended running : List ShownCall,
      before.createdPlaces (Traffic.isCallLine name) stretch = (ended ++ running).map (·.place) ∧
        LineCall.all (Traffic.callLines name stretch) = (ended ++ running).map (·.call) ∧
        (∀ c ∈ ended ++ running, after.ShowsCall name c) ∧
        (∀ c ∈ ended, c.call.outcome ≠ none ∧
          ∀ later, (after.deliverAll later).ShowsCall name c) ∧
        (∀ c ∈ running, c.call.outcome = none ∧
          ∀ later, Traffic.callLines name (later.takeWhile fun p => !Traffic.resets p) = [] →
            (after.deliverAll later).ShowsCall name c) ∧
        after.state.openCalls.get? name
          = if running = [] then none else some (running.map (·.item.id)) := by
  intro before after stretch
  have hbefore : before.Coherent :=
    (coherent_start dispatcher hids).deliverAll (Traffic.upToReset payloads)
  have hempty : before.state = .empty := state_upToReset rfl payloads
  have hafter : after = before.deliverAll stretch :=
    replayInto_eq_stretch dispatcher Feed.empty host payloads
  have hcoherent : after.Coherent := (coherent_start dispatcher hids).deliverAll payloads
  have hconsistent : after.state.Consistent :=
    consistent_deliverAll Accumulation.consistent_empty payloads
  obtain ⟨ended, running, h⟩ := hbefore.exists_callHistory hempty name
    fun _ hp => Traffic.not_resets_of_mem_stretch hp
  obtain ⟨hplaces, hcalls, hshown, hclosed, hruns, hqueue, hfree⟩ := h
  rw [← hafter] at hshown hqueue hfree
  refine ⟨ended, running, hplaces, hcalls, hshown, fun c hc => ⟨hclosed c hc, fun later => ?_⟩,
    fun c hc => ⟨hruns c hc, fun later hlater => ?_⟩, ?_⟩
  · obtain ⟨hitem, hbody⟩ := hshown c (List.mem_append_left _ hc)
    exact ⟨(hcoherent.unheld_deliverAll hitem (hfree c hc) later).1, hbody⟩
  · obtain ⟨hitem, hbody⟩ := hshown c (List.mem_append_right _ hc)
    refine ⟨hcoherent.item_deliverAll hitem (hqueue ▸ List.mem_map_of_mem hc) ?_, hbody⟩
    intro p hp dispatcher' s
    exact dispatcher'.owner?_of_no_callLine s (List.filterMap_eq_nil_iff.1 hlater p hp)
  · rw [hconsistent.openCalls_eq, hqueue]
    simp only [List.map_eq_nil_iff]

/-- Calls of two tools from log lines, one of them passed through from the provider, with an update
of a streamed call and an end of a third tool between them. -/
def mixedLines : List Json :=
  [Traffic.logPayload "tool> grep 1",
    Traffic.logPayload "tool> sed 2",
    Traffic.chunkPayload "t" "raw" [("rawValue", .string "tool> grep 3")],
    Traffic.chunkPayload "t" "tool-call"
      [("toolCallId", .string "grep"), ("toolName", .string "grep")],
    Traffic.logPayload "tool< grep \x7b\"ok\":false\x7d",
    Traffic.logPayload "tool< cat 4"]

/-- Of two calls of one tool the first has ended, and the second is the one that waits. -/
theorem log_calls_pair_first_in_first_out_sample :
    (Supply.numbered "item").NeverRepeats ∧
      let d := replayInto {} Feed.empty
        { ids := .numbered "item", clock := .constant "now" } mixedLines
      d.sink.items.map (·.render) = ["[tool:error] grep 1 -> \x7b\"ok\":false\x7d",
        "[tool:running] sed 2", "[tool:running] grep 3", "[tool:running] grep",
        "[tool:done] cat -> 4"] ∧
      ∃ ended running : List ShownCall, (ended ++ running).map (·.place) = [0, 2] ∧
        running.map (·.item.id) = ["item-3"] ∧
        ∀ c ∈ ended, (d.payload (Traffic.logPayload "tool< grep 5")).ShowsCall "grep" c := by
  let d := replayInto {} Feed.empty
    { ids := .numbered "item", clock := .constant "now" } mixedLines
  have hplaces : (replayInto {} Feed.empty { ids := .numbered "item", clock := .constant "now" }
      (Traffic.upToReset mixedLines)).createdPlaces (Traffic.isCallLine "grep")
        (Traffic.stretch mixedLines) = [0, 2] := by decide +kernel
  have hqueue : d.state.openCalls.get? "grep" = some ["item-3"] := by decide +kernel
  obtain ⟨ended, running, hcreated, -, -, hended, -, hwaiting⟩ :=
    log_calls_pair_first_in_first_out {}
      { ids := .numbered "item", clock := .constant "now" } (Supply.numbered_neverRepeats "item")
      "grep" mixedLines
  refine ⟨Supply.numbered_neverRepeats "item", by decide +kernel, ended, running,
    hcreated.symm.trans hplaces, ?_, fun c hc => (hended c hc).2 [_]⟩
  have hsome := hqueue.symm.trans hwaiting
  split at hsome
  · cases hsome
  · exact (Option.some.inj hsome).symm

end Delivery

end AgentFeed
