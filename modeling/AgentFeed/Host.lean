import AgentFeed.Reducer

/-!
# Hosts

What a host lends to all threads: a source of ids, a clock, and a place where ended tool calls are
announced. Ids and times are endless sequences that are read from the front, so every run is a
function of its input. An item takes the next id and the next time.
-/

namespace AgentFeed

/-- An endless sequence of texts, read from the front. -/
structure Supply where
  /-- The text at each place. -/
  nth : Nat → String
  /-- How many have been taken. -/
  taken : Nat := 0

namespace Supply

/-- The next text. -/
def head (s : Supply) : String :=
  s.nth s.taken

/-- The sequence after its next text. -/
def tail (s : Supply) : Supply :=
  { s with taken := s.taken + 1 }

/-- The sequence that repeats one text. -/
def constant (text : String) : Supply :=
  { nth := fun _ => text }

/-- The sequence of a stem with the numbers from one, a hyphen between them. -/
def numbered (stem : String) : Supply :=
  { nth := fun n => stem ++ "-" ++ toString (n + 1) }

/-- No text occurs twice in the sequence. -/
def NeverRepeats (s : Supply) : Prop :=
  ∀ i j, s.nth i = s.nth j → i = j

end Supply

/-- What a host lends to all threads. -/
structure Host where
  /-- The source of ids. -/
  ids : Supply
  /-- The clock. -/
  clock : Supply
  /-- The calls announced so far, oldest first. -/
  announced : List ToolSettled := []

namespace Host

/-- The next id, and the host without it. -/
def takeId (h : Host) : String × Host :=
  (h.ids.head, { h with ids := h.ids.tail })

/-- The time, and the host after it was read. -/
def takeTime (h : Host) : String × Host :=
  (h.clock.head, { h with clock := h.clock.tail })

/-- A new item with a body. -/
def newItem (h : Host) (body : FeedBody) : FeedItem × Host :=
  ({ id := h.ids.head, ts := h.clock.head, body },
    { h with ids := h.ids.tail, clock := h.clock.tail })

/-- The host after an announcement, if there is one. -/
def announce (h : Host) (settled : Option ToolSettled) : Host :=
  { h with announced := h.announced ++ settled.toList }

end Host

end AgentFeed
