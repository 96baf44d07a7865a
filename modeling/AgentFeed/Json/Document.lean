import AgentFeed.Json.Printer
import AgentFeed.Json.Token

/-!
# JSON documents

The syntax tree of a JSON text: every member of an object is kept, in order, with its key as it was
written. `JsonDocument.ofTokens?` builds it with a stack of open containers, one token at a time.
A document denotes a value (`JsonDocument.value?`) when its strings name characters, its numbers
are in range and it is nested no deeper than allowed; of members with one key the last counts.
-/

namespace AgentFeed

/-- The syntax tree of a JSON text. -/
inductive JsonDocument where
  | null
  | bool (b : Bool)
  | number (literal : NumberLiteral)
  | text (units : List TextUnit)
  | array (items : List JsonDocument)
  | object (members : List (List TextUnit × JsonDocument))

namespace JsonDocument

/-! ## 1. From tokens to a tree -/

/-- An open container around the value being read, with its finished parts in reverse. -/
inductive Frame where
  | array (items : List JsonDocument)
  | object (members : List (List TextUnit × JsonDocument)) (key : List TextUnit)

/-- What may come next while a document is read. -/
inductive Progress where
  /-- A value. -/
  | value (stack : List Frame)
  /-- The first item of an array, or its end. -/
  | firstItem (stack : List Frame)
  /-- A comma or the end of an array, after an item. -/
  | afterItem (items : List JsonDocument) (stack : List Frame)
  /-- The first key of an object, or its end. -/
  | firstKey (stack : List Frame)
  /-- A key, after a comma. -/
  | nextKey (members : List (List TextUnit × JsonDocument)) (stack : List Frame)
  /-- The colon after a key. -/
  | colon (members : List (List TextUnit × JsonDocument)) (key : List TextUnit)
      (stack : List Frame)
  /-- A comma or the end of an object, after a member. -/
  | afterMember (members : List (List TextUnit × JsonDocument)) (stack : List Frame)
  /-- Nothing: the document is complete. -/
  | done (document : JsonDocument)

namespace Progress

/-- A value has been completed inside the given containers. -/
def complete (v : JsonDocument) : List Frame → Progress
  | [] => .done v
  | .array items :: stack => .afterItem (v :: items) stack
  | .object members key :: stack => .afterMember ((key, v) :: members) stack

/-- A value starts inside the given containers. -/
def start (stack : List Frame) : JsonToken → Option Progress
  | .null => some (complete .null stack)
  | .bool b => some (complete (.bool b) stack)
  | .number literal => some (complete (.number literal) stack)
  | .text units => some (complete (.text units) stack)
  | .openArray => some (.firstItem stack)
  | .openObject => some (.firstKey stack)
  | _ => none

/-- One more token. -/
def step : Progress → JsonToken → Option Progress
  | .value stack, token => start stack token
  | .firstItem stack, .closeArray => some (complete (.array []) stack)
  | .firstItem stack, token => start (.array [] :: stack) token
  | .afterItem items stack, .comma => some (.value (.array items :: stack))
  | .afterItem items stack, .closeArray => some (complete (.array items.reverse) stack)
  | .firstKey stack, .closeObject => some (complete (.object []) stack)
  | .firstKey stack, .text key => some (.colon [] key stack)
  | .nextKey members stack, .text key => some (.colon members key stack)
  | .colon members key stack, .colon => some (.value (.object members key :: stack))
  | .afterMember members stack, .comma => some (.nextKey members stack)
  | .afterMember members stack, .closeObject =>
    some (complete (.object members.reverse) stack)
  | _, _ => none

end Progress

/-- The document that a list of tokens spells. -/
def ofTokens? (tokens : List JsonToken) : Option JsonDocument :=
  match tokens.foldlM Progress.step (.value []) with
  | some (.done document) => some document
  | _ => none

/-- The document that a text spells. -/
def parse? (text : String) : Option JsonDocument :=
  (JsonToken.ofChars? text.toList).bind ofTokens?

/-! ## 2. From a tree to a value -/

mutual

/-- The value of a document in which at most `room` containers are nested. -/
def value? (room : Nat) : JsonDocument → Option Json
  | .null => some .null
  | .bool b => some (.bool b)
  | .number literal => literal.value?.map .number
  | .text units => (TextUnit.string? units).map .string
  | .array items =>
    match room with
    | 0 => none
    | room + 1 => (itemValues? room items).map .array
  | .object members =>
    match room with
    | 0 => none
    | room + 1 => (memberValues? room members).map Json.ofMembers

/-- The values of a list of documents. -/
def itemValues? (room : Nat) : List JsonDocument → Option (List Json)
  | [] => some []
  | v :: rest =>
    match value? room v, itemValues? room rest with
    | some v, some rest => some (v :: rest)
    | _, _ => none

/-- The keys and values of a list of members. -/
def memberValues? (room : Nat) :
    List (List TextUnit × JsonDocument) → Option (List (String × Json))
  | [] => some []
  | (k, v) :: rest =>
    match TextUnit.string? k, value? room v, memberValues? room rest with
    | some k, some v, some rest => some ((k, v) :: rest)
    | _, _, _ => none

end

end JsonDocument

/-- How many containers may be nested in a text that is read as a value. -/
def Json.depthLimit : Nat := 127

/-- The value that a text spells. -/
def Json.parse? (text : String) : Option Json :=
  (JsonDocument.parse? text).bind (JsonDocument.value? Json.depthLimit)

/-- The value that a text spells, however deep it is nested. -/
def Json.parseAnyDepth? (text : String) : Option Json :=
  (JsonDocument.parse? text).bind (JsonDocument.value? text.length)

end AgentFeed
