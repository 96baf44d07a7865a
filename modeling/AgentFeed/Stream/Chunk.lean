import AgentFeed.Json.Record

/-!
# Raw chunks

One granular piece of model output as it is delivered: the turn it belongs to, its place in the
turn, the name of its type, and an untyped part.
-/

namespace AgentFeed

/-- A piece of model output as delivered. -/
structure RawChunk where
  /-- The turn of model output that the chunk belongs to. -/
  turnId : String
  /-- The place of the chunk in its turn. -/
  index : Nat
  /-- The name of the type of the part, as sent. -/
  partType : String
  /-- The content, whose shape depends on the type. -/
  part : Json

namespace RawChunk

/-- The names of the fields, in order. -/
def fieldNames : List String :=
  ["turnId", "index", "partType", "part"]

/-- A chunk from its fields; only the type must be there. -/
def ofFields? (fields : Table String Json) : Option RawChunk := do
  return {
    turnId := ← fields.needOr? "turnId" "" Json.string?
    index := ← fields.needOr? "index" 0 Json.nat?
    partType := ← fields.need? "partType" Json.string?
    part := ← fields.needOr? "part" .null Json.any? }

/-- A chunk from a record in either form. -/
def ofJson? (value : Json) : Option RawChunk :=
  (value.fields? fieldNames).bind ofFields?

/-- The chunk as a record. -/
def toJson (c : RawChunk) : Json :=
  .object [("turnId", .string c.turnId), ("index", Json.ofNat c.index),
    ("partType", .string c.partType), ("part", c.part)]

end RawChunk

end AgentFeed
