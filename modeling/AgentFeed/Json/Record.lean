import AgentFeed.Json.Basic

/-!
# Records in JSON

A record is written as an object with a member for each field. Some records may also be written as
the array of their fields in order, where fields at the end can be left out. `Json.fields?` brings
both forms to one table of fields; members that are no field of the record are in it too, and are
never asked for.

A field is read in one of three ways: it must be there (`Table.need?`), it may be missing and then
has a default (`Table.needOr?`), or it is optional, where both a missing field and `null` mean that
there is none (`Table.option?`).
-/

namespace AgentFeed

namespace Json

/-- The fields of a record in either of its forms, given the names of the fields in order. -/
def fields? (names : List String) : Json → Option (Table String Json)
  | .object members => some members
  | .array items => if items.length ≤ names.length then some (names.zip items) else none
  | _ => none

/-- The value that is its own reading: for a field of any type. -/
def any? (value : Json) : Option Json :=
  some value

end Json

namespace Table

variable {α : Type}

/-- A field that must be there. -/
def need? (fields : Table String Json) (name : String) (read : Json → Option α) : Option α :=
  (fields.get? name).bind read

/-- A field with a default for when it is missing. -/
def needOr? (fields : Table String Json) (name : String) (default : α) (read : Json → Option α) :
    Option α :=
  match fields.get? name with
  | none => some default
  | some value => read value

/-- An optional field. -/
def option? (fields : Table String Json) (name : String) (read : Json → Option α) :
    Option (Option α) :=
  match fields.get? name with
  | none => some none
  | some .null => some none
  | some value => (read value).map some

end Table

namespace Json

/-- The member of a written record for an optional field: none when there is no value. -/
def optional (name : String) (value : Option Json) : List (String × Json) :=
  match value with
  | none => []
  | some v => [(name, v)]

/-- The name that a tagged record carries in its tag field: the text there, or the name that an
integer there counts from zero. -/
def tagName? (names : List String) : Json → Option String
  | .string s => some s
  | .number (.integer n) => if 0 ≤ n then names[n.toNat]? else none
  | _ => none

/-- The name of a constant: a text, or an object whose only key is the name and whose value is
`null` or, where `emptyToo` allows it, the empty object. -/
def constantName? (emptyToo : Bool) : Json → Option String
  | .string s => some s
  | .object [(name, .null)] => some name
  | .object [(name, .object [])] => if emptyToo then some name else none
  | _ => none

end Json

end AgentFeed
