import AgentFeed.Number.Binary64
import AgentFeed.Table

/-!
# JSON values

Untyped JSON values. A number is an integer when its literal is one and it fits a machine word,
and a double otherwise. The members of an object are a list of pairs: `Json.Canonical` says that
every object in a value is a table, with its keys in increasing order, as all values read from text
are. A record that is written with its fields in an order of its own is also a value of this type,
just not a canonical one.
-/

namespace AgentFeed

/-- A JSON number. -/
inductive JsonNumber where
  /-- An integer, between `-2^63` and `2^64 - 1` when it was read from text. -/
  | integer (n : Int)
  /-- Any other number. -/
  | double (d : Binary64)
deriving DecidableEq

/-- A JSON value. -/
inductive Json where
  | null
  | bool (b : Bool)
  | number (n : JsonNumber)
  | string (s : String)
  | array (items : List Json)
  | object (members : List (String × Json))

namespace Json

/-! ## 1. Taking a value apart -/

/-- The member of an object under a key; nothing for a value that is no object. -/
def member? : Json → String → Option Json
  | .object members, key => Table.get? members key
  | _, _ => none

/-- The text of a string. -/
def string? : Json → Option String
  | .string s => some s
  | _ => none

/-- The truth value of a boolean. -/
def bool? : Json → Option Bool
  | .bool b => some b
  | _ => none

/-- The value of an integer that is not negative. -/
def nat? : Json → Option Nat
  | .number (.integer n) => if 0 ≤ n then some n.toNat else none
  | _ => none

/-- The items of an array. -/
def array? : Json → Option (List Json)
  | .array items => some items
  | _ => none

/-- Whether the value is `null`. -/
def isNull : Json → Bool
  | .null => true
  | _ => false

/-- The text of the member under a key, when that is a string. -/
def stringMember? (value : Json) (key : String) : Option String :=
  (value.member? key).bind string?

/-! ## 2. Building a value -/

/-- An integer. -/
def ofInt (n : Int) : Json :=
  .number (.integer n)

/-- A natural number. -/
def ofNat (n : Nat) : Json :=
  ofInt n

/-- The canonical object with the given members; of two with one key the later counts. -/
def ofMembers (members : List (String × Json)) : Json :=
  .object (Table.ofPairs members)

/-! ## 3. Canonical values -/

mutual

/-- Every object in the value has its keys in increasing order, and every integer fits a machine
word: the values that reading a text can give. -/
def Canonical : Json → Prop
  | .null => True
  | .bool _ => True
  | .number (.integer n) => -Int.pow 2 63 ≤ n ∧ n < Int.pow 2 64
  | .number (.double _) => True
  | .string _ => True
  | .array items => CanonicalItems items
  | .object members => Table.Sorted members ∧ CanonicalMembers members

/-- Every value in the list is canonical. -/
def CanonicalItems : List Json → Prop
  | [] => True
  | v :: rest => Canonical v ∧ CanonicalItems rest

/-- Every value in the list of pairs is canonical. -/
def CanonicalMembers : List (String × Json) → Prop
  | [] => True
  | (_, v) :: rest => Canonical v ∧ CanonicalMembers rest

end

mutual

/-- How many arrays and objects are nested in one another at most. -/
def depth : Json → Nat
  | .null => 0
  | .bool _ => 0
  | .number _ => 0
  | .string _ => 0
  | .array items => itemsDepth items + 1
  | .object members => membersDepth members + 1

/-- The greatest depth in a list of values. -/
def itemsDepth : List Json → Nat
  | [] => 0
  | v :: rest => max (depth v) (itemsDepth rest)

/-- The greatest depth in a list of members. -/
def membersDepth : List (String × Json) → Nat
  | [] => 0
  | (_, v) :: rest => max (depth v) (membersDepth rest)

end

end Json

end AgentFeed
