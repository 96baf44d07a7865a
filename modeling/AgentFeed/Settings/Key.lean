import AgentFeed.Settings.Value

/-!
# Keys of settings

A key names a place in a tree of settings: names with dots between them, and numbers in brackets for
the items of lists. A number has at most 64 bits and may have blanks around it. A text of any other
form is a name as it stands.

Putting a setting at a place makes groups and lists on the way, in place of whatever is there. A
group is put in member by member, so what it does not mention stays.
-/

namespace AgentFeed

/-- One step towards a setting. -/
inductive KeyStep where
  /-- To a member of a group. -/
  | name (s : String)
  /-- To an item of a list; a negative number counts from the end. -/
  | item (place : Int)
deriving DecidableEq

namespace KeyStep

/-- A character of a name in a key. -/
def isNameChar (c : Char) : Bool :=
  c.isAlphanum || c = '_' || c = '-'

/-- A blank between brackets. -/
def isBracketBlank (c : Char) : Bool :=
  c = ' ' || c = '\t'

/-- A text without the blanks around it. -/
def trimBlanks (cs : List Char) : List Char :=
  ((cs.dropWhile isBracketBlank).reverse.dropWhile isBracketBlank).reverse

/-- The number between brackets. -/
def place? (cs : List Char) : Option Int :=
  let place :=
    match trimBlanks cs with
    | '-' :: digits => (Digits.nat? 10 digits).map fun n => -(n : Int)
    | digits => (Digits.nat? 10 digits).map fun n => (n : Int)
  place.filter fun n => -Int.pow 2 63 ≤ n && n < Int.pow 2 63

/-- The steps, at most `fuel` of them, that a text spells after the first. -/
def later? : Nat → List Char → Option (List KeyStep)
  | 0, _ => none
  | _, [] => some []
  | fuel + 1, '.' :: cs =>
    let name := cs.takeWhile isNameChar
    if name = [] then none
    else (later? fuel (cs.dropWhile isNameChar)).map (.name (String.ofList name) :: ·)
  | fuel + 1, '[' :: cs =>
    match cs.dropWhile (· ≠ ']') with
    | [] => none
    | _ :: rest => do
      let place ← place? (cs.takeWhile (· ≠ ']'))
      return .item place :: (← later? fuel rest)
  | _, _ => none

/-- The steps that a key spells. -/
def ofKey (key : String) : List KeyStep :=
  match later? (key.utf8ByteSize + 2) ('.' :: key.toList) with
  | some steps => steps
  | none => [.name key]

end KeyStep

namespace Setting

/-! ## Changing a tree of settings -/

/-- The items of a list; of anything else, none. -/
def items : Setting → List Setting
  | .list items => items
  | _ => []

/-- The list with one item changed; missing ones, before or after, are made. -/
def changeItem (change : Setting → Setting) (items : List Setting) (place : Int) : List Setting :=
  let size : Int := items.length
  if 0 ≤ place then
    -- What lies between the end of the list and the place is left unset.
    let padded := items ++ List.replicate (place.toNat + 1 - items.length) Setting.unset
    padded.modify place.toNat change
  else if 0 ≤ size + place then items.modify (size + place).toNat change
  else (List.replicate (-(size + place)).toNat Setting.unset ++ items).modify 0 change

/-- The settings with a change at the end of some steps. -/
def changeAt (change : Setting → Setting) : List KeyStep → Setting → Setting
  | [], s => change s
  | .name key :: rest, s =>
    .group (Table.insert s.members key
      (changeAt change rest ((Table.get? s.members key).getD .unset)))
  | .item place :: rest, s => .list (changeItem (changeAt change rest) s.items place)

mutual

/-- A setting put over another one. -/
def onto : Setting → Setting → Setting
  | .group incoming, s => .group (membersOnto incoming s.members)
  | incoming, _ => incoming

/-- The members of a group put over other members. -/
def membersOnto : List (String × Setting) → Table String Setting → Table String Setting
  | [], ms => ms
  | (key, s) :: rest, ms =>
    membersOnto rest (Table.insert ms key (onto s ((Table.get? ms key).getD .unset)))

end

/-- The settings with one of them put at a key. -/
def put (s : Setting) (key : String) (incoming : Setting) : Setting :=
  s.changeAt incoming.onto (KeyStep.ofKey key)

/-- The settings with a layer put over them. -/
def layer (s : Setting) (entries : List (String × Setting)) : Setting :=
  entries.foldl (fun s (key, incoming) => s.put key incoming) s

end Setting

end AgentFeed
