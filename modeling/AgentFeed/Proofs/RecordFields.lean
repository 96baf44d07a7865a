import AgentFeed.Json.Record
import AgentFeed.Proofs.Table

/-!
# What reading a record depends on

A record is read by asking an object for the fields it declares, one by one. So two objects that
agree on those (`Json.AgreeOn`) are read alike: the order of the members, and members that are not
declared, do not matter. `Json.ReadsOnly` says this of a reader.

An optional field of any type is where reading and writing differ. It is written whenever it has a
value, and `null` is a value; but read, a `null` is a field that is not there. So what is written
comes back without its nulls (`Json.dropNull`).
-/

namespace AgentFeed

namespace Json

/-! ## 1. Declared fields -/

/-- Two values have the same members under some names. -/
def AgreeOn (names : List String) (v w : Json) : Prop :=
  ∀ name ∈ names, v.member? name = w.member? name

namespace AgreeOn

variable {names : List String} {v w : Json}

theorem mono {fewer : List String} (h : AgreeOn names v w) (hsubset : fewer ⊆ names) :
    AgreeOn fewer v w :=
  fun name hname => h name (hsubset hname)

variable {members : Table String Json} {name : String}

/-- A member put into an object changes it under its name only. -/
theorem insert (hname : name ∉ names) (value : Json) :
    AgreeOn names (.object members) (.object (members.insert name value)) := by
  intro other hother
  have hne : name ≠ other := fun heq => hname (heq ▸ hother)
  exact (Table.get?_insert_of_ne members value hne).symm

/-- A member taken out of an object changes it under its name only. -/
theorem erase (hname : name ∉ names) :
    AgreeOn names (.object members) (.object (members.erase name)) := by
  intro other hother
  have hne : name ≠ other := fun heq => hname (heq ▸ hother)
  exact (Table.get?_erase_of_ne members hne).symm

variable {s t : Table String Json}

/-- A declared field that must be there is read alike. -/
theorem need?_eq (h : AgreeOn names (.object s) (.object t)) (hname : name ∈ names) {α : Type}
    (read : Json → Option α) : t.need? name read = s.need? name read :=
  congrArg (·.bind read) (h name hname).symm

end AgreeOn

/-! ## 2. Readers -/

/-- Of an object, a reader looks at no members but the declared ones. Which ones these are may depend
on the object: on its tag, say. -/
def ReadsOnly {α : Type} (declared : Json → List String) (read : Json → α) : Prop :=
  ∀ s t : Table String Json, AgreeOn (declared (.object s)) (.object s) (.object t) →
    read (.object t) = read (.object s)

namespace ReadsOnly

variable {α : Type} {declared : Json → List String} {read : Json → α}
  {members : Table String Json} {name : String}

theorem insert (h : ReadsOnly declared read) (hname : name ∉ declared (.object members))
    (value : Json) : read (.object (members.insert name value)) = read (.object members) :=
  h members _ (.insert hname value)

theorem erase (h : ReadsOnly declared read) (hname : name ∉ declared (.object members)) :
    read (.object (members.erase name)) = read (.object members) :=
  h members _ (.erase hname)

end ReadsOnly

/-! ## 3. Single fields -/

theorem nat?_ofNat (n : Nat) : (ofNat n).nat? = some n := by
  rw [ofNat, ofInt, nat?, if_pos (Int.natCast_nonneg n), Int.toNat_natCast]

/-- An optional value as it is read back: `null` says that there is none. -/
def dropNull (value : Option Json) : Option Json :=
  value.filter fun v => !v.isNull

theorem dropNull_eq_self_iff {value : Option Json} : dropNull value = value ↔ value ≠ some .null := by
  cases value with
  | none => simp [dropNull]
  | some v => cases v <;> simp [dropNull, isNull]

end Json

/-- A field of any type is read as its value, unless that is `null`. -/
theorem Table.option?_any (fields : Table String Json) (name : String) :
    fields.option? name Json.any? = some (Json.dropNull (fields.get? name)) := by
  rw [option?]
  cases fields.get? name with
  | none => rfl
  | some v => cases v <;> rfl

end AgentFeed
