import AgentFeed.Number.Integer
import AgentFeed.Number.Shortest
import AgentFeed.Table
import AgentFeed.Text.LowerCase

/-!
# Setting values

The untyped value of a setting, wherever it comes from: a configuration file, the environment, or
the program itself. `count?` and `text?` are the two readings that settings need; both are generous,
so a count may be written as a text, and a text as a number.
-/

namespace AgentFeed

/-- A real number as settings know it. -/
inductive SettingReal where
  | finite (d : Binary64)
  | infinite (negative : Bool)
  | notANumber
deriving DecidableEq

/-- An untyped setting. -/
inductive Setting where
  /-- Nothing is set. -/
  | unset
  | flag (b : Bool)
  | integer (n : Int)
  | real (x : SettingReal)
  | text (s : String)
  | list (items : List Setting)
  /-- Settings under names. -/
  | group (members : List (String × Setting))

/-- Reals in settings are written without an exponent, whole ones without a point. -/
def SettingReal.style : DecimalStyle :=
  { positional := none, keepsPoint := false, plusSign := false }

/-- The text of a real. -/
def SettingReal.text : SettingReal → String
  | .finite d => String.ofList (style.write d)
  | .infinite negative => if negative then "-inf" else "inf"
  | .notANumber => "NaN"

/-- The greatest count. -/
def Setting.greatestCount : Nat := Nat.pow 2 64 - 1

/-- The count nearest to a real. -/
def SettingReal.count : SettingReal → Nat
  | .finite d => if d.negative then 0 else min (Binary64.roundUnits d.units) Setting.greatestCount
  | .infinite negative => if negative then 0 else Setting.greatestCount
  | .notANumber => 0

namespace Setting

/-- The count that a text writes in digits, a plus sign allowed. -/
def decimalCount? (text : String) : Option Nat :=
  let digits :=
    match text.toList with
    | '+' :: digits => digits
    | digits => digits
  (Digits.nat? 10 digits).filter (· ≤ greatestCount)

/-- The count that a text stands for: a word for yes is one, a word for no is zero. -/
def textCount? (text : String) : Option Nat :=
  let word := Text.lower text
  if word = "true" ∨ word = "on" ∨ word = "yes" then some 1
  else if word = "false" ∨ word = "off" ∨ word = "no" then some 0
  else decimalCount? text

/-- The setting as a count. -/
def count? : Setting → Option Nat
  | .flag b => some (if b then 1 else 0)
  | .integer n => if 0 ≤ n then some n.toNat else none
  | .real x => some x.count
  | .text s => textCount? s
  | _ => none

/-- The setting as a text. -/
def text? : Setting → Option String
  | .flag b => some (if b then "true" else "false")
  | .integer n => some (String.ofList (intChars n))
  | .real x => some x.text
  | .text s => some s
  | _ => none

/-- The members of a group; of anything else, none. -/
def members : Setting → Table String Setting
  | .group members => members
  | _ => []

end Setting

end AgentFeed
