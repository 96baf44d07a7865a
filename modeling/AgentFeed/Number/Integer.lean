/-!
# Integers as text

Integers in decimal, and naturals read from digits in a base up to sixteen.
-/

namespace AgentFeed

/-- The digits of an integer, after a minus sign if it is negative. -/
def intChars (n : Int) : List Char :=
  if n < 0 then '-' :: Nat.toDigits 10 n.natAbs else Nat.toDigits 10 n.natAbs

namespace Digits

/-- The value of a digit, whatever its case. -/
def value? (c : Char) : Option Nat :=
  if '0' ≤ c ∧ c ≤ '9' then some (c.toNat - '0'.toNat)
  else if 'a' ≤ c ∧ c ≤ 'f' then some (c.toNat - 'a'.toNat + 10)
  else if 'A' ≤ c ∧ c ≤ 'F' then some (c.toNat - 'A'.toNat + 10)
  else none

/-- The value of a digit of a base. -/
def valueIn? (base : Nat) (c : Char) : Option Nat :=
  (value? c).filter (· < base)

/-- The natural that digits of a base write, after those read already. -/
def read? (base : Nat) (start : Nat) : List Char → Option Nat
  | [] => some start
  | c :: rest =>
    match valueIn? base c with
    | some d => read? base (start * base + d) rest
    | none => none

/-- The natural that one or more digits of a base write. -/
def nat? (base : Nat) (cs : List Char) : Option Nat :=
  if cs = [] then none else read? base 0 cs

end Digits

end AgentFeed
