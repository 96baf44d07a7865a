/-!
# Doubles

The finite IEEE 754 doubles. A magnitude is a whole number of units, the unit being the smallest
positive double `2^-1074`, so comparing and rounding are arithmetic on naturals and no double has
two forms.

`nearestUnits` rounds a quotient of naturals to the nearest magnitude, a tie going to the even
significand. Products, quotients and the reading of a decimal are each a call of it.
-/

namespace AgentFeed

/-- A finite double: a sign and a magnitude in units of `2^-1074`. -/
structure Binary64 where
  /-- The sign bit; a zero has one too. -/
  negative : Bool
  /-- The magnitude, as a multiple of the smallest positive double. -/
  units : Nat
deriving DecidableEq, Repr

namespace Binary64

/-! ## 1. Rounding -/

/-- The distance from a magnitude to the next larger one: one unit while the significand has at
most 53 bits, and the matching power of two from there on. -/
def spacing (units : Nat) : Nat :=
  if units < Nat.pow 2 53 then 1 else Nat.pow 2 (Nat.log2 units - 52)

/-- The natural nearest to `num / den`; of two equally near ones, the even one. -/
def roundHalfEven (num den : Nat) : Nat :=
  let quotient := num / den
  let rest := num % den
  if 2 * rest < den then quotient
  else if den < 2 * rest then quotient + 1
  else if quotient % 2 = 0 then quotient
  else quotient + 1

/-- The magnitude nearest to `num / den`, or nothing when that is beyond the largest double. -/
def nearestUnits (num den : Nat) : Option Nat :=
  let scaled := num * Nat.pow 2 1074
  let step := spacing (scaled / den)
  let units := roundHalfEven scaled (den * step) * step
  if units < Nat.pow 2 2098 then some units else none

/-- The product of two magnitudes, rounded. -/
def mulUnits (a b : Nat) : Option Nat :=
  nearestUnits (a * b) (Nat.pow 2 2148)

/-- The quotient of two magnitudes, rounded. -/
def divUnits (a b : Nat) : Option Nat :=
  nearestUnits a b

/-- The magnitude nearest to `10 ^ n`; every power up to `10 ^ 308` has one. -/
def powerOfTen (n : Nat) : Nat :=
  (nearestUnits (Nat.pow 10 n) 1).getD 0

/-! ## 2. Reading a decimal

A decimal is read by rounding its digits first and scaling the result by a rounded power of ten,
so the last bit may differ from that of the nearest double. An exponent below `-308` is applied in
two steps; below `-616` nothing is left of any significand of 64 bits. -/

/-- The magnitude that `significand × 10 ^ exponent` reads as, or nothing when it is too large. -/
def scaleByTen (significand : Nat) (exponent : Int) : Option Nat :=
  let start := (nearestUnits significand 1).getD 0
  if start = 0 then some 0
  else if 308 < exponent then none
  else if 0 ≤ exponent then mulUnits start (powerOfTen exponent.toNat)
  else if -308 ≤ exponent then divUnits start (powerOfTen (-exponent).toNat)
  else
    match divUnits start (powerOfTen 308) with
    | none => none
    | some reduced =>
      if -616 ≤ exponent then divUnits reduced (powerOfTen (-exponent - 308).toNat)
      else some 0

/-- The magnitude nearest to `significand × 10 ^ exponent`, or nothing when it is too large. The
number of digits tells when the exact quotient need not be formed. -/
def nearestDecimal (significand : Nat) (exponent : Int) : Option Nat :=
  let size : Int := (Nat.toDigits 10 significand).length + exponent
  if significand = 0 ∨ size < -400 then some 0
  else if 400 < size then none
  else if 0 ≤ exponent then nearestUnits (significand * Nat.pow 10 exponent.toNat) 1
  else nearestUnits significand (Nat.pow 10 (-exponent).toNat)

/-! ## 3. The nearest integer -/

/-- The natural nearest to a magnitude, a half going up. -/
def roundUnits (units : Nat) : Nat :=
  (2 * units + Nat.pow 2 1074) / Nat.pow 2 1075

end Binary64

end AgentFeed
