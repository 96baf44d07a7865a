import AgentFeed.Number.Binary64

/-!
# Shortest decimal text of a double

The digits of a double are the fewest that read back as it and, among those, the nearest to its
exact value. For one, two, up to seventeen digits the two neighbours of the value on that decimal
grid are tested against the interval of reals that round to the double; the first grid with a hit
gives the digits. All of it is exact arithmetic on naturals.

How the digits are laid out (positional or with an exponent) is a `DecimalStyle`.
-/

namespace AgentFeed

/-- The decimal `digits × 10 ^ exponent`. -/
structure Decimal where
  /-- The digits, read as a natural. -/
  digits : Nat
  /-- The power of ten that the last digit counts. -/
  exponent : Int
deriving DecidableEq, Repr

/-- The reals that round to one magnitude, in quarters of a unit. -/
structure RoundingInterval where
  /-- The magnitude itself. -/
  centre : Nat
  /-- The lower end. -/
  low : Nat
  /-- The upper end. -/
  high : Nat
  /-- Whether the ends belong to it; they do when the significand is even. -/
  closed : Bool

namespace Binary64

/-! ## 1. The interval -/

/-- The interval around a magnitude: half the spacing upward, and half the spacing below
downward. -/
def roundingInterval (units : Nat) : RoundingInterval :=
  let step := spacing units
  let below := if units = Nat.pow 2 52 * step ∧ 1 < step then step else 2 * step
  { centre := 4 * units
    low := 4 * units - below
    high := 4 * units + 2 * step
    closed := units / step % 2 = 0 }

/-- Whether a natural lies in the interval stretched by a factor. -/
def RoundingInterval.holds (interval : RoundingInterval) (factor point : Nat) : Bool :=
  if interval.closed then
    interval.low * factor ≤ point && point ≤ interval.high * factor
  else
    interval.low * factor < point && point < interval.high * factor

/-! ## 2. The digits -/

/-- The exponent of the leading decimal digit of a positive magnitude. -/
def leadingExponent (units : Nat) : Int :=
  let binary : Int := (Nat.log2 units : Int) - 1074
  let estimate := (binary * 30103) / 100000
  let next := estimate + 1
  let reached :=
    if 0 ≤ next then Nat.pow 10 next.toNat * Nat.pow 2 1074 ≤ units
    else Nat.pow 2 1074 ≤ units * Nat.pow 10 (-next).toNat
  if reached then next else estimate

/-- The decimal of the given number of digits nearest to a magnitude, if it reads back. -/
def decimalOnGrid (units count : Nat) : Option Decimal :=
  let interval := roundingInterval units
  let exponent := leadingExponent units - count + 1
  let up := if 0 ≤ exponent then Nat.pow 10 exponent.toNat else 1
  let down := if 0 ≤ exponent then 1 else Nat.pow 10 (-exponent).toNat
  let unit := up * Nat.pow 2 1076
  let centre := interval.centre * down
  let floor := centre / unit
  let lowHit := RoundingInterval.holds interval down (floor * unit)
  let highHit := RoundingInterval.holds interval down ((floor + 1) * unit)
  let toLow := centre - floor * unit
  let toHigh := (floor + 1) * unit - centre
  if lowHit && highHit then
    if toLow < toHigh || (toLow == toHigh && floor % 2 == 0) then some ⟨floor, exponent⟩
    else some ⟨floor + 1, exponent⟩
  else if lowHit then some ⟨floor, exponent⟩
  else if highHit then some ⟨floor + 1, exponent⟩
  else none

/-- A decimal without trailing zeros; at most `fuel` of them are dropped. -/
def dropTrailingZeros : Nat → Decimal → Decimal
  | 0, d => d
  | fuel + 1, d =>
    if d.digits ≠ 0 ∧ d.digits % 10 = 0 then
      dropTrailingZeros fuel ⟨d.digits / 10, d.exponent + 1⟩
    else d

/-- The fewest digits that read back as a positive magnitude, the nearest of those. -/
def shortestDecimal (units : Nat) : Decimal :=
  match (List.range 17).findSome? fun i => decimalOnGrid units (i + 1) with
  | some d => dropTrailingZeros 17 d
  | none => ⟨0, 0⟩

end Binary64

/-! ## 3. The layout -/

/-- How the digits of a double are written. -/
structure DecimalStyle where
  /-- The exponents of the leading digit, lowest and highest, that are written positionally;
  nothing when all are. -/
  positional : Option (Int × Int)
  /-- Whether a whole number ends in `.0`. -/
  keepsPoint : Bool
  /-- Whether a positive exponent has a plus sign. -/
  plusSign : Bool

namespace DecimalStyle

/-- A decimal written without an exponent. -/
def positionalText (style : DecimalStyle) (digits : List Char) (exponent : Int) : List Char :=
  let count := digits.length
  if 0 ≤ exponent then
    digits ++ List.replicate exponent.toNat '0' ++ (if style.keepsPoint then ['.', '0'] else [])
  else
    let places := (-exponent).toNat
    if places < count then
      digits.take (count - places) ++ '.' :: digits.drop (count - places)
    else
      '0' :: '.' :: List.replicate (places - count) '0' ++ digits

/-- A decimal written as one digit, a fraction and an exponent. -/
def exponentText (style : DecimalStyle) (digits : List Char) (leading : Int) : List Char :=
  let fraction :=
    match digits.drop 1 with
    | [] => []
    | rest => '.' :: rest
  let sign := if leading < 0 then ['-'] else if style.plusSign then ['+'] else []
  digits.take 1 ++ fraction ++ 'e' :: sign ++ Nat.toDigits 10 leading.natAbs

/-- The text of a double in a style. -/
def write (style : DecimalStyle) (d : Binary64) : List Char :=
  let sign := if d.negative then ['-'] else []
  if d.units = 0 then
    sign ++ '0' :: (if style.keepsPoint then ['.', '0'] else [])
  else
    let shortest := Binary64.shortestDecimal d.units
    let digits := Nat.toDigits 10 shortest.digits
    let leading : Int := shortest.exponent + digits.length - 1
    let inRange :=
      match style.positional with
      | none => true
      | some (lowest, highest) => lowest ≤ leading && leading ≤ highest
    sign ++
      if inRange then style.positionalText digits shortest.exponent
      else style.exponentText digits leading

end DecimalStyle

end AgentFeed
