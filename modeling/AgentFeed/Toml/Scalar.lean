import AgentFeed.Settings.Value
import AgentFeed.Toml.Text

/-!
# Scalars in TOML

Truth values, numbers and times, each of which is one word: `Toml.scalar?` reads the word that a
text starts with. Digits may have underscores between them. A time counts as a text here, in its
normal form.
-/

namespace AgentFeed.Toml

/-! ## 1. Numbers -/

/-- Digits without their underscores, each of which must stand between two digits. -/
def ungroup? : List Char → Option (List Char)
  | [] => none
  | [c] => if c = '_' then none else some [c]
  | c :: '_' :: rest =>
    if c = '_' ∨ rest.head? = some '_' then none else (ungroup? rest).map (c :: ·)
  | c :: rest => if c = '_' then none else (ungroup? rest).map (c :: ·)

/-- The sign in front of a number, and what follows it. -/
def splitSign : List Char → Bool × List Char
  | '-' :: rest => (true, rest)
  | '+' :: rest => (false, rest)
  | rest => (false, rest)

/-- Whether digits are those of a decimal integer: a zero at the start stands alone. -/
def isWholePart (digits : List Char) : Bool :=
  digits ≠ [] && digits.all Char.isDigit && (digits.head? ≠ some '0' || digits.length = 1)

/-- An integer of 64 bits. -/
def word? (n : Int) : Option Setting :=
  if -Int.pow 2 63 ≤ n ∧ n < Int.pow 2 63 then some (.integer n) else none

/-- An integer in a base other than ten. -/
def basedInteger? (base : Nat) (cs : List Char) : Option Setting := do
  let n ← Digits.nat? base (← ungroup? cs)
  word? n

/-- A decimal integer. -/
def decimalInteger? (cs : List Char) : Option Setting := do
  let (negative, digits) := splitSign cs
  let digits ← ungroup? digits
  if isWholePart digits then
    let n ← Digits.nat? 10 digits
    word? (if negative then -(n : Int) else n)
  else none

/-- The exponent that stands after its mark. -/
def exponentOf? (cs : List Char) : Option Int := do
  let (negative, digits) := splitSign cs
  let n ← Digits.nat? 10 (← ungroup? digits)
  return if negative then -(n : Int) else n

/-- Whether a character marks an exponent. -/
def isExponentMark (c : Char) : Bool :=
  c = 'e' || c = 'E'

/-- A decimal real: it has a fraction or an exponent. -/
def decimalReal? (cs : List Char) : Option Setting := do
  let (negative, body) := splitSign cs
  let mantissa := body.takeWhile fun c => !isExponentMark c
  let whole ← ungroup? (mantissa.takeWhile (· ≠ '.'))
  let fraction ←
    match mantissa.dropWhile (· ≠ '.') with
    | [] => some []
    | _ :: digits => ungroup? digits
  let exponent ←
    match body.dropWhile fun c => !isExponentMark c with
    | [] => if fraction = [] then none else some 0
    | _ :: digits => exponentOf? digits
  if isWholePart whole ∧ fraction.all Char.isDigit then
    let significand ← Digits.nat? 10 (whole ++ fraction)
    let units ← Binary64.nearestDecimal significand (exponent - fraction.length)
    return .real (.finite ⟨negative, units⟩)
  else none

/-- A number that is no decimal. -/
def specialNumber? : List Char → Option Setting
  | '0' :: 'x' :: rest => basedInteger? 16 rest
  | '0' :: 'o' :: rest => basedInteger? 8 rest
  | '0' :: 'b' :: rest => basedInteger? 2 rest
  | cs =>
    let (negative, word) := splitSign cs
    if word = ['i', 'n', 'f'] then some (.real (.infinite negative))
    else if word = ['n', 'a', 'n'] then some (.real .notANumber)
    else none

/-! ## 2. Times -/

/-- The number of two digits if it lies in a range. -/
def twoDigits? (low high : Nat) (a b : Char) : Option Nat :=
  (Digits.nat? 10 [a, b]).filter fun n => low ≤ n && n ≤ high

/-- How many days a month has. -/
def daysInMonth (year month : Nat) : Nat :=
  if month = 2 then
    if year % 4 = 0 ∧ (year % 100 ≠ 0 ∨ year % 400 = 0) then 29 else 28
  else if month = 4 ∨ month = 6 ∨ month = 9 ∨ month = 11 then 30
  else 31

/-- A date at the start of a text, and what follows it. -/
def date? : List Char → Option (List Char × List Char)
  | y1 :: y2 :: y3 :: y4 :: '-' :: m1 :: m2 :: '-' :: d1 :: d2 :: rest => do
    let year ← Digits.nat? 10 [y1, y2, y3, y4]
    let month ← twoDigits? 1 12 m1 m2
    let _ ← twoDigits? 1 (daysInMonth year month) d1 d2
    return ([y1, y2, y3, y4, '-', m1, m2, '-', d1, d2], rest)
  | _ => none

/-- A fraction of a second in its normal form: at most nine digits, no zeros at the end but the
first. -/
def normalFraction (digits : List Char) : List Char :=
  match ((digits.take 9).reverse.dropWhile (· = '0')).reverse with
  | [] => ['0']
  | kept => kept

/-- A fraction of a second at the start of a text, and what follows it. -/
def secondFraction? : List Char → Option (List Char × List Char)
  | '.' :: rest =>
    let digits := rest.takeWhile Char.isDigit
    if digits = [] then none
    else some ('.' :: normalFraction digits, rest.dropWhile Char.isDigit)
  | rest => some ([], rest)

/-- A time of day at the start of a text, and what follows it; its seconds may be left out. -/
def clockTime? : List Char → Option (List Char × List Char)
  | h1 :: h2 :: ':' :: m1 :: m2 :: rest => do
    let _ ← twoDigits? 0 23 h1 h2
    let _ ← twoDigits? 0 59 m1 m2
    match rest with
    | ':' :: s1 :: s2 :: rest =>
      let _ ← twoDigits? 0 60 s1 s2
      let (fraction, rest) ← secondFraction? rest
      return ([h1, h2, ':', m1, m2, ':', s1, s2] ++ fraction, rest)
    | rest => return ([h1, h2, ':', m1, m2], rest)
  | _ => none

/-- The distance from universal time that a whole text states, if it states one. -/
def offset? : List Char → Option (List Char)
  | [] => some []
  | ['Z'] => some ['Z']
  | ['z'] => some ['Z']
  | [sign, h1, h2, ':', m1, m2] => do
    let hours ← twoDigits? 0 23 h1 h2
    let minutes ← twoDigits? 0 59 m1 m2
    if sign = '+' ∨ sign = '-' then
      -- No distance is never negative.
      let sign := if hours = 0 ∧ minutes = 0 then '+' else sign
      return [sign, h1, h2, ':', m1, m2]
    else none
  | _ => none

/-- A date, a time of day, or both, in normal form. -/
def time? (cs : List Char) : Option (List Char) :=
  match date? cs with
  | none =>
    match clockTime? cs with
    | some (time, []) => some time
    | _ => none
  | some (date, []) => some date
  | some (date, c :: rest) => do
    if c = 'T' ∨ c = 't' ∨ c = ' ' then
      let (time, rest) ← clockTime? rest
      let offset ← offset? rest
      return date ++ 'T' :: time ++ offset
    else none

/-! ## 3. Any scalar -/

/-- A character of a scalar. -/
def isScalarChar (c : Char) : Bool :=
  c.isAlphanum || c = '+' || c = '-' || c = '_' || c = '.' || c = ':'

/-- The scalar that a word is. -/
def scalarOf? (word : List Char) : Option Setting :=
  if word = ['t', 'r', 'u', 'e'] then some (.flag true)
  else if word = ['f', 'a', 'l', 's', 'e'] then some (.flag false)
  else
    (specialNumber? word).or <| (decimalInteger? word).or <| (decimalReal? word).or <|
      (time? word).map fun t => .text (String.ofList t)

/-- The scalar that a text starts with. A blank between a date and a time of day belongs to it. -/
def scalar? (cs : List Char) : Option (Setting × List Char) :=
  let word := cs.takeWhile isScalarChar
  let rest := cs.dropWhile isScalarChar
  match date? word, rest with
  | some (_, []), ' ' :: d :: more =>
    if d.isDigit then
      let later := (d :: more).takeWhile isScalarChar
      (scalarOf? (word ++ ' ' :: later)).map (·, (d :: more).dropWhile isScalarChar)
    else (scalarOf? word).map (·, rest)
  | _, _ => (scalarOf? word).map (·, rest)

end AgentFeed.Toml
