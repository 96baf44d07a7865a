import AgentFeed.Json.Basic
import AgentFeed.Number.Integer

/-!
# JSON tokens

A JSON text is a sequence of tokens with blanks between them. Strings and numbers stay as they
were written: a string is a list of units, each a character or half of a surrogate pair from an
escape, and a number is its literal. What they denote, if anything, is asked later
(`TextUnit.join?`, `NumberLiteral.value?`), so a text can be well formed although one of its
strings names no characters or one of its numbers is out of range.
-/

namespace AgentFeed

/-! ## 1. Number literals -/

/-- A number as it was written. -/
structure NumberLiteral where
  /-- Whether it starts with a minus sign. -/
  negative : Bool
  /-- The digits before the point. -/
  whole : List Nat
  /-- The digits after the point; empty when there is no point. -/
  fraction : List Nat
  /-- The exponent, when one is written. -/
  exponent : Option Int
deriving DecidableEq

namespace NumberLiteral

/-- The value of a decimal digit. -/
def digitValue (c : Char) : Nat :=
  c.toNat - '0'.toNat

/-- The natural that a list of digits writes. -/
def digitsValue (digits : List Nat) : Nat :=
  digits.foldl (fun n d => 10 * n + d) 0

/-- An exponent and nothing after it. -/
def exponent? : List Char → Option (Option Int)
  | [] => some none
  | e :: rest =>
    if e = 'e' ∨ e = 'E' then
      let (negative, digits) :=
        match rest with
        | '+' :: digits => (false, digits)
        | '-' :: digits => (true, digits)
        | digits => (false, digits)
      if digits ≠ [] ∧ digits.all Char.isDigit then
        let n : Int := digitsValue (digits.map digitValue)
        some (some (if negative then -n else n))
      else none
    else none

/-- A fraction in front of the rest of a literal: its digits, and what follows them. -/
def fraction? : List Char → Option (List Char × List Char)
  | '.' :: rest =>
    if rest.takeWhile Char.isDigit = [] then none
    else some (rest.takeWhile Char.isDigit, rest.dropWhile Char.isDigit)
  | rest => some ([], rest)

/-- The literal, without its sign, that a list of characters spells. A leading zero stands alone,
and a point or an exponent mark is followed by a digit. -/
def unsigned? (negative : Bool) (cs : List Char) : Option NumberLiteral :=
  let whole := cs.takeWhile Char.isDigit
  if whole = [] ∨ (whole.head? = some '0' ∧ whole ≠ ['0']) then none
  else do
    let (fraction, rest) ← fraction? (cs.dropWhile Char.isDigit)
    let exponent ← exponent? rest
    return { negative, whole := whole.map digitValue, fraction := fraction.map digitValue, exponent }

/-- The literal that a list of characters spells. -/
def ofChars? : List Char → Option NumberLiteral
  | '-' :: rest => unsigned? true rest
  | rest => unsigned? false rest

/-- The largest significand kept while digits are read. -/
def significandLimit : Nat := Nat.pow 2 64 - 1

/-- The digits before the point as a significand, and how many of them no longer fitted. -/
def absorbWhole (significand : Nat) : List Nat → Nat × Nat
  | [] => (significand, 0)
  | d :: rest =>
    if significand * 10 + d ≤ significandLimit then absorbWhole (significand * 10 + d) rest
    else (significand, rest.length + 1)

/-- The significand with as many digits after the point as fit, and how many those are. -/
def absorbFraction (significand : Nat) : List Nat → Nat × Nat
  | [] => (significand, 0)
  | d :: rest =>
    if significand * 10 + d ≤ significandLimit then
      let (s, taken) := absorbFraction (significand * 10 + d) rest
      (s, taken + 1)
    else (significand, 0)

/-- The number that a literal denotes, or nothing when it is beyond the largest double. A literal
without point and exponent is an integer if it fits a word; `-0` is the negative zero. -/
def value? (l : NumberLiteral) : Option JsonNumber :=
  let (whole, dropped) := absorbWhole 0 l.whole
  -- A whole part that lost digits is too large for a word.
  let isInteger := l.fraction = [] ∧ l.exponent = none ∧ dropped = 0
  if isInteger ∧ l.negative = false then some (.integer whole)
  else if isInteger ∧ 0 < whole ∧ whole ≤ Nat.pow 2 63 then some (.integer (-whole))
  else
    let (significand, taken) := absorbFraction whole l.fraction
    -- Each digit dropped before the point counts ten times, each taken after it a tenth.
    let exponent : Int := l.exponent.getD 0 + dropped - taken
    (Binary64.scaleByTen significand exponent).map fun units => .double ⟨l.negative, units⟩

end NumberLiteral

/-! ## 2. String units -/

/-- One unit of a written string. -/
inductive TextUnit where
  /-- A character, written as itself or by an escape. -/
  | char (c : Char)
  /-- Half of a surrogate pair, written by an escape. -/
  | surrogate (code : Nat)
deriving DecidableEq

namespace TextUnit

/-- The unit that four hexadecimal digits name. -/
def ofCode (code : Nat) : TextUnit :=
  if 0xD800 ≤ code ∧ code ≤ 0xDFFF then .surrogate code else .char (Char.ofNat code)

/-- The characters of a list of units, or nothing when a surrogate has no partner. -/
def join? : List TextUnit → Option (List Char)
  | [] => some []
  | .char c :: rest => (join? rest).map (c :: ·)
  | .surrogate high :: .surrogate low :: rest =>
    if high < 0xDC00 ∧ 0xDC00 ≤ low then
      (join? rest).map (Char.ofNat ((high - 0xD800) * 0x400 + (low - 0xDC00) + 0x10000) :: ·)
    else none
  | .surrogate _ :: _ => none

/-- The string that a list of units names. -/
def string? (units : List TextUnit) : Option String :=
  (join? units).map String.ofList

end TextUnit

/-! ## 3. The scanner -/

/-- A token of a JSON text. -/
inductive JsonToken where
  | openArray
  | closeArray
  | openObject
  | closeObject
  | comma
  | colon
  | null
  | bool (b : Bool)
  | number (literal : NumberLiteral)
  | text (units : List TextUnit)
deriving DecidableEq

namespace JsonToken

/-- The token that one character is; a blank is none. Nothing for a character that starts
something longer. -/
def single? : Char → Option (List JsonToken)
  | ' ' => some []
  | '\t' => some []
  | '\n' => some []
  | '\r' => some []
  | '[' => some [.openArray]
  | ']' => some [.closeArray]
  | '{' => some [.openObject]
  | '}' => some [.closeObject]
  | ',' => some [.comma]
  | ':' => some [.colon]
  | _ => none

/-- A character that can stand in a number literal. -/
def isNumberChar (c : Char) : Bool :=
  c.isDigit || c = '-' || c = '+' || c = '.' || c = 'e' || c = 'E'

/-- The number that four hexadecimal digits write. -/
def hex4? (a b c d : Char) : Option Nat :=
  Digits.nat? 16 [a, b, c, d]

/-- The character that a one-letter escape stands for. -/
def escaped? : Char → Option Char
  | '"' => some '"'
  | '\\' => some '\\'
  | '/' => some '/'
  | 'b' => some '\x08'
  | 'f' => some '\x0c'
  | 'n' => some '\n'
  | 'r' => some '\r'
  | 't' => some '\t'
  | _ => none

mutual

/-- The tokens of a text, after those already found. -/
def scan (found : List JsonToken) : List Char → Option (List JsonToken)
  | [] => some found.reverse
  | '"' :: rest => scanText found [] rest
  | 't' :: 'r' :: 'u' :: 'e' :: rest => scan (.bool true :: found) rest
  | 'f' :: 'a' :: 'l' :: 's' :: 'e' :: rest => scan (.bool false :: found) rest
  | 'n' :: 'u' :: 'l' :: 'l' :: rest => scan (.null :: found) rest
  | c :: rest =>
    match single? c with
    | some tokens => scan (tokens ++ found) rest
    | none => if isNumberChar c then scanNumber found [c] rest else none

/-- The rest of a string, given its units so far in reverse. -/
def scanText (found : List JsonToken) (units : List TextUnit) : List Char → Option (List JsonToken)
  | [] => none
  | '"' :: rest => scan (.text units.reverse :: found) rest
  | '\\' :: 'u' :: a :: b :: c :: d :: rest =>
    match hex4? a b c d with
    | some code => scanText found (TextUnit.ofCode code :: units) rest
    | none => none
  | '\\' :: e :: rest =>
    match escaped? e with
    | some c => scanText found (.char c :: units) rest
    | none => none
  | c :: rest =>
    if c = '\\' ∨ c.toNat < 0x20 then none else scanText found (.char c :: units) rest

/-- The rest of a number, given its characters so far in reverse. -/
def scanNumber (found : List JsonToken) (cs : List Char) : List Char → Option (List JsonToken)
  | [] =>
    (NumberLiteral.ofChars? cs.reverse).map fun literal => (JsonToken.number literal :: found).reverse
  | c :: rest =>
    if isNumberChar c then scanNumber found (c :: cs) rest
    else
      match NumberLiteral.ofChars? cs.reverse, single? c with
      | some literal, some tokens => scan (tokens ++ .number literal :: found) rest
      | _, _ => none

end

/-- The tokens of a text, or nothing when some part of it is no token. -/
def ofChars? (cs : List Char) : Option (List JsonToken) :=
  scan [] cs

end JsonToken

end AgentFeed
