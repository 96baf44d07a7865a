import AgentFeed.Number.Binary64
import AgentFeed.Number.Integer

/-!
# Strings in YAML

A string is written plain when that is safe, and otherwise in the simplest form that is: between
apostrophes, as a block of lines, or between double quotes with escapes.

Two things make the plain form unsafe. The text may read as something else (`readsAsOther`: a number,
a truth value, nothing at all), or it may hold characters that mean something where they stand
(`TextShape`).
-/

namespace AgentFeed.Yaml

/-! ## 1. Texts that read as something else -/

/-- The words for nothing, for truth values, and for reals that have no digits. -/
def reservedWords : List String :=
  ["", "~", "null", "Null", "NULL",
    "true", "True", "TRUE", "false", "False", "FALSE",
    ".inf", ".Inf", ".INF", "+.inf", "+.Inf", "+.INF", "-.inf", "-.Inf", "-.INF",
    ".nan", ".NaN", ".NAN"]

/-- A text without a sign at its start. -/
def withoutSign : List Char → List Char
  | '+' :: rest => rest
  | '-' :: rest => rest
  | cs => cs

/-- Whether a text is an integer of 128 bits in a base other than ten. -/
def isBasedInteger (cs : List Char) : Bool :=
  let fits (base : Nat) (digits : List Char) : Bool :=
    (Digits.nat? base digits).any fun n =>
      if cs.head? = some '-' then n ≤ Nat.pow 2 127 else n < Nat.pow 2 128
  match withoutSign cs with
  | '0' :: 'x' :: digits => fits 16 digits
  | '0' :: 'o' :: digits => fits 8 digits
  | '0' :: 'b' :: digits => fits 2 digits
  | _ => false

/-- The exponent after its mark. -/
def exponent? (cs : List Char) : Option Int :=
  (Digits.nat? 10 (withoutSign cs)).map fun n => if cs.head? = some '-' then -(n : Int) else n

/-- Whether a text without a sign is a decimal number that is not too large for a double. -/
def isDecimal (cs : List Char) : Bool :=
  let whole := cs.takeWhile Char.isDigit
  let (fraction, rest) :=
    match cs.dropWhile Char.isDigit with
    | '.' :: rest => (rest.takeWhile Char.isDigit, rest.dropWhile Char.isDigit)
    | rest => ([], rest)
  let exponent :=
    match rest with
    | [] => some 0
    | e :: digits => if e = 'e' ∨ e = 'E' then exponent? digits else none
  match Digits.nat? 10 (whole ++ fraction), exponent with
  | some significand, some exponent =>
    (Binary64.nearestDecimal significand (exponent - fraction.length)).isSome
  | _, _ => false

/-- Whether a text without quotes would not read as itself. -/
def readsAsOther (s : String) : Bool :=
  reservedWords.contains s || isBasedInteger s.toList || isDecimal (withoutSign s.toList)

/-! ## 2. Characters that mean something -/

/-- A line break. -/
def isBreak (c : Char) : Bool :=
  c = '\n' || c = '\r' || c = '\u0085' || c = '\u2028' || c = '\u2029'

/-- A blank, a line break, or the end of a text. -/
def isBlankOrEnd : Option Char → Bool
  | none => true
  | some c => c = ' ' || c = '\t' || c = '\x00' || isBreak c

/-- A character that needs no escape. -/
def isPrintable (c : Char) : Bool :=
  let n := c.toNat
  n = 0xA || (0x20 ≤ n && n ≤ 0x7E)
    || (0xA0 ≤ n && n ≠ 0xFEFF && n ≠ 0xFFFE && n ≠ 0xFFFF)

/-- A character that cannot start a plain text. -/
def isIndicator (c : Char) : Bool :=
  ['#', ',', '[', ']', '\x7b', '\x7d', '&', '*', '!', '|', '>', '\x27', '\x22', '%', '@',
    '\x60'].contains c

/-- Whether a character means something between its neighbours. -/
def isMeaningful (before : Option Char) (c : Char) (after : Option Char) : Bool :=
  (c = ':' && isBlankOrEnd after)
    || match before with
      | none => isIndicator c || ((c = '?' || c = '-') && isBlankOrEnd after)
      | some _ => c = '#' && isBlankOrEnd before

/-- Whether some character of a text means something, given the character before the text. -/
def hasMeaningful (before : Option Char) : List Char → Bool
  | [] => false
  | c :: rest => isMeaningful before c rest.head? || hasMeaningful (some c) rest

/-- Whether some two neighbours in a text satisfy a test. -/
def hasNeighbours (test : Char → Char → Bool) : List Char → Bool
  | a :: b :: rest => test a b || hasNeighbours test (b :: rest)
  | _ => false

/-- The forms that a text allows. -/
structure TextShape where
  /-- It has a line break. -/
  multiline : Bool
  /-- It may be plain. -/
  plain : Bool
  /-- It may stand between apostrophes. -/
  single : Bool
  /-- It may be a block of lines. -/
  block : Bool
deriving DecidableEq

/-- The forms that a list of characters allows. -/
def TextShape.ofChars (cs : List Char) : TextShape :=
  let spaceOrBreak (c : Option Char) := c.any fun c => c = ' ' || isBreak c
  let multiline := cs.any isBreak
  let breakSpace := hasNeighbours (fun a b => isBreak a && b = ' ') cs
  let needsEscape := cs.any (fun c => !isPrintable c)
    || hasNeighbours (fun a b => a = ' ' && isBreak b) cs
  { multiline
    plain := !(multiline || needsEscape || spaceOrBreak cs.head? || spaceOrBreak cs.getLast?
      || hasMeaningful none cs || ['-', '-', '-'].isPrefixOf cs || ['.', '.', '.'].isPrefixOf cs)
    single := !(breakSpace || needsEscape)
    -- A blank at the very end would be lost with the last line.
    block := cs ≠ [] && !needsEscape && cs.getLast? ≠ some ' ' }

/-! ## 3. The written forms -/

/-- Spaces up to a column. -/
def pad (indent : Nat) : List Char :=
  List.replicate indent ' '

/-- The letter of an escape that has one. -/
def escapeLetter? (c : Char) : Option Char :=
  match c.toNat with
  | 0x00 => some '0'
  | 0x07 => some 'a'
  | 0x08 => some 'b'
  | 0x09 => some 't'
  | 0x0A => some 'n'
  | 0x0B => some 'v'
  | 0x0C => some 'f'
  | 0x0D => some 'r'
  | 0x1B => some 'e'
  | 0x22 => some '\x22'
  | 0x5C => some '\\'
  | 0x85 => some 'N'
  | 0x2028 => some 'L'
  | 0x2029 => some 'P'
  | _ => none

/-- A code point in upper-case hexadecimal with a number of digits. -/
def hexDigits (width code : Nat) : List Char :=
  let digits := (Nat.toDigits 16 code).map Char.toUpper
  List.replicate (width - digits.length) '0' ++ digits

/-- One character between double quotes. -/
def escapeChar (c : Char) : List Char :=
  if isPrintable c && !isBreak c && c ≠ '\x22' && c ≠ '\\' then [c]
  else
    match escapeLetter? c with
    | some letter => ['\\', letter]
    | none =>
      if c.toNat ≤ 0xFF then '\\' :: 'x' :: hexDigits 2 c.toNat
      else if c.toNat ≤ 0xFFFF then '\\' :: 'u' :: hexDigits 4 c.toNat
      else '\\' :: 'U' :: hexDigits 8 c.toNat

/-- A text between double quotes. -/
def doubleQuoted (cs : List Char) : List Char :=
  '\x22' :: cs.flatMap escapeChar ++ ['\x22']

/-- A text between apostrophes, those in it written twice. What follows a line break is indented. -/
def singleQuotedFrom (indent : Nat) (afterBreak : Bool) : List Char → List Char
  | [] => if afterBreak then pad indent ++ ['\x27'] else ['\x27']
  | c :: rest =>
    if isBreak c then c :: singleQuotedFrom indent true rest
    else
      (if afterBreak then pad indent else []) ++ (if c = '\x27' then ['\x27', '\x27'] else [c])
        ++ singleQuotedFrom indent false rest

/-- A text between apostrophes. -/
def singleQuoted (indent : Nat) (cs : List Char) : List Char :=
  '\x27' :: singleQuotedFrom indent false cs

/-- The marks behind the bar of a block: a number when the first line starts with a blank, and a sign
for the line breaks at the end. -/
def blockMarks (cs : List Char) : List Char :=
  let leading := if cs.head?.any fun c => c = ' ' || isBreak c then ['2'] else []
  let trailing :=
    match cs.reverse with
    | [] => ['-']
    | last :: earlier =>
      if !isBreak last then ['-']
      else if earlier.head?.all isBreak then ['+']
      else []
  leading ++ trailing

/-- The lines of a block. -/
def blockLines (indent : Nat) (afterBreak : Bool) : List Char → List Char
  | [] => if afterBreak then [] else ['\n']
  | c :: rest =>
    if isBreak c then c :: blockLines indent true rest
    else (if afterBreak then pad indent else []) ++ c :: blockLines indent false rest

/-- A text as a block of lines. -/
def block (indent : Nat) (cs : List Char) : List Char :=
  '|' :: blockMarks cs ++ '\n' :: blockLines indent true cs

/-- A string and the end of its line. `indent` is where further lines start. -/
def string (indent : Nat) (s : String) : List Char :=
  let cs := s.toList
  let shape := TextShape.ofChars cs
  -- Lines stay lines where a block can hold them, and are escaped where it cannot.
  if cs.contains '\n' then
    if shape.block then block indent cs else doubleQuoted cs ++ ['\n']
  else if shape.plain && !readsAsOther s then cs ++ ['\n']
  else if shape.single then singleQuoted indent cs ++ ['\n']
  else doubleQuoted cs ++ ['\n']

/-- A string as a key on one line, if it is short enough for that. -/
def simpleKey? (s : String) : Option (List Char) :=
  let cs := s.toList
  let shape := TextShape.ofChars cs
  if shape.multiline || 128 < s.utf8ByteSize then none
  else if shape.plain && !readsAsOther s then some cs
  else if shape.single then some (singleQuoted 0 cs)
  else some (doubleQuoted cs)

end AgentFeed.Yaml
