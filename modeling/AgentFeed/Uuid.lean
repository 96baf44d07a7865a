/-!
# Random identifiers

The usual text of a random identifier of 128 bits: 32 lower-case hexadecimal digits in groups of 8,
4, 4, 4 and 12. Six of the bits are not random: the thirteenth digit is the version, 4, and the two
highest bits of the seventeenth are `10`.
-/

namespace AgentFeed.Uuid

/-- The number of digits in each group. -/
def groups : List Nat :=
  [8, 4, 4, 4, 12]

/-- The place of the digit that holds the version. -/
def versionPlace : Nat := 12

/-- The place of the digit that holds the variant. -/
def variantPlace : Nat := 16

/-- The digit at a place, made from random bits. -/
def digit (random : Nat → Nat) (place : Nat) : Char :=
  if place = versionPlace then '4'
  else if place = variantPlace then Nat.digitChar (8 + random place % 4)
  else Nat.digitChar (random place % 16)

/-- Digits from a place on, in groups with a hyphen between two of them. -/
def grouped (digit : Nat → Char) (place : Nat) : List Nat → List Char
  | [] => []
  | [size] => (List.range size).map fun i => digit (place + i)
  | size :: rest =>
    (List.range size).map (fun i => digit (place + i)) ++ '-' :: grouped digit (place + size) rest

/-- The text of an identifier made from random bits. -/
def text (random : Nat → Nat) : String :=
  String.ofList (grouped (digit random) 0 groups)

/-- Whether a character is a lower-case hexadecimal digit. -/
def isDigit (c : Char) : Bool :=
  ('0' ≤ c && c ≤ '9') || ('a' ≤ c && c ≤ 'f')

/-- Whether the digits with their places, hyphens being left out, are those of a random identifier. -/
def digitsFit (digits : List Char) : Bool :=
  digits.all isDigit && digits[versionPlace]? == some '4'
    && (digits[variantPlace]?.any fun c => c = '8' || c = '9' || c = 'a' || c = 'b')

/-- Whether hyphens separate groups of the right sizes. -/
def groupsFit : List Nat → List Char → Bool
  | [], cs => cs.isEmpty
  | [size], cs => cs.length = size && !cs.contains '-'
  | size :: rest, cs =>
    !(cs.take size).contains '-' && cs[size]? == some '-' && groupsFit rest (cs.drop (size + 1))

/-- Whether a text is that of a random identifier. -/
def isVersion4 (s : String) : Bool :=
  groupsFit groups s.toList && digitsFit (s.toList.filter (· ≠ '-'))

end AgentFeed.Uuid
