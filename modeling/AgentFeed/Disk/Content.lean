/-!
# File contents

The content of a file is a text, or bytes that are no text in UTF-8. Bytes that are a text are
always held as one, so the two forms do not overlap.
-/

namespace AgentFeed

/-- What a file holds. -/
inductive FileContent where
  /-- A text. -/
  | text (s : String)
  /-- Bytes that are no text. -/
  | binary (bytes : List UInt8)
deriving DecidableEq

namespace FileContent

/-- The content with the given bytes. -/
def ofBytes (bytes : List UInt8) : FileContent :=
  match String.fromUTF8? ⟨bytes.toArray⟩ with
  | some s => .text s
  | none => .binary bytes

/-- The text, when the content is one. -/
def text? : FileContent → Option String
  | .text s => some s
  | .binary _ => none

/-- The content with a text behind it. -/
def appendText : FileContent → String → FileContent
  | .text s, t => .text (s ++ t)
  | .binary bytes, t => ofBytes (bytes ++ t.toUTF8.toList)

/-! ## A readable form of any bytes -/

/-- How many bytes a sequence has that starts with a byte, and the range of its second byte. -/
def sequenceShape? (first : UInt8) : Option (Nat × UInt8 × UInt8) :=
  if first < 0x80 then some (1, 0, 0)
  else if 0xC2 ≤ first ∧ first ≤ 0xDF then some (2, 0x80, 0xBF)
  else if first = 0xE0 then some (3, 0xA0, 0xBF)
  else if first = 0xED then some (3, 0x80, 0x9F)
  else if 0xE1 ≤ first ∧ first ≤ 0xEF then some (3, 0x80, 0xBF)
  else if first = 0xF0 then some (4, 0x90, 0xBF)
  else if first = 0xF4 then some (4, 0x80, 0x8F)
  else if 0xF1 ≤ first ∧ first ≤ 0xF3 then some (4, 0x80, 0xBF)
  else none

/-- How many bytes after the first go on with its sequence. -/
def continuationLength (low high : UInt8) : Nat → List UInt8 → Nat
  | 0, _ => 0
  | _, [] => 0
  | n + 1, b :: rest =>
    if low ≤ b ∧ b ≤ high then continuationLength 0x80 0xBF n rest + 1 else 0

/-- The code point of a complete sequence. -/
def codePoint : List UInt8 → Nat
  | [a] => a.toNat
  | [a, b] => (a.toNat % 0x20) * 0x40 + b.toNat % 0x40
  | [a, b, c] => ((a.toNat % 0x10) * 0x40 + b.toNat % 0x40) * 0x40 + c.toNat % 0x40
  | [a, b, c, d] =>
    (((a.toNat % 0x8) * 0x40 + b.toNat % 0x40) * 0x40 + c.toNat % 0x40) * 0x40 + d.toNat % 0x40
  | _ => 0xFFFD

/-- The characters of bytes, a replacement character for each piece that is no sequence; at most
`fuel` characters. -/
def lossyChars : Nat → List UInt8 → List Char
  | 0, _ => []
  | _, [] => []
  | fuel + 1, first :: rest =>
    match sequenceShape? first with
    | none => '\uFFFD' :: lossyChars fuel rest
    | some (size, low, high) =>
      let found := continuationLength low high (size - 1) rest
      let char :=
        if found + 1 = size then Char.ofNat (codePoint (first :: rest.take found)) else '\uFFFD'
      char :: lossyChars fuel (rest.drop found)

/-- The content as a text, whatever it is. -/
def lossyText : FileContent → String
  | .text s => s
  | .binary bytes => String.ofList (lossyChars bytes.length bytes)

end FileContent

end AgentFeed
