import AgentFeed.Json.Printer
import AgentFeed.Json.Token
import Mathlib.Data.List.TakeWhile
import Mathlib.Data.Nat.Init
import Mathlib.Order.Basic

/-!
# Reading back what was written: tokens

The printer writes one text for a string and one for an integer, and the scanner reads each of them
back as one token: `scan_quoted` and `scan_intChars`. A string is read one escape at a time, and a
number as far as its characters go. That is why the text of a number has to be followed by the end
or by a character that is no part of a number (`Stops`), as it is everywhere in a printed value.

Read as a literal, an integer is its digits, and they name the integer again as long as it fits a
machine word (`NumberLiteral.value?_ofInt`).
-/

namespace AgentFeed

/-! ## 1. Integers -/

namespace NumberLiteral

/-- The literal of an integer. -/
def ofInt (n : Int) : NumberLiteral where
  negative := n < 0
  whole := (Nat.toDigits 10 n.natAbs).map digitValue
  fraction := []
  exponent := none

/-- The digits of a positive number do not start with a zero. -/
theorem head?_toDigits_ne_zero {n : Nat} (hpos : 0 < n) :
    (Nat.toDigits 10 n).head? ≠ some '0' := by
  induction n using Nat.strong_induction_on with
  | _ n ih =>
    rw [Nat.toDigits_eq_if (by decide)]
    split
    · next hlt =>
      have hdigit : ∀ d < 10, 0 < d → Nat.digitChar d ≠ '0' := by decide
      intro hhead
      rw [List.head?_cons, Option.some.injEq] at hhead
      exact hdigit n hlt hpos hhead
    · next hge =>
      have hsmaller := ih (n / 10) (by omega) (by omega)
      cases hdigits : Nat.toDigits 10 (n / 10) with
      | nil => exact absurd hdigits Nat.toDigits_ne_nil
      | cons d rest =>
        rw [hdigits] at hsmaller
        exact hsmaller

theorem unsigned?_toDigits (negative : Bool) (n : Nat) :
    unsigned? negative (Nat.toDigits 10 n)
      = some { negative, whole := (Nat.toDigits 10 n).map digitValue, fraction := [],
               exponent := none } := by
  have hdigits : ∀ c ∈ Nat.toDigits 10 n, c.isDigit = true :=
    fun c hc => Nat.isDigit_of_mem_toDigits (by decide) (by decide) hc
  have htake : (Nat.toDigits 10 n).takeWhile Char.isDigit = Nat.toDigits 10 n :=
    List.takeWhile_eq_self_iff.2 hdigits
  have hdrop : (Nat.toDigits 10 n).dropWhile Char.isDigit = [] :=
    List.dropWhile_eq_nil_iff.2 hdigits
  -- Only zero itself is written with a zero in front.
  have hzero : ¬((Nat.toDigits 10 n).head? = some '0' ∧ Nat.toDigits 10 n ≠ ['0']) := by
    rintro ⟨hhead, hmore⟩
    rcases Nat.eq_zero_or_pos n with rfl | hpos
    · exact hmore rfl
    · exact head?_toDigits_ne_zero hpos hhead
  have hne : Nat.toDigits 10 n ≠ [] := Nat.toDigits_ne_nil
  rw [unsigned?, htake, hdrop, if_neg (not_or.2 ⟨hne, hzero⟩)]
  rfl

theorem ofChars?_intChars (n : Int) : ofChars? (intChars n) = some (ofInt n) := by
  rw [intChars, ofInt]
  by_cases hneg : n < 0
  · rw [if_pos hneg, ofChars?, unsigned?_toDigits, decide_eq_true hneg]
  · rw [if_neg hneg, decide_eq_false hneg, ← unsigned?_toDigits, ofChars?]
    intro rest heq
    have hdigit : '-'.isDigit = true := by
      refine Nat.isDigit_of_mem_toDigits (b := 10) (n := n.natAbs) (by decide) (by decide) ?_
      rw [heq]
      exact List.mem_cons_self
    exact absurd hdigit (by decide)

/-- Reading on never makes a significand smaller. -/
theorem le_foldl_digits (significand : Nat) (digits : List Nat) :
    significand ≤ digits.foldl (fun n d => 10 * n + d) significand := by
  induction digits generalizing significand with
  | nil => exact Nat.le_refl _
  | cons d rest ih =>
    have hnext : significand ≤ 10 * significand + d := by omega
    exact hnext.trans (ih (10 * significand + d))

/-- No digit is dropped of a whole part that fits. -/
theorem absorbWhole_of_le (significand : Nat) (digits : List Nat)
    (h : digits.foldl (fun n d => 10 * n + d) significand ≤ significandLimit) :
    absorbWhole significand digits
      = (digits.foldl (fun n d => 10 * n + d) significand, 0) := by
  induction digits generalizing significand with
  | nil => rfl
  | cons d rest ih =>
    rw [List.foldl_cons, Nat.mul_comm] at h ⊢
    have hfits : significand * 10 + d ≤ significandLimit :=
      (le_foldl_digits (significand * 10 + d) rest).trans h
    rw [absorbWhole, if_pos hfits, ih _ h]

theorem foldl_toDigits (n : Nat) :
    ((Nat.toDigits 10 n).map digitValue).foldl (fun n d => 10 * n + d) 0 = n := by
  have hvalue := Nat.ofDigitChars_toDigits (b := 10) (n := n) (by decide) (by decide)
  rw [Nat.ofDigitChars_eq_foldl] at hvalue
  rw [List.foldl_map]
  exact hvalue

/-- **The literal of an integer that fits a word denotes the integer.** -/
theorem value?_ofInt {n : Int} (h : -Int.pow 2 63 ≤ n ∧ n < Int.pow 2 64) :
    (ofInt n).value? = some (.integer n) := by
  obtain ⟨hlow, hhigh⟩ := h
  have h63 : Int.pow 2 63 = 9223372036854775808 := by decide
  have h64 : Int.pow 2 64 = 18446744073709551616 := by decide
  have hlimit : significandLimit = 18446744073709551615 := by decide
  have h63' : Nat.pow 2 63 = 9223372036854775808 := by decide
  have hfits : n.natAbs ≤ significandLimit := by omega
  have habsorb := absorbWhole_of_le 0 ((Nat.toDigits 10 n.natAbs).map digitValue)
    (by rw [foldl_toDigits]; exact hfits)
  rw [foldl_toDigits] at habsorb
  rw [value?, ofInt, habsorb]
  by_cases hneg : n < 0
  · have hsize : 0 < n.natAbs ∧ n.natAbs ≤ Nat.pow 2 63 := by omega
    have hvalue : -(n.natAbs : Int) = n := by omega
    simp only [decide_eq_true hneg, true_and, hsize, and_self, if_true, hvalue]
    rfl
  · have hvalue : (n.natAbs : Int) = n := by omega
    simp only [decide_eq_false hneg, true_and, and_self, if_true, hvalue]

end NumberLiteral

/-! ## 2. Strings -/

namespace TextUnit

/-- The units of a string that is written without surrogates. -/
def ofString (s : String) : List TextUnit :=
  s.toList.map .char

theorem string?_ofString (s : String) : string? (ofString s) = some s := by
  have hjoin : ∀ cs : List Char, join? (cs.map .char) = some cs := by
    intro cs
    induction cs with
    | nil => rfl
    | cons c rest ih => rw [List.map_cons, join?, ih, Option.map_some]
  rw [string?, ofString, hjoin, Option.map_some, String.ofList_toList]

end TextUnit

namespace JsonToken

/-- The two digits that a control character is escaped with name it. -/
theorem hex4?_control {n : Nat} (h : n < 32) :
    hex4? '0' '0' (Nat.digitChar (n / 16)) (Nat.digitChar (n % 16)) = some n := by
  have hall : ∀ m < 32,
      hex4? '0' '0' (Nat.digitChar (m / 16)) (Nat.digitChar (m % 16)) = some m := by decide
  exact hall n h

/-- An escaped character is read as the character. -/
theorem scanText_escapeChar (found : List JsonToken) (units : List TextUnit) (c : Char)
    (rest : List Char) :
    scanText found units (Json.escapeChar c ++ rest) = scanText found (.char c :: units) rest := by
  rw [Json.escapeChar]
  by_cases hquote : c = '"'
  · rw [if_pos hquote, hquote]
    simp [scanText, escaped?]
  rw [if_neg hquote]
  by_cases hslash : c = '\\'
  · rw [if_pos hslash, hslash]
    simp [scanText, escaped?]
  rw [if_neg hslash]
  by_cases hback : c = '\x08'
  · rw [if_pos hback, hback]
    simp [scanText, escaped?]
  rw [if_neg hback]
  by_cases htab : c = '\t'
  · rw [if_pos htab, htab]
    simp [scanText, escaped?]
  rw [if_neg htab]
  by_cases hline : c = '\n'
  · rw [if_pos hline, hline]
    simp [scanText, escaped?]
  rw [if_neg hline]
  by_cases hpage : c = '\x0c'
  · rw [if_pos hpage, hpage]
    simp [scanText, escaped?]
  rw [if_neg hpage]
  by_cases hreturn : c = '\r'
  · rw [if_pos hreturn, hreturn]
    simp [scanText, escaped?]
  rw [if_neg hreturn]
  by_cases hcontrol : c.toNat < 0x20
  · have hcode : TextUnit.ofCode c.toNat = .char c := by
      rw [TextUnit.ofCode, if_neg (by omega), Char.ofNat_toNat]
    rw [if_pos hcontrol]
    simp only [List.cons_append, List.nil_append]
    rw [scanText, hex4?_control hcontrol]
    simp only [hcode]
  · rw [if_neg hcontrol, List.singleton_append, scanText]
    · rw [if_neg (not_or.2 ⟨hslash, hcontrol⟩)]
    · exact hquote
    · intro a b d e tail heq
      exact absurd heq hslash
    · intro e tail heq
      exact absurd heq hslash

theorem scanText_flatMap (found : List JsonToken) (units : List TextUnit) (cs rest : List Char) :
    scanText found units (cs.flatMap Json.escapeChar ++ '"' :: rest)
      = scan (.text (units.reverse ++ cs.map .char) :: found) rest := by
  induction cs generalizing units with
  | nil =>
    rw [List.flatMap_nil, List.nil_append, scanText, List.map_nil, List.append_nil]
  | cons c tail ih =>
    rw [List.flatMap_cons, List.append_assoc, scanText_escapeChar, ih, List.reverse_cons,
      List.append_assoc]
    rfl

/-- **A string in quotes is read as its characters**, whatever follows. -/
theorem scan_quoted (found : List JsonToken) (s : String) (rest : List Char) :
    scan found (Json.quoted s ++ rest) = scan (.text (TextUnit.ofString s) :: found) rest := by
  rw [Json.quoted, List.cons_append, List.cons_append, List.append_assoc, scan]
  exact scanText_flatMap found [] s.toList rest

/-! ## 3. Numbers -/

/-- The end of a text, or a character that is a token or a blank by itself. -/
def Stops : List Char → Prop
  | [] => True
  | c :: _ => (single? c).isSome = true

/-- Such a character is read by itself. -/
theorem scan_single (found : List JsonToken) {c : Char} {tokens : List JsonToken}
    (h : single? c = some tokens) (rest : List Char) :
    scan found (c :: rest) = scan (tokens ++ found) rest := by
  have hne : ∀ d, single? d = none → c ≠ d := by
    rintro d hnone rfl
    rw [h] at hnone
    cases hnone
  rw [scan, h]
  · exact hne '"' rfl
  · exact fun tail heq => absurd heq (hne 't' rfl)
  · exact fun tail heq => absurd heq (hne 'f' rfl)
  · exact fun tail heq => absurd heq (hne 'n' rfl)

/-- A character of a number is no token by itself, and starts neither a string nor a word. -/
theorem not_single_of_isNumberChar {c : Char} (h : isNumberChar c = true) : single? c = none := by
  fun_cases single? c
  all_goals first | rfl | exact absurd h (by decide)

theorem scanNumber_append (found : List JsonToken) (read cs rest : List Char)
    (h : ∀ c ∈ cs, isNumberChar c = true) :
    scanNumber found read (cs ++ rest) = scanNumber found (cs.reverse ++ read) rest := by
  induction cs generalizing read with
  | nil => rfl
  | cons c tail ih =>
    obtain ⟨hc, htail⟩ := List.forall_mem_cons.1 h
    rw [List.cons_append, scanNumber, if_pos hc, ih _ htail, List.reverse_cons, List.append_assoc]
    rfl

/-- **A literal is read as a number** where it stops. -/
theorem scan_number (found : List JsonToken) {cs : List Char} {literal : NumberLiteral}
    (hliteral : NumberLiteral.ofChars? cs = some literal) (hne : cs ≠ [])
    (hchars : ∀ c ∈ cs, isNumberChar c = true) {rest : List Char} (hstops : Stops rest) :
    scan found (cs ++ rest) = scan (.number literal :: found) rest := by
  obtain ⟨c, tail, rfl⟩ := List.exists_cons_of_ne_nil hne
  obtain ⟨hc, htail⟩ := List.forall_mem_cons.1 hchars
  have hread : ((tail.reverse ++ [c]).reverse : List Char) = c :: tail := by
    rw [List.reverse_append, List.reverse_reverse]
    rfl
  have hstart : scan found (c :: (tail ++ rest)) = scanNumber found [c] (tail ++ rest) := by
    rw [scan, not_single_of_isNumberChar hc]
    · simp only [hc, if_true]
    · rintro rfl
      exact absurd hc (by decide)
    all_goals
      intro _ heq
      rw [heq] at hc
      exact absurd hc (by decide)
  rw [List.cons_append, hstart, scanNumber_append found [c] tail rest htail]
  cases rest with
  | nil =>
    rw [scanNumber, hread, hliteral, Option.map_some, scan]
  | cons d after =>
    obtain ⟨tokens, htokens⟩ := Option.isSome_iff_exists.1 hstops
    have hd : ¬isNumberChar d = true := by
      intro hd
      rw [not_single_of_isNumberChar hd] at htokens
      cases htokens
    rw [scanNumber, if_neg hd, hread, hliteral, htokens, scan_single _ htokens]

theorem isNumberChar_of_mem_intChars {n : Int} {c : Char} (h : c ∈ intChars n) :
    isNumberChar c = true := by
  have hdigit : ∀ c ∈ Nat.toDigits 10 n.natAbs, isNumberChar c = true := by
    intro c hc
    rw [isNumberChar, Nat.isDigit_of_mem_toDigits (by decide) (by decide) hc]
    rfl
  rw [intChars] at h
  split at h
  · rcases List.mem_cons.1 h with rfl | hc
    · rfl
    · exact hdigit c hc
  · exact hdigit c h

/-- **An integer is read as its literal** where it stops. -/
theorem scan_intChars (found : List JsonToken) (n : Int) {rest : List Char} (hstops : Stops rest) :
    scan found (intChars n ++ rest) = scan (.number (.ofInt n) :: found) rest := by
  refine scan_number found (NumberLiteral.ofChars?_intChars n) ?_
    (fun c hc => isNumberChar_of_mem_intChars hc) hstops
  have hdigits : Nat.toDigits 10 n.natAbs ≠ [] := Nat.toDigits_ne_nil
  rw [intChars]
  split
  · exact List.cons_ne_nil _ _
  · exact hdigits

end JsonToken

end AgentFeed
