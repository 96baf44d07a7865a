import AgentFeed.Tool.Line
import Mathlib.Data.List.TakeWhile

/-!
# The grammar of tool lines

A tool line is the word `tool`, a mark, blanks, a name, blanks and a rest that stays on its line.
The reader cuts the parts out from the left and never looks back (`afterMark?`). The grammar says
less: it asks what the parts are made of, and for an expression that is matched by trying, each part
could also be cut shorter.

That makes no difference. Whatever way of cutting there is, the one where every part is as long as
can be is one too (`Parts.Matches.longest_matches`), since what a part gives up only makes the rest longer,
and a line feed in a rest is one in every longer rest. So the reader finds the way that is tried
first, and it is the only one in which the name and the blanks are whole.
-/

namespace AgentFeed

/-! ## 1. Cutting texts -/

namespace Text

variable {q : Char → Bool}

theorem not_of_head?_dropWhile {cs : List Char} {c : Char}
    (h : (cs.dropWhile q).head? = some c) : q c = false := by
  have hnot := List.head?_dropWhile_not q cs
  rw [h] at hnot
  exact hnot

/-- A run of characters of a class ends where one stands that is none. -/
theorem cut_append {run rest : List Char} (hrun : ∀ c ∈ run, q c = true)
    (hrest : ∀ c, rest.head? = some c → q c = false) :
    (run ++ rest).takeWhile q = run ∧ (run ++ rest).dropWhile q = rest := by
  rw [List.takeWhile_append_of_pos hrun, List.dropWhile_append_of_pos hrun]
  cases rest with
  | nil => exact ⟨List.append_nil run, rfl⟩
  | cons c more =>
    have hc : ¬q c = true := by
      rw [hrest c rfl]
      decide
    rw [List.takeWhile_cons_of_neg hc, List.dropWhile_cons_of_neg hc]
    exact ⟨List.append_nil run, rfl⟩

theorem dropWhile_eq_self {cs : List Char} (h : ∀ c, cs.head? = some c → q c = false) :
    cs.dropWhile q = cs :=
  (cut_append (List.forall_mem_nil _) h).2

/-- The end of a trimmed text has nothing to trim, unless it begins with a blank. -/
theorem trimChars_of_suffix {line cs rest : List Char} (htext : trimChars line = cs ++ rest)
    (hfirst : ∀ c, rest.head? = some c → isBlank c = false) : trimChars rest = rest := by
  have hright : rest.reverse.dropWhile isBlank = rest.reverse := by
    refine dropWhile_eq_self fun c hc => ?_
    have hend : (trimLeft line).reverse.dropWhile isBlank = rest.reverse ++ cs.reverse := by
      rw [← List.reverse_append, ← htext, trimChars, trimRight, List.reverse_reverse]
    have hhead : ((trimLeft line).reverse.dropWhile isBlank).head? = some c := by
      rw [hend, List.head?_append, hc, Option.some_or]
    exact not_of_head?_dropWhile hhead
  rw [trimChars, trimLeft, dropWhile_eq_self hfirst, trimRight, hright, List.reverse_reverse]

end Text

/-! ## 2. Parts of a line -/

theorem ToolLineMark.ofChar?_eq_some_iff {c : Char} {mark : ToolLineMark} :
    ofChar? c = some mark ↔ c = mark.char := by
  constructor
  · intro h
    rw [ofChar?] at h
    split at h
    next hstart =>
      cases h
      exact hstart
    next =>
      split at h
      next hfinish =>
        cases h
        exact hfinish
      next => cases h
  · rintro rfl
    cases mark <;> rfl

namespace ToolLine

theorem isNameChar_eq_false_iff {c : Char} :
    isNameChar c = false ↔ Text.isBlank c = true ∨ c = '{' ∨ c = '[' := by
  rw [isNameChar, Bool.and_eq_false_iff, Bool.and_eq_false_iff, Bool.not_eq_false',
    decide_eq_false_iff_not, decide_eq_false_iff_not, not_not, not_not, or_assoc]

theorem isNameChar_of_blank {c : Char} (h : Text.isBlank c = true) : isNameChar c = false :=
  isNameChar_eq_false_iff.2 (.inl h)

theorem isBlank_of_isNameChar {c : Char} (h : isNameChar c = true) : Text.isBlank c = false := by
  rw [← Bool.not_eq_true]
  intro hblank
  rw [isNameChar_of_blank hblank] at h
  cases h

/-- The parts that a tool line is made of. -/
structure Parts where
  /-- Which half of a call the line reports. -/
  mark : ToolLineMark
  /-- The blanks after the mark. -/
  gap : List Char
  /-- The name. -/
  name : List Char
  /-- The blanks after the name. -/
  space : List Char
  /-- What follows. -/
  rest : List Char

namespace Parts

/-- What stands behind the mark. -/
def tail (p : Parts) : List Char :=
  p.gap ++ (p.name ++ (p.space ++ p.rest))

/-- The line. -/
def chars (p : Parts) : List Char :=
  't' :: 'o' :: 'o' :: 'l' :: p.mark.char :: p.tail

/-- Every part is made of the characters it may have. -/
structure Matches (p : Parts) : Prop where
  /-- There are blanks after the mark. -/
  gap_ne_nil : p.gap ≠ []
  /-- They are blanks. -/
  gap_blank : ∀ c ∈ p.gap, Text.isBlank c = true
  /-- There is a name. -/
  name_ne_nil : p.name ≠ []
  /-- It has no blank, no opening brace and no opening bracket. -/
  name_chars : ∀ c ∈ p.name, isNameChar c = true
  /-- Blanks follow, if anything. -/
  space_blank : ∀ c ∈ p.space, Text.isBlank c = true
  /-- The rest stays on its line. -/
  rest_line : '\n' ∉ p.rest

/-- The grammar of tool lines: the name is not cut short either. -/
structure IsLine (p : Parts) : Prop extends Matches p where
  /-- There is no rest, or the name ends where a blank, a brace or a bracket stands. -/
  name_ends : p.rest = [] ∨ ∃ c, (p.space ++ p.rest).head? = some c ∧
    (Text.isBlank c = true ∨ c = '{' ∨ c = '[')

/-- The blanks after the name are not cut short. -/
def IsFull (p : Parts) : Prop :=
  ∀ c, p.rest.head? = some c → Text.isBlank c = false

/-- What the rest says: nothing if it is empty, its value if it is JSON, and itself otherwise. -/
def payload? (p : Parts) : Option Json :=
  if p.rest = [] then none
  else some ((Json.parse? (String.ofList p.rest)).getD (.string (String.ofList p.rest)))

/-- The call that the parts report. -/
def call (p : Parts) : ToolLine where
  mark := p.mark
  name := String.ofList p.name
  payload := p.payload?

/-! ## 3. The longest parts -/

/-- The parts of a line when each is as long as can be, from the left. -/
def longest (mark : ToolLineMark) (cs : List Char) : Parts :=
  let fromName := cs.dropWhile Text.isBlank
  let behindName := fromName.dropWhile isNameChar
  { mark
    gap := cs.takeWhile Text.isBlank
    name := fromName.takeWhile isNameChar
    space := behindName.takeWhile Text.isBlank
    rest := behindName.dropWhile Text.isBlank }

theorem tail_longest (mark : ToolLineMark) (cs : List Char) : (longest mark cs).tail = cs := by
  simp only [tail, longest, List.takeWhile_append_dropWhile]

theorem isFull_longest (mark : ToolLineMark) (cs : List Char) : (longest mark cs).IsFull :=
  fun _ hc => Text.not_of_head?_dropWhile hc

variable {p : Parts} {mark : ToolLineMark} {cs : List Char}

/-- The blanks in front of a name end where the name begins. -/
theorem Matches.cut_gap (h : p.Matches) :
    p.tail.takeWhile Text.isBlank = p.gap ∧
      p.tail.dropWhile Text.isBlank = p.name ++ (p.space ++ p.rest) := by
  refine Text.cut_append h.gap_blank fun c hc => ?_
  obtain ⟨first, more, hname⟩ := List.exists_cons_of_ne_nil h.name_ne_nil
  rw [hname, List.cons_append, List.head?_cons] at hc
  obtain rfl := Option.some.inj hc
  exact isBlank_of_isNameChar (h.name_chars _ (hname ▸ List.mem_cons_self))

/-- What follows the longest name is the end of what follows any. -/
theorem Matches.rest_longest_suffix (h : p.Matches) :
    (longest p.mark p.tail).rest <:+ p.rest := by
  obtain ⟨-, hfrom⟩ := h.cut_gap
  rw [longest]
  simp only [hfrom]
  rw [List.dropWhile_append_of_pos h.name_chars]
  cases hspace : p.space with
  | nil =>
    rw [List.nil_append]
    exact (List.dropWhile_suffix _).trans (List.dropWhile_suffix _)
  | cons c more =>
    -- A blank ends the name, so only blanks are dropped.
    have hblank := h.space_blank
    rw [hspace] at hblank
    have hc : ¬isNameChar c = true := by
      rw [isNameChar_of_blank (hblank c List.mem_cons_self)]
      decide
    rw [List.cons_append, List.dropWhile_cons_of_neg hc, ← List.cons_append,
      List.dropWhile_append_of_pos hblank]
    exact List.dropWhile_suffix _

/-- **If parts match, the longest do**: what a part gives up only makes the rest longer. -/
theorem Matches.longest_matches (h : p.Matches) : (longest p.mark p.tail).Matches := by
  obtain ⟨hgap, hfrom⟩ := h.cut_gap
  constructor
  · rw [Parts.longest]
    simp only [hgap]
    exact h.gap_ne_nil
  · exact fun c hc => List.mem_takeWhile_imp hc
  · obtain ⟨c, more, hname⟩ := List.exists_cons_of_ne_nil h.name_ne_nil
    have hc : isNameChar c = true := h.name_chars c (hname ▸ List.mem_cons_self)
    rw [Parts.longest]
    simp only [hfrom, hname, List.cons_append, List.takeWhile_cons_of_pos hc]
    exact List.cons_ne_nil _ _
  · exact fun c hc => List.mem_takeWhile_imp hc
  · exact fun c hc => List.mem_takeWhile_imp hc
  · exact fun hmem => h.rest_line (h.rest_longest_suffix.subset hmem)

theorem isLine_longest (h : (longest mark cs).Matches) : (longest mark cs).IsLine where
  toMatches := h
  name_ends := by
    simp only [longest, List.takeWhile_append_dropWhile]
    cases hbehind : (cs.dropWhile Text.isBlank).dropWhile isNameChar with
    | nil => exact .inl rfl
    | cons c more =>
      have hends : isNameChar c = false := Text.not_of_head?_dropWhile (congrArg List.head? hbehind)
      exact .inr ⟨c, rfl, isNameChar_eq_false_iff.1 hends⟩

/-- The name of a line is followed by nothing that could stand in it. -/
theorem IsLine.not_isNameChar (h : p.IsLine) {c : Char}
    (hc : (p.space ++ p.rest).head? = some c) : isNameChar c = false := by
  rcases h.name_ends with hrest | ⟨other, hother, hends⟩
  · rw [hrest, List.append_nil] at hc
    exact isNameChar_of_blank (h.space_blank c (List.mem_of_mem_head? hc))
  · obtain rfl := Option.some.inj (hother.symm.trans hc)
    exact isNameChar_eq_false_iff.2 hends

/-- **A line has one whole reading**: parts of which none is cut short are the longest. -/
theorem IsLine.eq_longest (h : p.IsLine) (hfull : p.IsFull) : p = longest p.mark p.tail := by
  obtain ⟨hgap, hfrom⟩ := h.cut_gap
  obtain ⟨hname, hbehind⟩ := Text.cut_append h.name_chars fun c hc => h.not_isNameChar hc
  obtain ⟨hspace, hrest⟩ := Text.cut_append h.space_blank hfull
  rw [longest]
  simp only [hgap, hfrom, hname, hbehind, hspace, hrest]

/-! ## 4. The reader -/

/-- The reader trims what follows the blanks, which does nothing in a trimmed text. -/
theorem payload?_rest {line : List Char} (hchars : p.chars = Text.trimChars line)
    (hfull : p.IsFull) : ToolLine.payload? p.rest = p.payload? := by
  have htext : Text.trimChars line
      = 't' :: 'o' :: 'o' :: 'l' :: p.mark.char :: (p.gap ++ (p.name ++ p.space)) ++ p.rest := by
    rw [← hchars, chars, tail]
    simp only [List.cons_append, List.append_assoc]
  rw [ToolLine.payload?, Text.trimChars_of_suffix htext hfull, payload?]
  cases p.rest with
  | nil => rfl
  | cons c more => rfl

/-- What the reader asks of the longest parts. -/
theorem matches_longest_iff : (longest mark cs).Matches ↔
    (cs.dropWhile Text.isBlank).length < cs.length ∧ (longest mark cs).name ≠ [] ∧
      '\n' ∉ (longest mark cs).rest := by
  have hlength : (cs.takeWhile Text.isBlank).length + (cs.dropWhile Text.isBlank).length
      = cs.length := by
    rw [← List.length_append, List.takeWhile_append_dropWhile]
  constructor
  · intro h
    have hpos : 0 < (cs.takeWhile Text.isBlank).length := List.length_pos_iff.2 h.gap_ne_nil
    exact ⟨by omega, h.name_ne_nil, h.rest_line⟩
  · rintro ⟨hshorter, hname, hrest⟩
    have hpos : 0 < (cs.takeWhile Text.isBlank).length := by omega
    exact ⟨List.length_pos_iff.1 hpos, fun c hc => List.mem_takeWhile_imp hc, hname,
      fun c hc => List.mem_takeWhile_imp hc, fun c hc => List.mem_takeWhile_imp hc, hrest⟩

/-- **The reader finds the longest parts**, if they match. -/
theorem afterMark?_eq_some_iff {line : ToolLine} :
    afterMark? mark cs = some line ↔ (longest mark cs).Matches ∧
      line =
        { mark
          name := String.ofList (longest mark cs).name
          payload := ToolLine.payload? (longest mark cs).rest } := by
  rw [matches_longest_iff, afterMark?]
  dsimp only [longest]
  split
  next hcut => rw [Option.some.injEq, and_iff_right hcut, eq_comm]
  next hcut => exact iff_of_false (fun h => nomatch h) fun h => hcut h.1

/-- A tool line begins with the word and a mark; the reader goes on behind it. -/
theorem ofTrimmed?_eq_some_iff {text : List Char} {line : ToolLine} :
    ofTrimmed? text = some line ↔ ∃ mark cs,
      text = 't' :: 'o' :: 'o' :: 'l' :: mark.char :: cs ∧ afterMark? mark cs = some line := by
  constructor
  · intro h
    unfold ofTrimmed? at h
    split at h
    next c cs =>
      obtain ⟨mark, hmark, hafter⟩ := Option.bind_eq_some_iff.1 h
      rw [ToolLineMark.ofChar?_eq_some_iff.1 hmark]
      exact ⟨mark, cs, rfl, hafter⟩
    next => cases h
  · rintro ⟨mark, cs, rfl, hafter⟩
    rw [ofTrimmed?, ToolLineMark.ofChar?_eq_some_iff.2 rfl]
    exact hafter

/-! ## 5. Matching by trying -/

/-- The ways to cut a run of a class off the start of a text, the longest first. -/
def runs (q : Char → Bool) : List Char → List (List Char × List Char)
  | [] => [([], [])]
  | c :: cs =>
    if q c then (runs q cs).map (fun (run, rest) => (c :: run, rest)) ++ [([], c :: cs)]
    else [([], c :: cs)]

/-- The ways to cut off a run that is not empty. -/
def someRuns (q : Char → Bool) (cs : List Char) : List (List Char × List Char) :=
  (runs q cs).filter fun cut => cut.1 ≠ []

/-- All ways to match what stands behind a mark, in the order in which they are tried: each part is
as long as can be before it is cut shorter, and a later part is cut shorter before an earlier one. -/
def triesBehind (mark : ToolLineMark) (cs : List Char) : List Parts :=
  (someRuns Text.isBlank cs).flatMap fun (gap, fromName) =>
    (someRuns isNameChar fromName).flatMap fun (name, behindName) =>
      (runs Text.isBlank behindName).flatMap fun (space, fromRest) =>
        (runs (· ≠ '\n') fromRest).flatMap fun (rest, left) =>
          if left = [] then [⟨mark, gap, name, space, rest⟩] else []

/-- All ways to match a text with the expression `^tool([<>])\s+([^\s{\[]+)\s*(.*)$`, in the order
in which they are tried. -/
def tries : List Char → List Parts
  | 't' :: 'o' :: 'o' :: 'l' :: c :: cs =>
    (ToolLineMark.ofChar? c).toList.flatMap fun mark => triesBehind mark cs
  | _ => []

section Runs

variable {q : Char → Bool}

theorem head?_runs (q : Char → Bool) (cs : List Char) :
    (runs q cs).head? = some (cs.takeWhile q, cs.dropWhile q) := by
  induction cs with
  | nil => rfl
  | cons c cs ih =>
    rw [runs]
    by_cases hc : q c = true
    · rw [if_pos hc, List.head?_append, List.head?_map, ih, List.takeWhile_cons_of_pos hc,
        List.dropWhile_cons_of_pos hc]
      rfl
    · rw [if_neg hc, List.takeWhile_cons_of_neg hc, List.dropWhile_cons_of_neg hc]
      rfl

/-- Every run of the class that starts a text is tried, and nothing else. -/
theorem mem_runs {cs run rest : List Char} :
    (run, rest) ∈ runs q cs ↔ run ++ rest = cs ∧ ∀ c ∈ run, q c = true := by
  induction cs generalizing run with
  | nil =>
    rw [runs, List.mem_singleton, Prod.mk.injEq, List.append_eq_nil_iff]
    refine ⟨fun h => ⟨h, ?_⟩, And.left⟩
    rw [h.1]
    exact List.forall_mem_nil _
  | cons c cs ih =>
    rw [runs]
    cases run with
    | nil =>
      have hempty : ([], rest) ∈ [(([] : List Char), c :: cs)] ↔
          [] ++ rest = c :: cs ∧ ∀ c ∈ ([] : List Char), q c = true := by
        rw [List.mem_singleton, Prod.mk.injEq, and_iff_right rfl, List.nil_append]
        exact (and_iff_left (List.forall_mem_nil _)).symm
      split
      · rw [List.mem_append, hempty, or_iff_right]
        rintro hlonger
        obtain ⟨cut, -, heq⟩ := List.mem_map.1 hlonger
        cases heq
      · exact hempty
    | cons d run =>
      have hne : (d :: run, rest) ∉ [(([] : List Char), c :: cs)] :=
        fun h => nomatch List.mem_singleton.1 h
      rw [List.cons_append, List.cons.injEq, List.forall_mem_cons]
      split
      next hc =>
        rw [List.mem_append, or_iff_left hne, List.mem_map]
        constructor
        · rintro ⟨⟨run', rest'⟩, hmem, heq⟩
          cases heq
          obtain ⟨happend, hrun⟩ := ih.1 hmem
          exact ⟨⟨rfl, happend⟩, hc, hrun⟩
        · rintro ⟨⟨rfl, happend⟩, -, hrun⟩
          exact ⟨(run, rest), ih.2 ⟨happend, hrun⟩, rfl⟩
      next hc => exact iff_of_false hne fun h => hc (h.1.1 ▸ h.2.1)

theorem mem_someRuns {cs run rest : List Char} : (run, rest) ∈ someRuns q cs ↔
    run ++ rest = cs ∧ (∀ c ∈ run, q c = true) ∧ run ≠ [] := by
  rw [someRuns, List.mem_filter, mem_runs, decide_eq_true_iff, and_assoc]

theorem head?_someRuns {cs : List Char} (h : cs.takeWhile q ≠ []) :
    (someRuns q cs).head? = some (cs.takeWhile q, cs.dropWhile q) := by
  obtain ⟨others, hruns⟩ := List.head?_eq_some_iff.1 (head?_runs q cs)
  rw [someRuns, hruns, List.filter_cons_of_pos (by simpa using h)]
  rfl

end Runs

/-- What is tried first, when what comes first can go on. -/
theorem head?_flatMap_of_head? {α β : Type} {f : α → List β} {as : List α} {a : α} {b : β}
    (ha : as.head? = some a) (hb : (f a).head? = some b) : (as.flatMap f).head? = some b := by
  obtain ⟨others, rfl⟩ := List.head?_eq_some_iff.1 ha
  rw [List.flatMap_cons, List.head?_append, hb, Option.some_or]

/-- **The longest parts are tried first**, if they match. -/
theorem head?_triesBehind (h : (longest mark cs).Matches) :
    (triesBehind mark cs).head? = some (longest mark cs) := by
  have hline : ∀ c ∈ (longest mark cs).rest, decide (c ≠ '\n') = true :=
    fun c hc => decide_eq_true fun heq => h.rest_line (heq ▸ hc)
  refine head?_flatMap_of_head? (head?_someRuns h.gap_ne_nil) ?_
  refine head?_flatMap_of_head? (head?_someRuns h.name_ne_nil) ?_
  refine head?_flatMap_of_head? (head?_runs _ _) ?_
  refine head?_flatMap_of_head? (head?_runs _ _) ?_
  have hrest : (longest mark cs).rest.takeWhile (· ≠ '\n') = (longest mark cs).rest :=
    List.takeWhile_eq_self_iff.2 hline
  have hleft : (longest mark cs).rest.dropWhile (· ≠ '\n') = [] :=
    List.dropWhile_eq_nil_iff.2 hline
  simp only [longest] at hrest hleft ⊢
  rw [if_pos hleft, hrest]
  rfl

/-- All parts that match are tried, and no others. -/
theorem mem_triesBehind :
    p ∈ triesBehind mark cs ↔ p.Matches ∧ p.mark = mark ∧ p.tail = cs := by
  simp only [triesBehind, List.mem_flatMap, Prod.exists, mem_someRuns, mem_runs,
    decide_eq_true_iff]
  constructor
  · rintro ⟨gap, fromName, ⟨rfl, hgap, hgapNe⟩, name, behindName, ⟨rfl, hname, hnameNe⟩, space,
      fromRest, ⟨rfl, hspace⟩, rest, left, ⟨rfl, hrest⟩, hp⟩
    split at hp
    next hleft =>
      rw [List.mem_singleton.1 hp, hleft, List.append_nil]
      exact ⟨⟨hgapNe, hgap, hnameNe, hname, hspace, fun hmem => hrest _ hmem rfl⟩, rfl, rfl⟩
    next => exact absurd hp List.not_mem_nil
  · rintro ⟨h, rfl, rfl⟩
    refine ⟨p.gap, _, ⟨rfl, h.gap_blank, h.gap_ne_nil⟩, p.name, _,
      ⟨rfl, h.name_chars, h.name_ne_nil⟩, p.space, _, ⟨rfl, h.space_blank⟩, p.rest, [],
      ⟨List.append_nil _, fun c hc heq => h.rest_line (heq ▸ hc)⟩, ?_⟩
    rw [if_pos rfl]
    exact List.mem_singleton_self _

theorem mem_tries {text : List Char} : p ∈ tries text ↔ p.Matches ∧ p.chars = text := by
  constructor
  · intro h
    unfold tries at h
    split at h
    next c cs =>
      obtain ⟨mark, hmark, hp⟩ := List.mem_flatMap.1 h
      obtain ⟨hmatches, rfl, rfl⟩ := mem_triesBehind.1 hp
      rw [Option.mem_toList, ToolLineMark.ofChar?_eq_some_iff] at hmark
      rw [hmark]
      exact ⟨hmatches, rfl⟩
    next => exact absurd h List.not_mem_nil
  · rintro ⟨h, rfl⟩
    rw [chars, tries, ToolLineMark.ofChar?_eq_some_iff.2 rfl]
    exact List.mem_flatMap.2 ⟨p.mark, List.mem_singleton_self _, mem_triesBehind.2 ⟨h, rfl, rfl⟩⟩

/-- **What a line is matched with** is its longest parts. -/
theorem head?_tries (h : p.Matches) : (tries p.chars).head? = some (longest p.mark p.tail) := by
  rw [chars, tries, ToolLineMark.ofChar?_eq_some_iff.2 rfl]
  exact head?_flatMap_of_head? rfl (head?_triesBehind h.longest_matches)

/-! ## 6. Every line -/

theorem mark_tail_of_chars_eq {r : Parts} (h : p.chars = r.chars) :
    p.mark = r.mark ∧ p.tail = r.tail := by
  simp only [chars, List.cons.injEq, true_and] at h
  obtain ⟨hmark, htail⟩ := h
  have hsame := ToolLineMark.ofChar?_eq_some_iff.2 hmark
  rw [ToolLineMark.ofChar?_eq_some_iff.2 rfl] at hsame
  exact ⟨Option.some.inj hsame, htail⟩

theorem chars_longest (p : Parts) : (longest p.mark p.tail).chars = p.chars := by
  rw [chars, tail_longest]
  rfl

variable {line : String}

/-- A line is read as the call of its whole reading. -/
theorem IsLine.parse?_eq (h : p.IsLine) (hfull : p.IsFull)
    (hchars : p.chars = Text.trimChars line.toList) : parse? line = some p.call := by
  rw [parse?, ← hchars]
  refine ofTrimmed?_eq_some_iff.2 ⟨p.mark, p.tail, rfl, ?_⟩
  refine afterMark?_eq_some_iff.2 ⟨h.longest_matches, ?_⟩
  rw [← h.eq_longest hfull, payload?_rest hchars hfull]
  rfl

/-- A line that matches in any way is read as the call of its longest parts. -/
theorem Matches.parse?_eq (h : p.Matches) (hchars : p.chars = Text.trimChars line.toList) :
    parse? line = some (longest p.mark p.tail).call :=
  (isLine_longest h.longest_matches).parse?_eq (isFull_longest _ _) ((chars_longest p).trans hchars)

theorem exists_of_parse? {call : ToolLine} (h : parse? line = some call) :
    ∃ p : Parts, p.IsLine ∧ p.IsFull ∧ p.chars = Text.trimChars line.toList ∧ p.call = call := by
  obtain ⟨mark, cs, htext, hafter⟩ := ofTrimmed?_eq_some_iff.1 h
  have hline := isLine_longest (afterMark?_eq_some_iff.1 hafter).1
  have hchars : (longest mark cs).chars = Text.trimChars line.toList := by
    rw [htext, chars, tail_longest]
    rfl
  have hcall := hline.parse?_eq (isFull_longest mark cs) hchars
  exact ⟨longest mark cs, hline, isFull_longest mark cs, hchars,
    Option.some.inj (hcall.symm.trans h)⟩

/-- What is tried first is what the reader finds. -/
theorem parse?_eq_head?_tries (line : String) :
    parse? line = (tries (Text.trimChars line.toList)).head?.map call := by
  cases hread : parse? line with
  | none =>
    have hnone : tries (Text.trimChars line.toList) = [] := by
      refine List.eq_nil_iff_forall_not_mem.2 fun p hp => ?_
      obtain ⟨hmatches, hchars⟩ := mem_tries.1 hp
      cases (hmatches.parse?_eq hchars).symm.trans hread
    rw [hnone]
    rfl
  | some found =>
    obtain ⟨p, hline, hfull, hchars, rfl⟩ := exists_of_parse? hread
    rw [← hchars, head?_tries hline.toMatches, ← hline.eq_longest hfull]
    rfl

end Parts

/-- **A tool line has one reading.** A line is read as a tool line just when its trimmed text is a
line of the grammar. Of the ways to see it as one, a single one leaves no blank to the rest; the
line is read as the call with the mark and the name of that one, and with its rest as payload. No
other way of matching comes first: among all ways to match the trimmed text with the expression,
also those that cut the name or the blanks short, the first one tried gives the same call. -/
theorem tool_line_has_one_reading (line : String) :
    let text := Text.trimChars line.toList
    ((parse? line).isSome = true ↔ ∃ p : Parts, p.IsLine ∧ p.chars = text) ∧
    ((parse? line).isSome = true → ∃! p : Parts, p.IsLine ∧ p.IsFull ∧ p.chars = text) ∧
    (∀ p : Parts, p.IsLine → p.IsFull → p.chars = text →
      parse? line = some
        { mark := p.mark
          name := String.ofList p.name
          payload :=
            if p.rest = [] then none
            else some ((Json.parse? (String.ofList p.rest)).getD
              (.string (String.ofList p.rest))) }) ∧
    parse? line = (Parts.tries text).head?.map Parts.call := by
  intro text
  refine ⟨⟨fun h => ?_, fun ⟨p, hline, hchars⟩ => ?_⟩, fun h => ?_,
    fun p hline hfull hchars => hline.parse?_eq hfull hchars, Parts.parse?_eq_head?_tries line⟩
  · obtain ⟨call, hcall⟩ := Option.isSome_iff_exists.1 h
    obtain ⟨p, hline, -, hchars, -⟩ := Parts.exists_of_parse? hcall
    exact ⟨p, hline, hchars⟩
  · rw [hline.toMatches.parse?_eq hchars]
    rfl
  · obtain ⟨call, hcall⟩ := Option.isSome_iff_exists.1 h
    obtain ⟨p, hline, hfull, hchars, -⟩ := Parts.exists_of_parse? hcall
    refine ⟨p, ⟨hline, hfull, hchars⟩, ?_⟩
    rintro q ⟨hqline, hqfull, hqchars⟩
    obtain ⟨hmark, htail⟩ := Parts.mark_tail_of_chars_eq (hqchars.trans hchars.symm)
    rw [hqline.eq_longest hqfull, hline.eq_longest hfull, hmark, htail]

/-- The end of a call with a brace right behind the name, and with blanks of all sorts. -/
def tightLine : String :=
  "\u3000tool<\u00a0 read\x7bno json\t"

/-- The parts of the line. -/
def tightParts : Parts where
  mark := .finish
  gap := "\u00a0 ".toList
  name := "read".toList
  space := []
  rest := "\x7bno json".toList

/-- The name ends at the brace. The expression matches the line in four ways, as it can also cut the
name short; the first of them is what the line is read as. -/
theorem tool_line_has_one_reading_sample :
    tightParts.IsLine ∧ tightParts.IsFull ∧
      tightParts.chars = Text.trimChars tightLine.toList ∧
      parse? tightLine = some
        { mark := .finish, name := "read", payload := some (.string "\x7bno json") } ∧
      (Parts.tries (Text.trimChars tightLine.toList)).length = 4 ∧
      parse? tightLine
        = (Parts.tries (Text.trimChars tightLine.toList)).head?.map Parts.call := by
  obtain ⟨-, -, hread, hfirst⟩ := tool_line_has_one_reading tightLine
  have hmatches : tightParts.Matches := {
    gap_ne_nil := by decide
    gap_blank := List.all_eq_true.1 (by decide)
    name_ne_nil := by decide
    name_chars := List.all_eq_true.1 (by decide)
    space_blank := List.forall_mem_nil _
    rest_line := by decide }
  have hline : tightParts.IsLine := ⟨hmatches, .inr ⟨'\x7b', rfl, .inr (.inl rfl)⟩⟩
  have hfull : tightParts.IsFull := by
    intro c hc
    obtain rfl : '\x7b' = c := Option.some.inj hc
    decide
  have hchars : tightParts.chars = Text.trimChars tightLine.toList := by decide +kernel
  refine ⟨hline, hfull, hchars, ?_, by decide +kernel, hfirst⟩
  have hparse : Json.parse? (String.ofList tightParts.rest) = none :=
    Option.isNone_iff_eq_none.1 (by decide +kernel)
  rw [hread tightParts hline hfull hchars, hparse]
  rfl

end ToolLine

end AgentFeed
