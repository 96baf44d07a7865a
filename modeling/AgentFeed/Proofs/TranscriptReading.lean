import AgentFeed.Proofs.TranscriptLines
import Mathlib.Logic.Relation

/-!
# Transcript text, line by line

A line of a transcript is blank, or holds an entry, or is at fault
(`TranscriptText.lineOutcome`), and this does not depend on the lines around it. Reading goes on as
long as no line is at fault, so it can be done part after part: only the number in the error of a
later part grows by the lines in front of it (`TranscriptText.parse_append`).

The number of a line occurs nowhere but in errors, and blanks at the ends of a line do not count. So
what is read of a text depends on the trimmed lines that are left without the blank ones
(`TranscriptText.toOption_parseLines`), and these stay the same when blank lines come or go, or line
ends are written in another way (`TranscriptText.Relaid`).
-/

namespace AgentFeed

/-! ## 1. Lines -/

namespace Text

/-- A blank at the end of a line does not count. -/
theorem trimChars_append_blank (cs : List Char) {c : Char} (hc : isBlank c = true) :
    trimChars (cs ++ [c]) = trimChars cs := by
  rw [trimChars, trimLeft, List.dropWhile_append]
  by_cases hcs : cs.dropWhile isBlank = []
  · rw [if_pos (List.isEmpty_iff.2 hcs), List.dropWhile_cons_of_pos hc, trimChars, trimLeft, hcs]
    rfl
  · rw [if_neg (by simpa [List.isEmpty_iff] using hcs), trimRight, List.reverse_append,
      List.reverse_singleton, List.singleton_append, List.dropWhile_cons_of_pos hc]
    rfl

theorem linesFrom_newline (line rest : List Char) :
    linesFrom line ('\n' :: rest) = line.reverse :: linesFrom [] rest :=
  if_pos rfl

/-- A text of complete lines has as many lines as line feeds. -/
theorem length_linesFrom {line cs : List Char}
    (h : line = [] ∧ cs = [] ∨ cs.getLast? = some '\n') :
    (linesFrom line cs).length = cs.count '\n' := by
  induction cs generalizing line with
  | nil =>
    rcases h with ⟨rfl, -⟩ | h
    · rfl
    · cases h
  | cons c tail ih =>
    have htail : c = '\n' ∧ tail = [] ∨ tail.getLast? = some '\n' := by
      rcases h with ⟨-, hnil⟩ | h
      · cases hnil
      · cases tail with
        | nil => exact .inl ⟨Option.some.inj h, rfl⟩
        | cons next more => exact .inr h
    rw [linesFrom]
    by_cases hc : c = '\n'
    · rw [if_pos hc, hc, List.length_cons, ih (htail.imp_left fun h => ⟨rfl, h.2⟩),
        List.count_cons_self]
    · rw [if_neg hc, ih (htail.imp_left fun h => absurd h.1 hc), List.count_cons_of_ne hc]

end Text

namespace TranscriptText

/-! ## 2. One line -/

/-- What a line is if it is not blank: an entry, its direction not yet read. -/
def stored? (line : List Char) : Option StoredEntry :=
  (JsonDocument.parse? (String.ofList (Text.trimChars line))).bind StoredEntry.ofDocument?

/-- A line that reading passes: it is blank, or it is an entry that names a direction. -/
def Passes (line : List Char) : Prop :=
  (∀ c ∈ line, Text.isBlank c = true) ∨
    ∃ stored direction, stored? line = some stored ∧
      Direction.read stored.direction = .ok direction

/-- The fault of a line with a number: it is not blank, and either it is no entry or it names no
direction. -/
inductive Fault (path : String) (number : Nat) (line : List Char) : TranscriptError → Prop
  | malformed (written : ¬∀ c ∈ line, Text.isBlank c = true) (unread : stored? line = none) :
    Fault path number line (.malformedLine path number)
  | direction {stored : StoredEntry} {lowered : String}
    (written : ¬∀ c ∈ line, Text.isBlank c = true) (read : stored? line = some stored)
    (unknown : Direction.read stored.direction = .error lowered) :
    Fault path number line (.invalidDirection lowered)

/-- What a line with a number says: an entry, or nothing when it is blank. -/
def lineOutcome (path : String) (number : Nat) (line : List Char) :
    Except TranscriptError (Option TranscriptEntry) :=
  match Text.trimChars line with
  | [] => .ok none
  | trimmed => (parseLine path number trimmed).map some

theorem lineOutcome_of_blank (path : String) (number : Nat) {line : List Char}
    (h : ∀ c ∈ line, Text.isBlank c = true) : lineOutcome path number line = .ok none := by
  rw [lineOutcome, Text.trimChars_eq_nil_iff.2 h]

theorem lineOutcome_of_not_blank (path : String) (number : Nat) {line : List Char}
    (h : ¬∀ c ∈ line, Text.isBlank c = true) :
    lineOutcome path number line = (parseLine path number (Text.trimChars line)).map some := by
  have hne : Text.trimChars line ≠ [] := fun hnil => h (Text.trimChars_eq_nil_iff.1 hnil)
  rw [lineOutcome]
  cases htrim : Text.trimChars line with
  | nil => exact absurd htrim hne
  | cons c rest => rfl

theorem parseLines_cons (path : String) (number : Nat) (line : List Char)
    (rest : List (List Char)) :
    parseLines path number (line :: rest) = (lineOutcome path number line).bind fun found =>
      (parseLines path (number + 1) rest).map (found.toList ++ ·) := by
  rw [parseLines, lineOutcome]
  cases Text.trimChars line with
  | nil => cases parseLines path (number + 1) rest <;> rfl
  | cons c more =>
    dsimp only
    cases parseLine path number (c :: more) with
    | error e => rfl
    | ok entry => cases parseLines path (number + 1) rest <;> rfl

/-- Every line is passed or at fault. -/
theorem passes_or_fault (path : String) (number : Nat) (line : List Char) :
    Passes line ∨ ∃ e, Fault path number line e := by
  by_cases hblank : ∀ c ∈ line, Text.isBlank c = true
  · exact .inl (.inl hblank)
  · cases hstored : stored? line with
    | none => exact .inr ⟨_, .malformed hblank hstored⟩
    | some stored =>
      cases hread : Direction.read stored.direction with
      | ok direction => exact .inl (.inr ⟨stored, direction, hstored, hread⟩)
      | error lowered => exact .inr ⟨_, .direction hblank hstored hread⟩

theorem Passes.exists_lineOutcome {line : List Char} (h : Passes line) (path : String)
    (number : Nat) : ∃ found, lineOutcome path number line = .ok found := by
  by_cases hblank : ∀ c ∈ line, Text.isBlank c = true
  · exact ⟨none, lineOutcome_of_blank path number hblank⟩
  · obtain ⟨stored, direction, hstored, hread⟩ := h.resolve_left hblank
    rw [lineOutcome_of_not_blank path number hblank, parseLine, ← stored?, hstored]
    dsimp only
    rw [StoredEntry.toEntry, hread]
    exact ⟨_, rfl⟩

theorem Fault.lineOutcome_eq {path : String} {number : Nat} {line : List Char}
    {e : TranscriptError} (h : Fault path number line e) :
    lineOutcome path number line = .error e := by
  cases h with
  | malformed written unread =>
    rw [lineOutcome_of_not_blank path number written, parseLine, ← stored?, unread]
    rfl
  | direction written read unknown =>
    rw [lineOutcome_of_not_blank path number written, parseLine, ← stored?, read]
    dsimp only
    rw [StoredEntry.toEntry, unknown]
    rfl

/-! ## 3. The first fault -/

theorem Fault.parseLines_cons {path : String} {number : Nat} {line : List Char}
    {e : TranscriptError} (h : Fault path number line e) (rest : List (List Char)) :
    parseLines path number (line :: rest) = .error e := by
  rw [TranscriptText.parseLines_cons, h.lineOutcome_eq]
  rfl

theorem Passes.parseLines_cons_eq_error_iff {line : List Char} (h : Passes line) {path : String}
    {number : Nat} {rest : List (List Char)} {e : TranscriptError} :
    parseLines path number (line :: rest) = .error e
      ↔ parseLines path (number + 1) rest = .error e := by
  obtain ⟨found, hfound⟩ := h.exists_lineOutcome path number
  rw [parseLines_cons, hfound]
  cases parseLines path (number + 1) rest <;> simp [Except.bind, Except.map]

theorem exists_fault_of_parseLines_eq_error {path : String} {number : Nat}
    {lines : List (List Char)} {e : TranscriptError} (h : parseLines path number lines = .error e) :
    ∃ before line after, lines = before ++ line :: after ∧ (∀ l ∈ before, Passes l) ∧
      Fault path (number + before.length) line e := by
  induction lines generalizing number with
  | nil => cases h
  | cons head rest ih =>
    rcases passes_or_fault path number head with hpasses | ⟨fault, hfault⟩
    · obtain ⟨before, line, after, rfl, hbefore, hfault⟩ :=
        ih (hpasses.parseLines_cons_eq_error_iff.1 h)
      refine ⟨head :: before, line, after, rfl, List.forall_mem_cons.2 ⟨hpasses, hbefore⟩, ?_⟩
      rwa [List.length_cons, Nat.add_comm before.length, ← Nat.add_assoc]
    · obtain rfl := Except.error.inj ((hfault.parseLines_cons rest).symm.trans h)
      exact ⟨[], head, rest, rfl, List.forall_mem_nil _, hfault⟩

theorem Fault.parseLines_append {path : String} {number : Nat} {before : List (List Char)}
    {line : List Char} {e : TranscriptError} (h : Fault path (number + before.length) line e)
    (hbefore : ∀ l ∈ before, Passes l) (after : List (List Char)) :
    parseLines path number (before ++ line :: after) = .error e := by
  induction before generalizing number with
  | nil => exact h.parseLines_cons after
  | cons first rest ih =>
    obtain ⟨hfirst, hrest⟩ := List.forall_mem_cons.1 hbefore
    rw [List.length_cons, Nat.add_comm rest.length, ← Nat.add_assoc] at h
    exact hfirst.parseLines_cons_eq_error_iff.2 (ih h hrest)

/-- **Reading fails with the fault of the first line that it does not pass.** -/
theorem parseLines_eq_error_iff {path : String} {number : Nat} {lines : List (List Char)}
    {e : TranscriptError} : parseLines path number lines = .error e ↔
      ∃ before line after, lines = before ++ line :: after ∧ (∀ l ∈ before, Passes l) ∧
        Fault path (number + before.length) line e := by
  refine ⟨exists_fault_of_parseLines_eq_error, ?_⟩
  rintro ⟨before, line, after, rfl, hbefore, hfault⟩
  exact hfault.parseLines_append hbefore after

/-! ## 4. Part after part -/

end TranscriptText

/-- The error when some more lines stand in front of the text. -/
def TranscriptError.later (lines : Nat) : TranscriptError → TranscriptError
  | .malformedLine path number => .malformedLine path (number + lines)
  | other => other

namespace TranscriptText

theorem lineOutcome_later (path : String) (number more : Nat) (line : List Char) :
    lineOutcome path (number + more) line
      = (lineOutcome path number line).mapError (·.later more) := by
  rcases passes_or_fault path number line with hpasses | ⟨e, hfault⟩
  · by_cases hblank : ∀ c ∈ line, Text.isBlank c = true
    · rw [lineOutcome_of_blank path number hblank, lineOutcome_of_blank path _ hblank]
      rfl
    · obtain ⟨stored, direction, hstored, hread⟩ := hpasses.resolve_left hblank
      rw [lineOutcome_of_not_blank path number hblank, lineOutcome_of_not_blank path _ hblank,
        parseLine, parseLine, ← stored?, hstored]
      dsimp only
      rw [StoredEntry.toEntry, hread]
      rfl
  · rw [hfault.lineOutcome_eq]
    have hlater : Fault path (number + more) line (e.later more) := by
      cases hfault with
      | malformed written unread => exact .malformed written unread
      | direction written read unknown => exact .direction written read unknown
    exact hlater.lineOutcome_eq

theorem parseLines_later (path : String) (number more : Nat) (lines : List (List Char)) :
    parseLines path (number + more) lines
      = (parseLines path number lines).mapError (·.later more) := by
  induction lines generalizing number with
  | nil => rfl
  | cons line rest ih =>
    rw [parseLines_cons, parseLines_cons, lineOutcome_later, Nat.add_right_comm, ih]
    cases lineOutcome path number line with
    | error e => rfl
    | ok found => cases parseLines path (number + 1) rest <;> rfl

/-- **Texts are read one part after another.** -/
theorem parse_append (path : String) {before : String} (hbefore : EndsLine before)
    (after : String) :
    parse path (before ++ after) = (parse path before).bind fun first =>
      ((parse path after).mapError (·.later (before.toList.count '\n'))).map (first ++ ·) := by
  have hcount : (Text.lines before).length = before.toList.count '\n' :=
    Text.length_linesFrom (hbefore.imp_left fun hnil => ⟨rfl, hnil⟩)
  rw [parse, parse, parse, hbefore.lines_append, parseLines_append, hcount, parseLines_later]
  cases parseLines path 1 (Text.lines before) with
  | error e => rfl
  | ok first => cases parseLines path 1 (Text.lines after) <;> rfl

/-! ## 5. Layout -/

/-- What is left of lines without the blanks at their ends and without blank lines. -/
def contents (lines : List (List Char)) : List (List Char) :=
  (lines.map Text.trimChars).filter (· ≠ [])

theorem contents_append (first second : List (List Char)) :
    contents (first ++ second) = contents first ++ contents second := by
  rw [contents, List.map_append, List.filter_append]
  rfl

/-- The entry that trimmed characters are. -/
def entryOf? (trimmed : List Char) : Option TranscriptEntry :=
  (parseLine "" 0 trimmed).toOption

theorem contents_cons_of_blank {line : List Char} (h : ∀ c ∈ line, Text.isBlank c = true)
    (rest : List (List Char)) : contents (line :: rest) = contents rest := by
  rw [contents, List.map_cons, Text.trimChars_eq_nil_iff.2 h]
  rfl

theorem contents_cons_of_not_blank {line : List Char} (h : ¬∀ c ∈ line, Text.isBlank c = true)
    (rest : List (List Char)) :
    contents (line :: rest) = Text.trimChars line :: contents rest := by
  rw [contents, List.map_cons, List.filter_cons_of_pos]
  · rfl
  · rw [← Text.trimChars_eq_nil_iff] at h
    simpa using h

theorem contents_cons_congr {line line' : List Char}
    (h : Text.trimChars line = Text.trimChars line') {rest rest' : List (List Char)}
    (hrest : contents rest = contents rest') :
    contents (line :: rest) = contents (line' :: rest') := by
  unfold contents at hrest ⊢
  rw [List.map_cons, List.map_cons, h, List.filter_cons, List.filter_cons, hrest]

theorem toOption_parseLine (path : String) (number : Nat) (trimmed : List Char) :
    (parseLine path number trimmed).toOption = entryOf? trimmed := by
  rw [entryOf?, parseLine, parseLine]
  cases (JsonDocument.parse? (String.ofList trimmed)).bind StoredEntry.ofDocument? <;> rfl

/-- **What is read depends on the contents of the lines.** -/
theorem toOption_parseLines (path : String) (number : Nat) (lines : List (List Char)) :
    (parseLines path number lines).toOption = (contents lines).mapM entryOf? := by
  induction lines generalizing number with
  | nil => rfl
  | cons line rest ih =>
    rw [parseLines_cons]
    by_cases hblank : ∀ c ∈ line, Text.isBlank c = true
    · rw [lineOutcome_of_blank path number hblank, contents_cons_of_blank hblank, ← ih (number + 1)]
      cases parseLines path (number + 1) rest <;> rfl
    · rw [lineOutcome_of_not_blank path number hblank, contents_cons_of_not_blank hblank,
        List.mapM_cons, ← toOption_parseLine path number, ← ih (number + 1)]
      cases parseLine path number (Text.trimChars line) with
      | error e => rfl
      | ok entry => cases parseLines path (number + 1) rest <;> rfl

/-- One step from one layout of a text to another. -/
inductive Relaid : String → String → Prop
  /-- Blank lines are put in where a line begins. -/
  | blankLines {before blanks : String} (after : String) (starts : EndsLine before)
    (blank : ∀ c ∈ blanks.toList, Text.isBlank c = true) :
    Relaid (before ++ after) (before ++ blanks ++ "\n" ++ after)
  /-- Blank lines are put in at the end. -/
  | lastLines (text : String) {blanks : String}
    (blank : ∀ c ∈ blanks.toList, Text.isBlank c = true) : Relaid text (text ++ "\n" ++ blanks)
  /-- A line ends in a carriage return and a line feed instead of a line feed. -/
  | lineEnd (before after : String) : Relaid (before ++ "\n" ++ after) (before ++ "\r\n" ++ after)

/-- Reading blanks leaves a line that is blank so far, and no contents. -/
theorem exists_contents_blanks {line blanks : List Char}
    (hline : ∀ c ∈ line, Text.isBlank c = true) (hblanks : ∀ c ∈ blanks, Text.isBlank c = true)
    (rest : List Char) : ∃ line', (∀ c ∈ line', Text.isBlank c = true) ∧
      contents (Text.linesFrom line (blanks ++ rest)) = contents (Text.linesFrom line' rest) := by
  induction blanks generalizing line with
  | nil => exact ⟨line, hline, rfl⟩
  | cons c tail ih =>
    obtain ⟨hc, htail⟩ := List.forall_mem_cons.1 hblanks
    rw [List.cons_append, Text.linesFrom]
    split
    · have hreverse : ∀ c ∈ line.reverse, Text.isBlank c = true :=
        fun c hc => hline c (List.mem_reverse.1 hc)
      rw [contents_cons_of_blank hreverse]
      exact ih (List.forall_mem_nil _) htail
    · exact ih (List.forall_mem_cons.2 ⟨hc, hline⟩) htail

theorem contents_linesFrom_blankLines {blanks : List Char}
    (hblanks : ∀ c ∈ blanks, Text.isBlank c = true) (rest : List Char) :
    contents (Text.linesFrom [] (blanks ++ '\n' :: rest)) = contents (Text.linesFrom [] rest) := by
  obtain ⟨line, hline, heq⟩ :=
    exists_contents_blanks (List.forall_mem_nil _) hblanks ('\n' :: rest)
  rw [heq, Text.linesFrom_newline]
  exact contents_cons_of_blank (fun c hc => hline c (List.mem_reverse.1 hc)) _

theorem contents_linesFrom_lastLines {blanks : List Char}
    (hblanks : ∀ c ∈ blanks, Text.isBlank c = true) (line cs : List Char) :
    contents (Text.linesFrom line (cs ++ '\n' :: blanks)) = contents (Text.linesFrom line cs) := by
  have hnone : contents (Text.linesFrom [] blanks) = [] := by
    obtain ⟨last, hlast, heq⟩ := exists_contents_blanks (List.forall_mem_nil _) hblanks []
    rw [List.append_nil] at heq
    rw [heq, Text.linesFrom]
    split
    · rfl
    · exact contents_cons_of_blank (fun c hc => hlast c (List.mem_reverse.1 hc)) []
  induction cs generalizing line with
  | nil =>
    rw [List.nil_append, Text.linesFrom_newline, Text.linesFrom]
    split
    · next hline =>
      rw [hline]
      exact hnone
    · exact contents_cons_congr rfl hnone
  | cons c tail ih =>
    rw [List.cons_append, Text.linesFrom, Text.linesFrom]
    split
    · exact contents_cons_congr rfl (ih [])
    · exact ih (c :: line)

theorem contents_linesFrom_lineEnd (line cs rest : List Char) :
    contents (Text.linesFrom line (cs ++ '\r' :: '\n' :: rest))
      = contents (Text.linesFrom line (cs ++ '\n' :: rest)) := by
  induction cs generalizing line with
  | nil =>
    -- The carriage return is the last character of the line.
    rw [List.nil_append, List.nil_append, Text.linesFrom, if_neg (by decide),
      Text.linesFrom_newline, Text.linesFrom_newline, List.reverse_cons]
    exact contents_cons_congr (Text.trimChars_append_blank line.reverse (by decide)) rfl
  | cons c tail ih =>
    rw [List.cons_append, List.cons_append, Text.linesFrom, Text.linesFrom]
    split
    · exact contents_cons_congr rfl (ih [])
    · exact ih (c :: line)

theorem Relaid.contents_eq {text text' : String} (h : Relaid text text') :
    contents (Text.lines text') = contents (Text.lines text) := by
  cases h with
  | @blankLines before blanks after starts blank =>
    have hlines : Text.lines (before ++ blanks ++ "\n" ++ after)
        = Text.lines before ++ Text.linesFrom [] (blanks.toList ++ '\n' :: after.toList) := by
      rw [← starts.linesFrom_append, Text.lines]
      simp [String.toList_append]
    rw [hlines, starts.lines_append, contents_append, contents_append,
      contents_linesFrom_blankLines blank]
    rfl
  | @lastLines _ blanks blank =>
    have htext : (text ++ "\n" ++ blanks).toList = text.toList ++ '\n' :: blanks.toList := by
      simp [String.toList_append]
    rw [Text.lines, Text.lines, htext]
    exact contents_linesFrom_lastLines blank [] text.toList
  | lineEnd before after =>
    have htext : (before ++ "\n" ++ after).toList = before.toList ++ '\n' :: after.toList := by
      simp [String.toList_append]
    have htext' : (before ++ "\r\n" ++ after).toList
        = before.toList ++ '\r' :: '\n' :: after.toList := by
      simp [String.toList_append]
    rw [Text.lines, Text.lines, htext, htext']
    exact contents_linesFrom_lineEnd [] before.toList after.toList

/-- **The layout of a text does not matter**, however many steps lead from the one to the other. -/
theorem toOption_parse_of_relaid (path : String) {text text' : String}
    (h : Relation.EqvGen Relaid text text') :
    (parse path text').toOption = (parse path text).toOption := by
  have hcontents : contents (Text.lines text') = contents (Text.lines text) := by
    induction h with
    | rel text text' h => exact h.contents_eq
    | refl text => rfl
    | symm text text' _ ih => exact ih.symm
    | trans text text' text'' _ _ ih ih' => exact ih'.trans ih
  rw [parse, parse, toOption_parseLines, toOption_parseLines, hcontents]

/-! ## 6. Reading -/

/-- **A transcript is read line by line.** Cut a text where a line begins. Then the fault of the
first part is the fault of the whole, and if there is none, what the second part says comes behind
what the first part says, the number in its error counted from the beginning of the whole.

Blank lines that come or go and line ends that are written in another way change nothing about the
entries of a text that can be read.

Reading fails just when there is a line to which it cannot go on: all lines before it are blank or
entries that name a direction, and the line itself is not blank. The error gives the number of the
line, from one, if the line is no entry, and else the direction that is none. -/
theorem transcript_is_read_line_by_line (path : String) :
    (∀ before after, EndsLine before → parse path (before ++ after) =
      match parse path before with
      | .error e => .error e
      | .ok first =>
        match parse path after with
        | .error e => .error (e.later (before.toList.count '\n'))
        | .ok second => .ok (first ++ second)) ∧
    (∀ text text' entries, Relation.EqvGen Relaid text text' → parse path text = .ok entries →
      parse path text' = .ok entries) ∧
    ∀ text e, parse path text = .error e ↔
      ∃ before line after, Text.lines text = before ++ line :: after ∧ (∀ l ∈ before, Passes l) ∧
        Fault path (before.length + 1) line e := by
  refine ⟨fun before after hbefore => ?_, fun text text' entries hrelaid hparse => ?_,
    fun text e => ?_⟩
  · rw [parse_append path hbefore]
    cases parse path before with
    | error e => rfl
    | ok first => cases parse path after <;> rfl
  · have hoption := toOption_parse_of_relaid path hrelaid
    rw [hparse] at hoption
    cases hparse' : parse path text' with
    | error e =>
      rw [hparse'] at hoption
      cases hoption
    | ok entries' =>
      rw [hparse'] at hoption
      exact congrArg Except.ok (Option.some.inj hoption)
  · rw [parse, parseLines_eq_error_iff]
    simp only [Nat.add_comm 1]

/-- A blank line and another line end change nothing about an entry. The fault in the text behind it
is found in the second line there, which is the fourth of the whole. -/
theorem transcript_is_read_line_by_line_sample :
    let entry : TranscriptEntry := ⟨"now", "t", .server, .null⟩
    let before := entry.toJson.compact ++ "\r\n" ++ " \n"
    let after := "\nnot an entry\n"
    EndsLine before ∧ Relation.EqvGen Relaid (encode [entry]) before ∧
      parse "t.jsonl" before = .ok [entry] ∧
      parse "t.jsonl" after = .error (.malformedLine "t.jsonl" 2) ∧
      parse "t.jsonl" (before ++ after) = .error (.malformedLine "t.jsonl" 4) := by
  intro entry before after
  obtain ⟨hparts, hlayout, hfault⟩ := transcript_is_read_line_by_line "t.jsonl"
  have hends : EndsLine before := .inr (by decide +kernel)
  have hrelaid : Relation.EqvGen Relaid (encode [entry]) before := by
    have hline : Relaid (entry.toJson.compact ++ "\n" ++ "")
        (entry.toJson.compact ++ "\r\n" ++ "") := .lineEnd _ _
    have hblank : Relaid (entry.toJson.compact ++ "\r\n" ++ "")
        (entry.toJson.compact ++ "\r\n" ++ " " ++ "\n" ++ "") :=
      .blankLines "" (.inr (by decide +kernel)) (List.all_eq_true.1 (by decide))
    have hbefore : entry.toJson.compact ++ "\r\n" ++ " " ++ "\n" ++ "" = before := by
      decide +kernel
    exact hbefore ▸ .trans _ _ _ (.rel _ _ hline) (.rel _ _ hblank)
  have hentry : parse "t.jsonl" (encode [entry]) = .ok [entry] := by
    have hempty : parse "t.jsonl" "" = .ok [] := rfl
    have hstorable : ∀ e ∈ [entry], e.IsStorable := by decide +kernel
    rw [← @String.empty_append (encode [entry])]
    exact parse_append_encode (.inl rfl) hempty hstorable
  have hbefore := hlayout _ _ _ hrelaid hentry
  have hafter : parse "t.jsonl" after = .error (.malformedLine "t.jsonl" 2) := by
    refine (hfault _ _).2 ⟨[[]], "not an entry".toList, [], by decide +kernel, ?_, ?_⟩
    · exact List.forall_mem_singleton.2 (.inl (List.forall_mem_nil _))
    · have hwritten : ¬∀ c ∈ "not an entry".toList, Text.isBlank c = true :=
        fun hblank => absurd (hblank 'n' (by decide)) (by decide)
      exact .malformed hwritten (Option.isNone_iff_eq_none.1 (by decide +kernel))
  have hcount : before.toList.count '\n' = 2 := by decide +kernel
  refine ⟨hends, hrelaid, hbefore, hafter, ?_⟩
  rw [hparts before after hends, hbefore, hafter, hcount]
  rfl

end TranscriptText

end AgentFeed
