import AgentFeed.Proofs.JsonRoundTrip
import AgentFeed.Transcript.Text

/-!
# Transcript text, written and read

An entry is written on one line, and read from that line again: from the text comes the document of
the entry, and from the document its four fields (`TranscriptText.parseLine_chars`). A payload stands
one level down in its entry, so it may be nested one level less than a value that is read by itself.
A payload that goes to the limit is written all the same, and then its line is no entry.

So the text of entries reads as the entries, or the first one with too deep a payload is the fault
(`TranscriptText.parseLines_encode`). Blanks in front of the text make no difference
(`TranscriptText.exists_parse_encode`), and blanks are all that is in a text without entries
(`TranscriptText.parse_eq_nil`).
-/

namespace AgentFeed

/-! ## 1. Lines and blanks -/

namespace Text

theorem linesFrom_append_newline (line : List Char) {cs : List Char} (h : '\n' ∉ cs)
    (rest : List Char) :
    linesFrom line (cs ++ '\n' :: rest) = (line.reverse ++ cs) :: linesFrom [] rest := by
  induction cs generalizing line with
  | nil => rw [List.nil_append, linesFrom, if_pos rfl, List.append_nil]
  | cons c tail ih =>
    obtain ⟨hc, htail⟩ := List.ne_and_not_mem_of_not_mem_cons h
    rw [List.cons_append, linesFrom, if_neg (Ne.symm hc), ih _ htail, List.reverse_cons,
      List.append_assoc]
    rfl

/-- Behind a line feed a text begins anew. -/
theorem linesFrom_append {line cs : List Char}
    (h : line = [] ∧ cs = [] ∨ cs.getLast? = some '\n') (rest : List Char) :
    linesFrom line (cs ++ rest) = linesFrom line cs ++ linesFrom [] rest := by
  induction cs generalizing line with
  | nil =>
    rcases h with ⟨rfl, -⟩ | h
    · rfl
    · cases h
  | cons c tail ih =>
    have hlast : (c :: tail).getLast? = some '\n' := by
      rcases h with ⟨-, hnil⟩ | h
      · cases hnil
      · exact h
    rw [List.cons_append, linesFrom, linesFrom]
    cases tail with
    | nil =>
      obtain rfl : c = '\n' := Option.some.inj hlast
      rw [if_pos rfl, if_pos rfl, ih (.inl ⟨rfl, rfl⟩)]
      rfl
    | cons next more =>
      have htail : (next :: more).getLast? = some '\n' := hlast
      by_cases hc : c = '\n'
      · rw [if_pos hc, if_pos hc, ih (.inr htail)]
        rfl
      · rw [if_neg hc, if_neg hc, ih (.inr htail)]

theorem trimChars_eq_nil_iff {cs : List Char} :
    trimChars cs = [] ↔ ∀ c ∈ cs, isBlank c = true := by
  have hleft : trimLeft cs = [] ↔ ∀ c ∈ cs, isBlank c = true := List.dropWhile_eq_nil_iff
  rw [← hleft, trimChars, trimRight, List.reverse_eq_nil_iff, List.dropWhile_eq_nil_iff]
  constructor
  · intro hall
    -- What is left at the start is no blank, so nothing is left.
    cases hrest : trimLeft cs with
    | nil => rfl
    | cons c rest =>
      have hnot := List.head?_dropWhile_not isBlank cs
      have hblank := hall c (List.mem_reverse.2 (hrest ▸ List.mem_cons_self))
      rw [← trimLeft, hrest] at hnot
      simp [hblank] at hnot
  · intro hnil c hc
    rw [hnil] at hc
    exact absurd hc List.not_mem_nil

/-- A text that neither starts nor ends in a blank is what is left of it behind blanks. -/
theorem trimChars_blanks_append {blanks : List Char} (hblanks : ∀ c ∈ blanks, isBlank c = true)
    {first last : Char} (hfirst : isBlank first = false) (hlast : isBlank last = false)
    (middle : List Char) :
    trimChars (blanks ++ (first :: middle ++ [last])) = first :: middle ++ [last] := by
  have hleft : trimLeft (blanks ++ (first :: middle ++ [last])) = first :: middle ++ [last] := by
    rw [trimLeft, List.dropWhile_append_of_pos hblanks, List.cons_append,
      List.dropWhile_cons_of_neg (by simp [hfirst])]
  rw [trimChars, hleft, trimRight, List.reverse_append, List.reverse_singleton,
    List.singleton_append, List.dropWhile_cons_of_neg (by simp [hlast]), List.reverse_cons,
    List.reverse_reverse]

/-- What neither starts nor ends in a blank is left as it is. -/
theorem trimChars_of_ends {first last : Char} (hfirst : isBlank first = false)
    (hlast : isBlank last = false) (middle : List Char) :
    trimChars (first :: middle ++ [last]) = first :: middle ++ [last] :=
  trimChars_blanks_append (List.forall_mem_nil _) hfirst hlast middle

end Text

/-! ## 2. One entry -/

/-- The name of a direction is read as the direction. -/
theorem Direction.read_name (d : Direction) : Direction.read d.name = .ok d := by
  cases d <;> decide +kernel

namespace TranscriptEntry

/-- What is written of the payload stands for the payload: it could have been read from a text, and
every number in it is an integer. -/
structure IsExact (e : TranscriptEntry) : Prop where
  /-- The payload could have been read from a text. -/
  canonical : e.payload.Canonical
  /-- Every number in the payload is an integer. -/
  integersOnly : e.payload.integersOnly = true

/-- Whether the payload is nested too deep to be read inside an entry. -/
def isTooDeep (e : TranscriptEntry) : Bool :=
  126 < e.payload.depth

/-- The payload stands for itself and fits into an entry, so the entry is read back as it was written.
-/
structure IsStorable (e : TranscriptEntry) : Prop extends IsExact e where
  /-- The payload is not nested too deep. -/
  depth_le : e.payload.depth ≤ 126

instance (e : TranscriptEntry) : Decidable e.IsStorable :=
  decidable_of_iff
    (e.payload.Canonical ∧ e.payload.integersOnly = true ∧ e.payload.depth ≤ 126)
    ⟨fun ⟨hcanonical, hintegers, hdepth⟩ => ⟨⟨hcanonical, hintegers⟩, hdepth⟩,
      fun h => ⟨h.canonical, h.integersOnly, h.depth_le⟩⟩

theorem IsExact.integersOnly_toJson {e : TranscriptEntry} (h : e.IsExact) :
    e.toJson.integersOnly = true := by
  simp [toJson, Json.integersOnly, Json.membersIntegersOnly, h.integersOnly]

end TranscriptEntry

/-- **A written entry is stored with its four fields**, if its payload is not too deep. -/
theorem StoredEntry.ofDocument?_toJson {e : TranscriptEntry} (h : e.IsExact) :
    ofDocument? e.toJson.document
      = if e.isTooDeep then none
        else some ⟨e.ts, e.threadId, e.direction.name, e.payload⟩ := by
  have hpayload : payload? e.payload.document = if e.isTooDeep then none else some e.payload := by
    rw [payload?, Json.value?_document e.payload _ h.canonical h.integersOnly]
    have hroom : Json.depthLimit - 1 = 126 := rfl
    rw [hroom, TranscriptEntry.isTooDeep]
    by_cases hdeep : 126 < e.payload.depth
    · rw [if_neg (Nat.not_le.2 hdeep), if_pos (decide_eq_true hdeep)]
    · rw [if_pos (Nat.not_lt.1 hdeep), if_neg (by simpa using hdeep)]
  have hdocument : e.toJson.document = .object
      [(TextUnit.ofString "ts", .text (TextUnit.ofString e.ts)),
        (TextUnit.ofString "threadId", .text (TextUnit.ofString e.threadId)),
        (TextUnit.ofString "direction", .text (TextUnit.ofString e.direction.name)),
        (TextUnit.ofString "payload", e.payload.document)] := rfl
  rw [hdocument, ofDocument?]
  simp only [List.map_cons, List.map_nil, TextUnit.string?_ofString]
  have hparts : ofParts? (.text (TextUnit.ofString e.ts)) (.text (TextUnit.ofString e.threadId))
        (.text (TextUnit.ofString e.direction.name)) e.payload.document
      = if e.isTooDeep then none
        else some ⟨e.ts, e.threadId, e.direction.name, e.payload⟩ := by
    rw [ofParts?]
    simp only [text?, TextUnit.string?_ofString, hpayload]
    cases e.isTooDeep <;> rfl
  exact hparts

namespace TranscriptText

/-- **The line of an entry is read as the entry**, if its payload is not too deep. -/
theorem parseLine_chars {e : TranscriptEntry} (h : e.IsExact) (path : String) (number : Nat) :
    parseLine path number e.toJson.chars
      = if e.isTooDeep then .error (.malformedLine path number) else .ok e := by
  have hparse : JsonDocument.parse? (String.ofList e.toJson.chars) = some e.toJson.document :=
    Json.parse?_document h.integersOnly_toJson
  rw [parseLine, hparse, Option.bind_some, StoredEntry.ofDocument?_toJson h]
  by_cases hdeep : e.isTooDeep = true
  · rw [if_pos hdeep, if_pos hdeep]
  · rw [if_neg hdeep, if_neg hdeep]
    simp only [StoredEntry.toEntry, Direction.read_name]
    rfl

/-! ## 3. Many entries -/

theorem encode_append (first second : List TranscriptEntry) :
    encode (first ++ second) = encode first ++ encode second := by
  induction first with
  | nil => exact (String.empty_append).symm
  | cons e rest ih =>
    have hcons : ∀ es, encode (e :: es) = encodeEntry e ++ encode es := fun _ => rfl
    rw [List.cons_append, hcons, hcons, ih, String.append_assoc]

theorem toList_encode_cons (e : TranscriptEntry) (rest : List TranscriptEntry) :
    (encode (e :: rest)).toList = e.toJson.chars ++ '\n' :: (encode rest).toList := by
  have hcons : encode (e :: rest) = e.toJson.compact ++ "\n" ++ encode rest := rfl
  rw [hcons, String.toList_append, String.toList_append, Json.compact, String.toList_ofList,
    List.append_assoc]
  rfl

/-- What is read of a line that is not blank, and of the lines behind it. -/
theorem parseLines_of_trim (path : String) (number : Nat) {line trimmed : List Char}
    (htrim : Text.trimChars line = trimmed) (hne : trimmed ≠ []) (rest : List (List Char)) :
    parseLines path number (line :: rest) = (do
      let entry ← parseLine path number trimmed
      let entries ← parseLines path (number + 1) rest
      return entry :: entries) := by
  rw [parseLines, htrim]
  cases trimmed with
  | nil => exact absurd rfl hne
  | cons c cs => rfl

/-- A blank line is skipped. -/
theorem parseLines_of_blank (path : String) (number : Nat) {line : List Char}
    (hline : ∀ c ∈ line, Text.isBlank c = true) (rest : List (List Char)) :
    parseLines path number (line :: rest) = parseLines path (number + 1) rest := by
  rw [parseLines, Text.trimChars_eq_nil_iff.2 hline]

/-- Lines are read one part after another, and up to the first fault. -/
theorem parseLines_append (path : String) (number : Nat) (first second : List (List Char)) :
    parseLines path number (first ++ second) = (do
      let before ← parseLines path number first
      let after ← parseLines path (number + first.length) second
      return before ++ after) := by
  induction first generalizing number with
  | nil =>
    change parseLines path number second = (parseLines path number second).bind fun after => .ok after
    cases parseLines path number second <;> rfl
  | cons line rest ih =>
    have hnumber : number + (line :: rest).length = number + 1 + rest.length := by
      rw [List.length_cons]
      omega
    rw [List.cons_append, hnumber]
    by_cases htrim : Text.trimChars line = []
    · have hblank := Text.trimChars_eq_nil_iff.1 htrim
      rw [parseLines_of_blank path number hblank, parseLines_of_blank path number hblank, ih]
    · rw [parseLines_of_trim path number rfl htrim, parseLines_of_trim path number rfl htrim, ih]
      cases parseLine path number (Text.trimChars line) with
      | error e => rfl
      | ok entry =>
        cases parseLines path (number + 1) rest with
        | error e => rfl
        | ok before => cases parseLines path (number + 1 + rest.length) second <;> rfl

/-- The entries, or the fault in the first one with too deep a payload, if the first entry is on a
line with a number. -/
def outcome (path : String) (number : Nat) (entries : List TranscriptEntry) :
    Except TranscriptError (List TranscriptEntry) :=
  match entries.findIdx? (·.isTooDeep) with
  | none => .ok entries
  | some i => .error (.malformedLine path (number + i))

theorem outcome_cons (path : String) (number : Nat) (e : TranscriptEntry)
    (rest : List TranscriptEntry) :
    outcome path number (e :: rest)
      = if e.isTooDeep then .error (.malformedLine path number)
        else (outcome path (number + 1) rest).map (e :: ·) := by
  rw [outcome, outcome, List.findIdx?_cons]
  by_cases hdeep : e.isTooDeep = true
  · rw [if_pos hdeep, if_pos hdeep]
    rfl
  · rw [if_neg hdeep, if_neg hdeep]
    cases rest.findIdx? (·.isTooDeep) with
    | none => rfl
    | some i =>
      have hnumber : number + (i + 1) = number + 1 + i := by omega
      rw [Option.map_some]
      simp only [hnumber]
      rfl

/-- **The lines of entries are read as the entries**, up to the first with too deep a payload, and
also when there are blanks on the first line already. -/
theorem parseLines_encode (path : String) {entries : List TranscriptEntry}
    (hexact : ∀ e ∈ entries, e.IsExact) (number : Nat) (line : List Char)
    (hline : ∀ c ∈ line, Text.isBlank c = true) :
    parseLines path number (Text.linesFrom line (encode entries).toList)
      = outcome path number entries := by
  have hreverse : ∀ c ∈ line.reverse, Text.isBlank c = true :=
    fun c hc => hline c (List.mem_reverse.1 hc)
  induction entries generalizing number line with
  | nil =>
    have hnone : (encode []).toList = [] := rfl
    rw [hnone, Text.linesFrom]
    split
    · rfl
    · exact parseLines_of_blank path number hreverse []
  | cons e rest ih =>
    obtain ⟨he, hrest⟩ := List.forall_mem_cons.1 hexact
    have hlater := ih hrest (number + 1) [] (by simp) (by simp)
    have hline := Json.newline_notMem_chars _ he.integersOnly_toJson
    -- The text of an object starts and ends in a brace.
    have htrim : Text.trimChars (line.reverse ++ e.toJson.chars) = e.toJson.chars :=
      Text.trimChars_blanks_append hreverse (by decide) (by decide) _
    rw [toList_encode_cons, Text.linesFrom_append_newline _ hline,
      parseLines_of_trim path number htrim (List.cons_ne_nil _ _), parseLine_chars he, hlater,
      outcome_cons]
    by_cases hdeep : e.isTooDeep = true
    · rw [if_pos hdeep, if_pos hdeep]
      rfl
    · rw [if_neg hdeep, if_neg hdeep]
      rfl

/-! ## 4. Blanks in front -/

/-- Reading blanks leaves the reader at the start of a line that is blank so far. -/
theorem exists_parseLines_blanks (path : String) {blanks : List Char}
    (hblanks : ∀ c ∈ blanks, Text.isBlank c = true) (rest : List Char) (number : Nat)
    (line : List Char) (hline : ∀ c ∈ line, Text.isBlank c = true) :
    ∃ number' line', (∀ c ∈ line', Text.isBlank c = true) ∧
      parseLines path number (Text.linesFrom line (blanks ++ rest))
        = parseLines path number' (Text.linesFrom line' rest) := by
  induction blanks generalizing number line with
  | nil => exact ⟨number, line, hline, rfl⟩
  | cons c tail ih =>
    obtain ⟨hc, htail⟩ := List.forall_mem_cons.1 hblanks
    rw [List.cons_append, Text.linesFrom]
    by_cases hnewline : c = '\n'
    · have hreverse : ∀ c ∈ line.reverse, Text.isBlank c = true :=
        fun c hc => hline c (List.mem_reverse.1 hc)
      rw [if_pos hnewline, parseLines_of_blank path number hreverse]
      exact ih htail (number + 1) [] (by simp)
    · rw [if_neg hnewline]
      exact ih htail number (c :: line) (List.forall_mem_cons.2 ⟨hc, hline⟩)

/-- **The text of entries is read as the entries**, up to the first with too deep a payload,
whatever blanks stand in front. -/
theorem exists_parse_encode (path : String) {before : String}
    (hbefore : ∀ c ∈ before.toList, Text.isBlank c = true) {entries : List TranscriptEntry}
    (hexact : ∀ e ∈ entries, e.IsExact) :
    ∃ number, parse path (before ++ encode entries) = outcome path number entries := by
  obtain ⟨number, line, hline, heq⟩ :=
    exists_parseLines_blanks path hbefore (encode entries).toList 1 [] (by simp)
  refine ⟨number, ?_⟩
  rw [parse, Text.lines, String.toList_append, heq]
  exact parseLines_encode path hexact number line hline

theorem outcome_of_fits (path : String) (number : Nat) {entries : List TranscriptEntry}
    (h : ∀ e ∈ entries, e.payload.depth ≤ 126) : outcome path number entries = .ok entries := by
  have hnone : entries.findIdx? (·.isTooDeep) = none := by
    rw [List.findIdx?_eq_none_iff]
    intro e he
    exact decide_eq_false (Nat.not_lt.2 (h e he))
  rw [outcome, hnone]

/-- A text is empty, or its last line is complete. -/
def EndsLine (text : String) : Prop :=
  text.toList = [] ∨ text.toList.getLast? = some '\n'

namespace EndsLine

variable {before : String}

theorem linesFrom_append (h : EndsLine before) (cs : List Char) :
    Text.linesFrom [] (before.toList ++ cs) = Text.lines before ++ Text.linesFrom [] cs :=
  Text.linesFrom_append (h.imp_left fun hnil => ⟨rfl, hnil⟩) cs

theorem lines_append (h : EndsLine before) (after : String) :
    Text.lines (before ++ after) = Text.lines before ++ Text.lines after := by
  rw [Text.lines, String.toList_append]
  exact h.linesFrom_append after.toList

end EndsLine

/-- **Entries are read behind those that were there**, if the text before is at the start of a
line. -/
theorem parse_append_encode {path before : String} (hbefore : EndsLine before)
    {found entries : List TranscriptEntry} (hfound : parse path before = .ok found)
    (hstorable : ∀ e ∈ entries, e.IsStorable) :
    parse path (before ++ encode entries) = .ok (found ++ entries) := by
  have hnew := parseLines_encode path (fun e he => (hstorable e he).toIsExact)
    (1 + (Text.lines before).length) [] (by simp)
  rw [outcome_of_fits _ _ fun e he => (hstorable e he).depth_le, ← Text.lines] at hnew
  rw [parse] at hfound
  rw [parse, hbefore.lines_append, parseLines_append, hfound, hnew]
  rfl

theorem exists_outcome_of_tooDeep (path : String) (number : Nat) {entries : List TranscriptEntry}
    (h : ∃ e ∈ entries, 126 < e.payload.depth) :
    ∃ line, outcome path number entries = .error (.malformedLine path line) := by
  obtain ⟨e, he, hdeep⟩ := h
  rw [outcome]
  cases hfind : entries.findIdx? (·.isTooDeep) with
  | none =>
    have hfits := List.findIdx?_eq_none_iff.1 hfind e he
    exact absurd hdeep (of_decide_eq_false hfits)
  | some i => exact ⟨number + i, rfl⟩

/-! ## 5. Texts without entries -/

theorem parseLines_cons_eq_nil {path : String} {number : Nat} {line : List Char}
    {rest : List (List Char)} (h : parseLines path number (line :: rest) = .ok []) :
    (∀ c ∈ line, Text.isBlank c = true) ∧ parseLines path (number + 1) rest = .ok [] := by
  by_cases htrim : Text.trimChars line = []
  · have hline := Text.trimChars_eq_nil_iff.1 htrim
    rw [parseLines_of_blank path number hline] at h
    exact ⟨hline, h⟩
  · rw [parseLines_of_trim path number rfl htrim] at h
    cases hentry : parseLine path number (Text.trimChars line) with
    | error e =>
      rw [hentry] at h
      cases h
    | ok entry =>
      rw [hentry] at h
      cases hrest : parseLines path (number + 1) rest with
      | error e =>
        rw [hrest] at h
        cases h
      | ok entries =>
        rw [hrest] at h
        cases h

/-- **Only blanks are in a text without entries.** -/
theorem parse_eq_nil {path text : String} (h : parse path text = .ok []) :
    ∀ c ∈ text.toList, Text.isBlank c = true := by
  have hall : ∀ (cs line : List Char) (number : Nat),
      parseLines path number (Text.linesFrom line cs) = .ok [] →
        (∀ c ∈ line, Text.isBlank c = true) ∧ ∀ c ∈ cs, Text.isBlank c = true := by
    intro cs
    induction cs with
    | nil =>
      intro line number hparse
      rw [Text.linesFrom] at hparse
      by_cases hline : line = []
      · simp [hline]
      · rw [if_neg hline] at hparse
        have hblank := (parseLines_cons_eq_nil hparse).1
        exact ⟨fun c hc => hblank c (List.mem_reverse.2 hc), by simp⟩
    | cons c rest ih =>
      intro line number hparse
      rw [Text.linesFrom] at hparse
      by_cases hnewline : c = '\n'
      · rw [if_pos hnewline] at hparse
        obtain ⟨hline, hrest⟩ := parseLines_cons_eq_nil hparse
        have hblank : Text.isBlank c = true := by
          rw [hnewline]
          decide
        exact ⟨fun c hc => hline c (List.mem_reverse.2 hc),
          List.forall_mem_cons.2 ⟨hblank, (ih [] (number + 1) hrest).2⟩⟩
      · rw [if_neg hnewline] at hparse
        obtain ⟨hline, hrest⟩ := ih (c :: line) number hparse
        obtain ⟨hc, hline⟩ := List.forall_mem_cons.1 hline
        exact ⟨hline, List.forall_mem_cons.2 ⟨hc, hrest⟩⟩
  exact (hall text.toList [] 1 h).2

end TranscriptText

end AgentFeed
