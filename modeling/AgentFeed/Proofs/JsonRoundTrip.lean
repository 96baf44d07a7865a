import AgentFeed.Json.Document
import AgentFeed.Proofs.JsonTokens
import AgentFeed.Proofs.Table

/-!
# Reading back what was written: values

The compact text of a value is read back as the value. In between stands the document that the value
is written as (`Json.document`): the text of the value is scanned to the tokens of the document
(`Json.scan_chars`), the tokens are put together to the document
(`JsonDocument.ofTokens?_tokens`, which holds of every document), and the document denotes the value,
if it is not nested too deep for the reader (`Json.value?_document`); a reader without a limit reads
every value (`Json.parseAnyDepth?_compact`). The text is all on one line
(`Json.newline_notMem_chars`).

Doubles are left out. Their text is the shortest one, and reading it rounds twice, so it is not in
general the same double that comes back.
-/

namespace AgentFeed

/-! ## 1. The tokens of a document -/

namespace JsonDocument

mutual

/-- The tokens that spell a document. -/
def tokens : JsonDocument → List JsonToken
  | .null => [.null]
  | .bool b => [.bool b]
  | .number literal => [.number literal]
  | .text units => [.text units]
  | .array items => .openArray :: itemsTokens items ++ [.closeArray]
  | .object members => .openObject :: membersTokens members ++ [.closeObject]

/-- The tokens of items, a comma between two of them. -/
def itemsTokens : List JsonDocument → List JsonToken
  | [] => []
  | [d] => tokens d
  | d :: rest => tokens d ++ .comma :: itemsTokens rest

/-- The tokens of members, a comma between two of them. -/
def membersTokens : List (List TextUnit × JsonDocument) → List JsonToken
  | [] => []
  | [(k, d)] => .text k :: .colon :: tokens d
  | (k, d) :: rest => .text k :: .colon :: tokens d ++ .comma :: membersTokens rest

end

/-- Where an array may end, a document begins as the first item. -/
theorem foldlM_firstItem (d : JsonDocument) (after : List JsonToken) (stack : List Frame) :
    (d.tokens ++ after).foldlM Progress.step (.firstItem stack)
      = (d.tokens ++ after).foldlM Progress.step (.value (.array [] :: stack)) := by
  cases d <;> rfl

/-- Where an object may end, its first member begins as any other. -/
theorem foldlM_firstKey (k : List TextUnit) (after : List JsonToken) (stack : List Frame) :
    (JsonToken.text k :: after).foldlM Progress.step (.firstKey stack)
      = (JsonToken.text k :: after).foldlM Progress.step (.nextKey [] stack) := rfl

theorem itemsTokens_eq_append (d : JsonDocument) (rest : List JsonDocument) :
    ∃ after, itemsTokens (d :: rest) = d.tokens ++ after := by
  cases rest with
  | nil => exact ⟨[], (List.append_nil _).symm⟩
  | cons e rest => exact ⟨_, rfl⟩

theorem membersTokens_eq_cons (k : List TextUnit) (d : JsonDocument)
    (rest : List (List TextUnit × JsonDocument)) :
    ∃ after, membersTokens ((k, d) :: rest) = .text k :: after := by
  cases rest with
  | nil => exact ⟨_, rfl⟩
  | cons e rest => exact ⟨_, rfl⟩

mutual

/-- **The tokens of a document complete it**, in whatever containers it begins. -/
theorem foldlM_tokens : ∀ (d : JsonDocument) (stack : List Frame),
    d.tokens.foldlM Progress.step (.value stack) = some (Progress.complete d stack)
  | .null, _ => rfl
  | .bool _, _ => rfl
  | .number _, _ => rfl
  | .text _, _ => rfl
  | .array [], _ => rfl
  | .array (d :: rest), stack => by
    have hitems := foldlM_itemsTokens (d :: rest) (List.cons_ne_nil _ _) [] stack
    obtain ⟨after, hafter⟩ := itemsTokens_eq_append d rest
    rw [hafter, List.append_assoc, ← foldlM_firstItem, ← List.append_assoc, ← hafter] at hitems
    exact hitems
  | .object [], _ => rfl
  | .object ((k, d) :: rest), stack => by
    have hmembers := foldlM_membersTokens ((k, d) :: rest) (List.cons_ne_nil _ _) [] stack
    obtain ⟨after, hafter⟩ := membersTokens_eq_cons k d rest
    rw [hafter, List.cons_append, ← foldlM_firstKey, ← List.cons_append, ← hafter] at hmembers
    exact hmembers

/-- The tokens of items, with the end of their array. -/
theorem foldlM_itemsTokens : ∀ (items : List JsonDocument), items ≠ [] →
    ∀ (done : List JsonDocument) (stack : List Frame),
    (itemsTokens items ++ [JsonToken.closeArray]).foldlM Progress.step
        (.value (.array done :: stack))
      = some (Progress.complete (.array (done.reverse ++ items)) stack)
  | [], hne, _, _ => absurd rfl hne
  | [d], _, done, stack => by
    have hitem := foldlM_tokens d (.array done :: stack)
    rw [itemsTokens, List.foldlM_append, hitem, ← List.reverse_cons]
    rfl
  | d :: e :: rest, _, done, stack => by
    have hitem := foldlM_tokens d (.array done :: stack)
    have hrest := foldlM_itemsTokens (e :: rest) (List.cons_ne_nil _ _) (d :: done) stack
    rw [List.reverse_cons, List.append_assoc] at hrest
    rw [itemsTokens, List.append_assoc, List.foldlM_append, hitem]
    · exact hrest
    · exact List.cons_ne_nil _ _

/-- The tokens of members, with the end of their object. -/
theorem foldlM_membersTokens : ∀ (members : List (List TextUnit × JsonDocument)),
    members ≠ [] → ∀ (done : List (List TextUnit × JsonDocument)) (stack : List Frame),
    (membersTokens members ++ [JsonToken.closeObject]).foldlM Progress.step (.nextKey done stack)
      = some (Progress.complete (.object (done.reverse ++ members)) stack)
  | [], hne, _, _ => absurd rfl hne
  | [(k, d)], _, done, stack => by
    have hvalue := foldlM_tokens d (.object done k :: stack)
    have htail : (d.tokens ++ [JsonToken.closeObject]).foldlM Progress.step
          (.value (.object done k :: stack))
        = some (Progress.complete (.object ((k, d) :: done).reverse) stack) := by
      rw [List.foldlM_append, hvalue]
      rfl
    rw [List.reverse_cons] at htail
    exact htail
  | (k, d) :: e :: rest, _, done, stack => by
    have hvalue := foldlM_tokens d (.object done k :: stack)
    have hrest := foldlM_membersTokens (e :: rest) (List.cons_ne_nil _ _) ((k, d) :: done) stack
    have htail : (d.tokens ++ JsonToken.comma ::
          (membersTokens (e :: rest) ++ [JsonToken.closeObject])).foldlM
          Progress.step (.value (.object done k :: stack))
        = some (Progress.complete (.object (((k, d) :: done).reverse ++ e :: rest)) stack) := by
      rw [List.foldlM_append, hvalue]
      exact hrest
    rw [List.reverse_cons, List.append_assoc] at htail
    rw [membersTokens, List.append_assoc]
    · exact htail
    · exact List.cons_ne_nil _ _

end

theorem ofTokens?_tokens (d : JsonDocument) : ofTokens? d.tokens = some d := by
  rw [ofTokens?, foldlM_tokens]
  rfl

end JsonDocument

/-! ## 2. The document of a value -/

/-- The literal that a number is written as. -/
def JsonNumber.literal : JsonNumber → NumberLiteral
  | .integer n => .ofInt n
  | .double d => (NumberLiteral.ofChars? (JsonNumber.double d).chars).getD (.ofInt 0)

/-- Whether a number is an integer. -/
def JsonNumber.isInteger : JsonNumber → Bool
  | .integer _ => true
  | .double _ => false

namespace Json

mutual

/-- The document that a value is written as. -/
def document : Json → JsonDocument
  | .null => .null
  | .bool b => .bool b
  | .number n => .number n.literal
  | .string s => .text (TextUnit.ofString s)
  | .array items => .array (itemsDocument items)
  | .object members => .object (membersDocument members)

/-- The documents of items. -/
def itemsDocument : List Json → List JsonDocument
  | [] => []
  | v :: rest => document v :: itemsDocument rest

/-- The documents of members, under their keys as they are written. -/
def membersDocument : List (String × Json) → List (List TextUnit × JsonDocument)
  | [] => []
  | (k, v) :: rest => (TextUnit.ofString k, document v) :: membersDocument rest

end

mutual

/-- Whether every number in the value is an integer. -/
def integersOnly : Json → Bool
  | .null => true
  | .bool _ => true
  | .number n => n.isInteger
  | .string _ => true
  | .array items => itemsIntegersOnly items
  | .object members => membersIntegersOnly members

/-- Whether every number in a list of values is an integer. -/
def itemsIntegersOnly : List Json → Bool
  | [] => true
  | v :: rest => integersOnly v && itemsIntegersOnly rest

/-- Whether every number in a list of members is an integer. -/
def membersIntegersOnly : List (String × Json) → Bool
  | [] => true
  | (_, v) :: rest => integersOnly v && membersIntegersOnly rest

end

instance (members : List (String × Json)) : Decidable (Table.Sorted members) :=
  inferInstanceAs (Decidable (List.Pairwise _ members))

mutual

/-- Whether a value is canonical can be computed. -/
def decidableCanonical : (v : Json) → Decidable v.Canonical
  | .null => isTrue trivial
  | .bool _ => isTrue trivial
  | .number (.integer n) =>
    inferInstanceAs (Decidable (-Int.pow 2 63 ≤ n ∧ n < Int.pow 2 64))
  | .number (.double _) => isTrue trivial
  | .string _ => isTrue trivial
  | .array items => decidableCanonicalItems items
  | .object members =>
    have := decidableCanonicalMembers members
    inferInstanceAs (Decidable (Table.Sorted members ∧ CanonicalMembers members))

/-- The same for items. -/
def decidableCanonicalItems : (items : List Json) → Decidable (CanonicalItems items)
  | [] => isTrue trivial
  | v :: rest =>
    have := decidableCanonical v
    have := decidableCanonicalItems rest
    inferInstanceAs (Decidable (v.Canonical ∧ CanonicalItems rest))

/-- The same for members. -/
def decidableCanonicalMembers : (members : List (String × Json)) →
    Decidable (CanonicalMembers members)
  | [] => isTrue trivial
  | (_, v) :: rest =>
    have := decidableCanonical v
    have := decidableCanonicalMembers rest
    inferInstanceAs (Decidable (v.Canonical ∧ CanonicalMembers rest))

end

instance (v : Json) : Decidable v.Canonical :=
  v.decidableCanonical

/-! ## 3. From text to tokens -/

open JsonToken JsonDocument

mutual

/-- **The text of a value is scanned to the tokens of its document**, where it stops. -/
theorem scan_chars : ∀ (v : Json), v.integersOnly = true → ∀ (found : List JsonToken)
    (rest : List Char), Stops rest →
    scan found (v.chars ++ rest) = scan (v.document.tokens.reverse ++ found) rest
  | .null, _, found, rest, _ => by
    rw [chars, List.cons_append, List.cons_append, List.cons_append, List.cons_append, scan]
    rfl
  | .bool true, _, found, rest, _ => by
    rw [chars, List.cons_append, List.cons_append, List.cons_append, List.cons_append, scan]
    rfl
  | .bool false, _, found, rest, _ => by
    rw [chars, List.cons_append, List.cons_append, List.cons_append, List.cons_append,
      List.cons_append, scan]
    rfl
  | .number (.integer n), _, found, rest, hstops => scan_intChars found n hstops
  | .number (.double d), h, _, _, _ => by cases h
  | .string s, _, found, rest, _ => scan_quoted found s rest
  | .array items, h, found, rest, _ => by
    have hitems := scan_itemsChars items h (.openArray :: found) (']' :: rest) rfl
    rw [chars, List.cons_append, List.cons_append, List.append_assoc, scan_single found rfl]
    refine hitems.trans ?_
    rw [scan_single _ rfl, document, tokens, List.reverse_append, List.reverse_cons]
    simp only [List.reverse_cons, List.reverse_nil, List.nil_append, List.append_assoc,
      List.cons_append]
  | .object members, h, found, rest, _ => by
    have hmembers := scan_membersChars members h (.openObject :: found) ('}' :: rest) rfl
    rw [chars, List.cons_append, List.cons_append, List.append_assoc, scan_single found rfl]
    refine hmembers.trans ?_
    rw [scan_single _ rfl, document, tokens, List.reverse_append, List.reverse_cons]
    simp only [List.reverse_cons, List.reverse_nil, List.nil_append, List.append_assoc,
      List.cons_append]

/-- The same for items. -/
theorem scan_itemsChars : ∀ (items : List Json), itemsIntegersOnly items = true →
    ∀ (found : List JsonToken) (rest : List Char), Stops rest →
    scan found (itemsChars items ++ rest)
      = scan ((itemsTokens (itemsDocument items)).reverse ++ found) rest
  | [], _, _, _, _ => rfl
  | [v], h, found, rest, hstops => by
    rw [itemsIntegersOnly, Bool.and_eq_true] at h
    exact scan_chars v h.1 found rest hstops
  | v :: w :: more, h, found, rest, hstops => by
    rw [itemsIntegersOnly, Bool.and_eq_true] at h
    have hfirst := scan_chars v h.1 found (',' :: (itemsChars (w :: more) ++ rest)) rfl
    have hmore := scan_itemsChars (w :: more) h.2 (.comma :: (v.document.tokens.reverse ++ found))
      rest hstops
    have htext : itemsChars (v :: w :: more) = v.chars ++ ',' :: itemsChars (w :: more) := rfl
    have htokens : itemsTokens (itemsDocument (v :: w :: more))
        = v.document.tokens ++ .comma :: itemsTokens (itemsDocument (w :: more)) := rfl
    rw [htext, List.append_assoc, List.cons_append]
    refine hfirst.trans ?_
    rw [scan_single _ rfl]
    refine hmore.trans ?_
    rw [htokens, List.reverse_append, List.reverse_cons, List.append_assoc, List.append_assoc]
    rfl

/-- The same for members. -/
theorem scan_membersChars : ∀ (members : List (String × Json)),
    membersIntegersOnly members = true → ∀ (found : List JsonToken) (rest : List Char),
    Stops rest → scan found (membersChars members ++ rest)
      = scan ((membersTokens (membersDocument members)).reverse ++ found) rest
  | [], _, _, _, _ => rfl
  | [(k, v)], h, found, rest, hstops => by
    rw [membersIntegersOnly, Bool.and_eq_true] at h
    have hvalue := scan_chars v h.1 (.colon :: .text (TextUnit.ofString k) :: found) rest hstops
    rw [membersChars, List.append_assoc, List.cons_append, scan_quoted, scan_single _ rfl]
    refine hvalue.trans ?_
    rw [membersDocument, membersDocument, membersTokens, List.reverse_cons, List.reverse_cons,
      List.append_assoc, List.append_assoc]
    rfl
  | (k, v) :: w :: more, h, found, rest, hstops => by
    rw [membersIntegersOnly, Bool.and_eq_true] at h
    have hvalue := scan_chars v h.1 (.colon :: .text (TextUnit.ofString k) :: found)
      (',' :: (membersChars (w :: more) ++ rest)) rfl
    have hmore := scan_membersChars (w :: more) h.2
      (.comma :: (v.document.tokens.reverse ++ .colon :: .text (TextUnit.ofString k) :: found))
      rest hstops
    have htext : membersChars ((k, v) :: w :: more)
        = quoted k ++ ':' :: v.chars ++ ',' :: membersChars (w :: more) := rfl
    have htokens : membersTokens (membersDocument ((k, v) :: w :: more))
        = .text (TextUnit.ofString k) :: .colon :: v.document.tokens
          ++ .comma :: membersTokens (membersDocument (w :: more)) := rfl
    rw [htext, List.append_assoc, List.append_assoc, List.cons_append, List.cons_append,
      scan_quoted, scan_single _ rfl]
    refine hvalue.trans ?_
    rw [scan_single _ rfl]
    refine hmore.trans ?_
    rw [htokens]
    simp only [List.reverse_append, List.reverse_cons, List.append_assoc, List.cons_append,
      List.nil_append]

end

/-! ## 4. From the document to the value -/

mutual

/-- **The document of a value denotes the value**, unless it is nested too deep. -/
theorem value?_document : ∀ (v : Json) (room : Nat), v.Canonical → v.integersOnly = true →
    v.document.value? room = if v.depth ≤ room then some v else none
  | .null, _, _, _ => by rw [document, value?, depth, if_pos (Nat.zero_le _)]
  | .bool _, _, _, _ => by rw [document, value?, depth, if_pos (Nat.zero_le _)]
  | .number (.integer n), _, h, _ => by
    rw [document, JsonNumber.literal, value?, NumberLiteral.value?_ofInt h, depth,
      if_pos (Nat.zero_le _)]
    rfl
  | .number (.double d), _, _, h => by cases h
  | .string s, _, _, _ => by
    rw [document, value?, TextUnit.string?_ofString, depth, if_pos (Nat.zero_le _)]
    rfl
  | .array items, 0, _, _ => by
    rw [document, value?, depth, if_neg (Nat.not_succ_le_zero _)]
  | .array items, room + 1, h, hintegers => by
    have hitems := itemValues?_document items room h hintegers
    rw [document, value?, hitems, depth]
    by_cases hdeep : itemsDepth items ≤ room
    · rw [if_pos hdeep, if_pos (Nat.succ_le_succ hdeep), Option.map_some]
    · rw [if_neg hdeep, if_neg fun hle => hdeep (Nat.le_of_succ_le_succ hle), Option.map_none]
  | .object members, 0, _, _ => by
    rw [document, value?, depth, if_neg (Nat.not_succ_le_zero _)]
  | .object members, room + 1, h, hintegers => by
    have hmembers := memberValues?_document members room h.2 hintegers
    rw [document, value?, hmembers, depth]
    by_cases hdeep : membersDepth members ≤ room
    · rw [if_pos hdeep, if_pos (Nat.succ_le_succ hdeep), Option.map_some, ofMembers,
        h.1.ofPairs_eq_self]
    · rw [if_neg hdeep, if_neg fun hle => hdeep (Nat.le_of_succ_le_succ hle), Option.map_none]

/-- The same for items. -/
theorem itemValues?_document : ∀ (items : List Json) (room : Nat), CanonicalItems items →
    itemsIntegersOnly items = true →
    itemValues? room (itemsDocument items) = if itemsDepth items ≤ room then some items else none
  | [], _, _, _ => by rw [itemsDocument, itemValues?, itemsDepth, if_pos (Nat.zero_le _)]
  | v :: rest, room, h, hintegers => by
    rw [itemsIntegersOnly, Bool.and_eq_true] at hintegers
    have hfirst := value?_document v room h.1 hintegers.1
    have hrest := itemValues?_document rest room h.2 hintegers.2
    rw [itemsDocument, itemValues?, hfirst, hrest, itemsDepth]
    by_cases hv : v.depth ≤ room
    · by_cases hr : itemsDepth rest ≤ room
      · rw [if_pos hv, if_pos hr, if_pos (Nat.max_le.2 ⟨hv, hr⟩)]
      · rw [if_pos hv, if_neg hr, if_neg fun hle => hr (Nat.max_le.1 hle).2]
    · rw [if_neg hv, if_neg fun hle => hv (Nat.max_le.1 hle).1]

/-- The same for members. -/
theorem memberValues?_document : ∀ (members : List (String × Json)) (room : Nat),
    CanonicalMembers members → membersIntegersOnly members = true →
    memberValues? room (membersDocument members)
      = if membersDepth members ≤ room then some members else none
  | [], _, _, _ => by rw [membersDocument, memberValues?, membersDepth, if_pos (Nat.zero_le _)]
  | (k, v) :: rest, room, h, hintegers => by
    rw [membersIntegersOnly, Bool.and_eq_true] at hintegers
    have hfirst := value?_document v room h.1 hintegers.1
    have hrest := memberValues?_document rest room h.2 hintegers.2
    rw [membersDocument, memberValues?, hfirst, hrest, membersDepth, TextUnit.string?_ofString]
    by_cases hv : v.depth ≤ room
    · by_cases hr : membersDepth rest ≤ room
      · rw [if_pos hv, if_pos hr, if_pos (Nat.max_le.2 ⟨hv, hr⟩)]
      · rw [if_pos hv, if_neg hr, if_neg fun hle => hr (Nat.max_le.1 hle).2]
    · rw [if_neg hv, if_neg fun hle => hv (Nat.max_le.1 hle).1]

end

/-! ## 5. From text to the value -/

theorem parse?_document {v : Json} (hintegers : v.integersOnly = true) :
    JsonDocument.parse? v.compact = some v.document := by
  have hscan := scan_chars v hintegers [] [] trivial
  rw [List.append_nil, List.append_nil, scan, List.reverse_reverse] at hscan
  rw [JsonDocument.parse?, ofChars?, compact, String.toList_ofList, hscan, Option.bind_some,
    ofTokens?_tokens]

/-- **The compact text of a value is read back as the value**, up to the greatest depth that is read;
beyond it the text is refused. -/
theorem parse?_compact {v : Json} (h : v.Canonical) (hintegers : v.integersOnly = true) :
    parse? v.compact = if v.depth ≤ depthLimit then some v else none := by
  rw [parse?, parse?_document hintegers, Option.bind_some, value?_document v depthLimit h hintegers]

mutual

/-- A text has at least as many characters as its value has levels. -/
theorem depth_le_length_chars : ∀ v : Json, v.depth ≤ v.chars.length
  | .null => Nat.zero_le _
  | .bool _ => Nat.zero_le _
  | .number _ => Nat.zero_le _
  | .string _ => Nat.zero_le _
  | .array items => by
    have hitems := itemsDepth_le_length items
    rw [depth, chars, List.cons_append, List.length_cons, List.length_append]
    omega
  | .object members => by
    have hmembers := membersDepth_le_length members
    rw [depth, chars, List.cons_append, List.length_cons, List.length_append]
    omega

/-- The same for items. -/
theorem itemsDepth_le_length : ∀ items : List Json, itemsDepth items ≤ (itemsChars items).length
  | [] => Nat.zero_le _
  | [v] => by
    rw [itemsDepth, itemsDepth, Nat.max_zero]
    exact depth_le_length_chars v
  | v :: w :: more => by
    have hfirst := depth_le_length_chars v
    have hmore := itemsDepth_le_length (w :: more)
    have htext : itemsChars (v :: w :: more) = v.chars ++ ',' :: itemsChars (w :: more) := rfl
    rw [itemsDepth, htext, List.length_append, List.length_cons]
    omega

/-- The same for members. -/
theorem membersDepth_le_length : ∀ members : List (String × Json),
    membersDepth members ≤ (membersChars members).length
  | [] => Nat.zero_le _
  | [(k, v)] => by
    have hvalue := depth_le_length_chars v
    rw [membersDepth, membersDepth, Nat.max_zero, membersChars, List.length_append,
      List.length_cons]
    omega
  | (k, v) :: w :: more => by
    have hvalue := depth_le_length_chars v
    have hmore := membersDepth_le_length (w :: more)
    have htext : membersChars ((k, v) :: w :: more)
        = quoted k ++ ':' :: v.chars ++ ',' :: membersChars (w :: more) := rfl
    rw [membersDepth, htext, List.length_append, List.length_append, List.length_cons,
      List.length_cons]
    omega

end

/-- **Without a greatest depth every compact text is read back as the value.** -/
theorem parseAnyDepth?_compact {v : Json} (h : v.Canonical) (hintegers : v.integersOnly = true) :
    parseAnyDepth? v.compact = some v := by
  have hlength : v.compact.length = v.chars.length := by rw [compact, String.length_ofList]
  rw [parseAnyDepth?, parse?_document hintegers, Option.bind_some, value?_document v _ h hintegers,
    if_pos (hlength ▸ v.depth_le_length_chars)]

/-- So the greatest depth is all that keeps a text that was written from being read. -/
theorem parse?_eq_filter_parseAnyDepth? {v : Json} (h : v.Canonical)
    (hintegers : v.integersOnly = true) :
    parse? v.compact = (parseAnyDepth? v.compact).filter (·.depth ≤ depthLimit) := by
  rw [parse?_compact h hintegers, parseAnyDepth?_compact h hintegers, Option.filter_some]
  simp only [decide_eq_true_eq]

/-! ## 6. On one line -/

theorem newline_notMem_escapeChar (c : Char) : '\n' ∉ escapeChar c := by
  have hdigits : ∀ n < 32, '\n' ∉ ['\\', 'u', '0', '0', Nat.digitChar (n / 16),
      Nat.digitChar (n % 16)] := by decide
  intro hmem
  rw [escapeChar] at hmem
  by_cases hline : c = '\n'
  · rw [hline] at hmem
    exact absurd hmem (by decide)
  · split_ifs at hmem with _ _ _ _ _ _ hcontrol
    all_goals first
      | exact absurd hmem (by decide)
      | exact hdigits c.toNat hcontrol hmem
      | exact hline (List.mem_singleton.1 hmem).symm

theorem newline_notMem_quoted (s : String) : '\n' ∉ quoted s := by
  intro hmem
  rw [quoted, List.cons_append, List.mem_cons, List.mem_append, List.mem_flatMap] at hmem
  rcases hmem with hquote | ⟨c, -, hc⟩ | hquote
  · exact absurd hquote (by decide)
  · exact newline_notMem_escapeChar c hc
  · exact absurd hquote (by decide)

mutual

/-- **The compact text of a value has no line feed.** -/
theorem newline_notMem_chars : ∀ (v : Json), v.integersOnly = true → '\n' ∉ v.chars
  | .null, _ => by decide
  | .bool true, _ => by decide
  | .bool false, _ => by decide
  | .number (.integer n), _ => fun hmem => by
    have hchar := isNumberChar_of_mem_intChars hmem
    exact absurd hchar (by decide)
  | .number (.double d), h => by cases h
  | .string s, _ => newline_notMem_quoted s
  | .array items, h => by
    have hitems := newline_notMem_itemsChars items h
    simp [chars, hitems]
  | .object members, h => by
    have hmembers := newline_notMem_membersChars members h
    simp [chars, hmembers]

/-- The same for items. -/
theorem newline_notMem_itemsChars : ∀ (items : List Json), itemsIntegersOnly items = true →
    '\n' ∉ itemsChars items
  | [], _ => List.not_mem_nil
  | [v], h => by
    rw [itemsIntegersOnly, Bool.and_eq_true] at h
    exact newline_notMem_chars v h.1
  | v :: w :: more, h => by
    rw [itemsIntegersOnly, Bool.and_eq_true] at h
    have hfirst := newline_notMem_chars v h.1
    have hmore := newline_notMem_itemsChars (w :: more) h.2
    simp [itemsChars, hfirst, hmore]

/-- The same for members. -/
theorem newline_notMem_membersChars : ∀ (members : List (String × Json)),
    membersIntegersOnly members = true → '\n' ∉ membersChars members
  | [], _ => List.not_mem_nil
  | [(k, v)], h => by
    rw [membersIntegersOnly, Bool.and_eq_true] at h
    have hkey := newline_notMem_quoted k
    have hvalue := newline_notMem_chars v h.1
    simp [membersChars, hkey, hvalue]
  | (k, v) :: w :: more, h => by
    rw [membersIntegersOnly, Bool.and_eq_true] at h
    have hkey := newline_notMem_quoted k
    have hvalue := newline_notMem_chars v h.1
    have hmore := newline_notMem_membersChars (w :: more) h.2
    simp [membersChars, hkey, hvalue, hmore]

end

end Json

end AgentFeed
