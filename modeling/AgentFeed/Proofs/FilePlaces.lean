import AgentFeed.Disk.Tree
import AgentFeed.Proofs.Table

/-!
# Where paths lead

All names of a path but the last lead through directories. So a path that leads somewhere leads to
the same place in every tree that has the directories of this one and maybe more
(`KeepsDirectories.follow_eq`). Changing a file is one way to get such a tree
(`keepsDirectories_put`), making directories is another.

Making directories changes nothing else (`addsDirectories_createFrom`). It is done for good: once
more it does the same, and so it has nothing left to do (`createFrom_again`), and it stays done as
long as the directories stay (`createFrom_of_keepsDirectories`).
-/

namespace AgentFeed.FileTree

/-! ## 1. Following names -/

theorem node?_nil (t : FileTree) : t.node? [] = some .directory :=
  if_pos rfl

theorem node?_put (t : FileTree) {place : List String} (hne : place ≠ []) (node : Node)
    (other : List String) :
    (t.put place node).node? other = if place = other then some node else t.node? other := by
  rw [node?, node?]
  by_cases hroot : other = []
  · rw [if_pos hroot, if_pos hroot, hroot, if_neg hne]
  · rw [if_neg hroot, if_neg hroot]
    exact Table.get?_insert t.nodes place node other

theorem requireDirectory_eq_ok_iff {t : FileTree} {place : List String} :
    t.requireDirectory place = .ok () ↔ t.node? place = some .directory := by
  rw [requireDirectory]
  rcases t.node? place with _ | _ | _ <;> simp

/-- Names that lead somewhere start in a directory. -/
theorem directory_of_follow {t : FileTree} {place found : List String} {name : String}
    {rest : List String} (h : t.follow place (name :: rest) = .ok found) :
    t.node? place = some .directory := by
  rw [← requireDirectory_eq_ok_iff]
  rw [follow] at h
  cases hrequire : t.requireDirectory place with
  | error e =>
    rw [hrequire] at h
    cases h
  | ok done => rfl

theorem follow_append (t : FileTree) (place names more : List String) :
    t.follow place (names ++ more) = (t.follow place names).bind (t.follow · more) := by
  induction names generalizing place with
  | nil => rfl
  | cons name rest ih =>
    rw [List.cons_append, follow, follow]
    cases t.requireDirectory place with
    | error e => rfl
    | ok done =>
      simp only [bind, Except.bind]
      split_ifs
      · exact ih place
      · exact ih place.dropLast
      · rfl
      · exact ih (place ++ [name])

theorem place_of_fault {path : String} {fault : DiskError} (h : pathFault? path = some fault)
    (t : FileTree) : t.place path = .error fault := by
  rw [place, h]

theorem place_of_no_fault {path : String} (h : pathFault? path = none) (t : FileTree) :
    t.place path = t.follow (t.start path) (Path.pieces path) := by
  rw [place, h]

/-- The second tree has the directories of the first, maybe others in addition. -/
structure KeepsDirectories (t t' : FileTree) : Prop where
  /-- Relative paths start in the same place. -/
  workingDirectory : t'.workingDirectory = t.workingDirectory
  /-- A directory is still one. -/
  directory : ∀ {place}, t.node? place = some .directory → t'.node? place = some .directory

namespace KeepsDirectories

variable {t t' t'' : FileTree}

theorem trans (h : t.KeepsDirectories t') (h' : t'.KeepsDirectories t'') :
    t.KeepsDirectories t'' :=
  ⟨h'.workingDirectory.trans h.workingDirectory, fun hplace => h'.directory (h.directory hplace)⟩

theorem start_eq (h : t.KeepsDirectories t') (path : String) : t'.start path = t.start path := by
  rw [start, start, h.workingDirectory]

/-- **A path that leads somewhere** leads there as long as the directories stay. -/
theorem follow_eq (h : t.KeepsDirectories t') {place names found : List String}
    (hfound : t.follow place names = .ok found) : t'.follow place names = .ok found := by
  induction names generalizing place with
  | nil => exact hfound
  | cons name rest ih =>
    rw [follow] at hfound ⊢
    cases hplace : t.requireDirectory place with
    | error e =>
      rw [hplace] at hfound
      cases hfound
    | ok done =>
      have hkept := requireDirectory_eq_ok_iff.2
        (h.directory (requireDirectory_eq_ok_iff.1 hplace))
      rw [hplace] at hfound
      rw [hkept]
      simp only [bind, Except.bind] at hfound ⊢
      split_ifs at hfound ⊢
      · exact ih hfound
      · exact ih hfound
      · exact ih hfound

end KeepsDirectories

/-! ## 2. Changing files -/

/-- What a reader gets from what is at a place. -/
def contentOf : Option Node → Except DiskError FileContent
  | none => .error .notFound
  | some .directory => .error .isDirectory
  | some (.file content) => .ok content

theorem read_eq (t : FileTree) (path : String) :
    t.read path = (t.place path).bind fun place => contentOf (t.node? place) := by
  rw [read, lookup]
  cases t.place path with
  | error e => rfl
  | ok place =>
    simp only [bind, Except.bind]
    rcases t.node? place with _ | _ | _ <;> rfl

theorem readText_eq (t : FileTree) (path : String) :
    t.readText path = (t.read path).bind fun content =>
      content.text?.elim (.error .notText) .ok := by
  rw [readText]
  cases t.read path with
  | error e => rfl
  | ok content =>
    simp only [bind, Except.bind]
    cases content.text? <;> rfl

/-- A file is changed, or created, at the place where its path leads. -/
theorem changeFile_of_place {t : FileTree} {path : String} {place : List String}
    {old : Option FileContent} (hplace : t.place path = .ok place) (hwritable : place ∉ t.readOnly)
    (hnode : t.node? place = old.map .file) (change : Option FileContent → FileContent) :
    t.changeFile path change = .ok (t.put place (.file (change old))) := by
  rw [changeFile, hplace]
  simp only [bind, Except.bind]
  rw [if_neg (by simpa using hwritable), hnode]
  cases old <;> rfl

theorem changeFile_eq_ok {t t' : FileTree} {path : String}
    {change : Option FileContent → FileContent} (h : t.changeFile path change = .ok t') :
    ∃ place old, t.place path = .ok place ∧ place ∉ t.readOnly ∧ t.node? place = old.map .file ∧
      t' = t.put place (.file (change old)) := by
  cases hplace : t.place path with
  | error e =>
    rw [changeFile, hplace] at h
    cases h
  | ok place =>
    by_cases hwritable : place ∈ t.readOnly
    · rw [changeFile, hplace] at h
      simp only [bind, Except.bind] at h
      rw [if_pos (by simpa using hwritable)] at h
      cases h
    · have hchanged : ∀ old, t.node? place = old.map .file →
          t' = t.put place (.file (change old)) := by
        intro old hnode
        rw [changeFile_of_place hplace hwritable hnode] at h
        exact (Except.ok.inj h).symm
      cases hnode : t.node? place with
      | none => exact ⟨place, none, rfl, hwritable, hnode, hchanged none hnode⟩
      | some node =>
        cases node with
        | file content => exact ⟨place, some content, rfl, hwritable, hnode, hchanged _ hnode⟩
        | directory =>
          rw [changeFile, hplace] at h
          simp only [bind, Except.bind] at h
          rw [if_neg (by simpa using hwritable), hnode] at h
          cases h

/-- Where there is a file, or nothing, there is no directory to lose, and it is not the root. -/
theorem ne_nil_of_node? {t : FileTree} {place : List String} {old : Option FileContent}
    (h : t.node? place = old.map .file) : place ≠ [] := by
  rintro rfl
  rw [node?_nil] at h
  cases old <;> cases h

theorem keepsDirectories_put {t : FileTree} {place : List String} {old : Option FileContent}
    (h : t.node? place = old.map .file) (content : FileContent) :
    t.KeepsDirectories (t.put place (.file content)) where
  workingDirectory := rfl
  directory {other} hother := by
    rw [node?_put t (ne_nil_of_node? h), if_neg]
    · exact hother
    · rintro rfl
      rw [hother] at h
      cases old <;> cases h

/-! ## 3. Making directories -/

/-- The second tree is the first with some directories made where nothing was. -/
structure AddsDirectories (t t' : FileTree) : Prop where
  /-- Relative paths start in the same place. -/
  workingDirectory : t'.workingDirectory = t.workingDirectory
  /-- What is new is a directory. -/
  node?_eq : ∀ place, t'.node? place = t.node? place ∨
    t.node? place = none ∧ t'.node? place = some .directory

namespace AddsDirectories

variable {t t' t'' : FileTree}

theorem refl (t : FileTree) : t.AddsDirectories t :=
  ⟨rfl, fun _ => .inl rfl⟩

theorem trans (h : t.AddsDirectories t') (h' : t'.AddsDirectories t'') :
    t.AddsDirectories t'' := by
  refine ⟨h'.workingDirectory.trans h.workingDirectory, fun place => ?_⟩
  rcases h.node?_eq place with hold | ⟨hnone, hnew⟩
  · rw [← hold]
    exact h'.node?_eq place
  · refine .inr ⟨hnone, ?_⟩
    rcases h'.node?_eq place with hsame | ⟨hnone', -⟩
    · exact hsame.trans hnew
    · rw [hnew] at hnone'
      cases hnone'

theorem keepsDirectories (h : t.AddsDirectories t') : t.KeepsDirectories t' := by
  refine ⟨h.workingDirectory, fun {place} hplace => ?_⟩
  rcases h.node?_eq place with hsame | ⟨hnone, -⟩
  · exact hsame.trans hplace
  · rw [hplace] at hnone
    cases hnone

theorem put (t : FileTree) {place : List String} (hne : place ≠ []) (h : t.node? place = none) :
    t.AddsDirectories (t.put place .directory) := by
  refine ⟨rfl, fun other => ?_⟩
  rw [node?_put t hne]
  by_cases heq : place = other
  · rw [if_pos heq]
    exact .inr ⟨heq ▸ h, rfl⟩
  · rw [if_neg heq]
    exact .inl rfl

/-- A path leads to the same place as before, unless it led nowhere. -/
theorem follow_eq (h : t.AddsDirectories t') (place names : List String) :
    t.follow place names = .error .notFound ∨ t'.follow place names = t.follow place names := by
  induction names generalizing place with
  | nil => exact .inr rfl
  | cons name rest ih =>
    rw [follow, follow, requireDirectory, requireDirectory]
    rcases h.node?_eq place with hsame | ⟨hnone, -⟩
    · rw [hsame]
      rcases t.node? place with _ | _ | _
      · exact .inl rfl
      · simp only [bind, Except.bind]
        split_ifs
        · exact ih place
        · exact ih place.dropLast
        · exact .inr rfl
        · exact ih (place ++ [name])
      · exact .inr rfl
    · rw [hnone]
      exact .inl rfl

theorem place_eq (h : t.AddsDirectories t') (path : String) :
    t.place path = .error .notFound ∨ t'.place path = t.place path := by
  cases hfault : pathFault? path with
  | some fault =>
    rw [place_of_fault hfault, place_of_fault hfault]
    exact .inr rfl
  | none =>
    rw [place_of_no_fault hfault, place_of_no_fault hfault, h.keepsDirectories.start_eq]
    exact h.follow_eq (t.start path) (Path.pieces path)

/-- **A file reads as before** when directories were made, unless it was not found. -/
theorem readText_eq (h : t.AddsDirectories t') (path : String) :
    t.readText path = .error .notFound ∨ t'.readText path = t.readText path := by
  rw [readText, readText, read, read, lookup, lookup]
  rcases h.place_eq path with hnone | hsame
  · rw [hnone]
    exact .inl rfl
  · rw [hsame]
    cases t.place path with
    | error e => exact .inr rfl
    | ok place =>
      simp only [bind, Except.bind]
      rcases h.node?_eq place with hnode | ⟨hnone, -⟩
      · rw [hnode]
        exact .inr rfl
      · rw [hnone]
        exact .inl rfl

end AddsDirectories

/-- What making a name does: it moves on, it fails whatever is on the disk, or it looks at a place and
makes the directory that is missing there. -/
theorem createFrom_cases (place : List String) (name : String) (rest : List String) :
    (∃ next, ∀ t : FileTree, t.createFrom place (name :: rest) = t.createFrom next rest) ∨
    (∃ e, ∀ t : FileTree, t.createFrom place (name :: rest) = (.error e, t)) ∨
    ∃ next stops, next ≠ [] ∧ ∀ t : FileTree, t.createFrom place (name :: rest) =
      match t.node? next with
      | some .directory => t.createFrom next rest
      | some (.file _) => (.error .notDirectory, t)
      | none =>
        if stops = true then (.error .notFound, t)
        else (t.put next .directory).createFrom next rest := by
  by_cases hdot : (decide (name = "") || decide (name = ".")) = true
  · refine .inl ⟨place, fun t => ?_⟩
    rw [createFrom, if_pos hdot]
  by_cases hup : name = ".."
  · refine .inl ⟨place.dropLast, fun t => ?_⟩
    rw [createFrom, if_neg hdot, if_pos hup]
  by_cases hlong : nameLimit < name.utf8ByteSize
  · refine .inr (.inl ⟨.nameTooLong, fun t => ?_⟩)
    rw [createFrom, if_neg hdot, if_neg hup, if_pos hlong]
  · refine .inr (.inr ⟨place ++ [name],
      rest.contains "." && rest.all fun name => name = "" || name = ".", by simp, fun t => ?_⟩)
    rw [createFrom, if_neg hdot, if_neg hup]
    exact if_neg hlong

theorem addsDirectories_createFrom (t : FileTree) (place names : List String) :
    t.AddsDirectories (t.createFrom place names).2 := by
  induction names generalizing t place with
  | nil => exact .refl t
  | cons name rest ih =>
    rcases createFrom_cases place name rest with
      ⟨next, hmove⟩ | ⟨e, hfail⟩ | ⟨next, stops, hne, hlook⟩
    · rw [hmove]
      exact ih t next
    · rw [hfail]
      exact .refl t
    · rw [hlook]
      cases hnode : t.node? next with
      | none =>
        cases stops with
        | true => exact .refl t
        | false => exact (AddsDirectories.put t hne hnode).trans (ih _ next)
      | some node =>
        cases node with
        | directory => exact ih t next
        | file content => exact .refl t

/-- **Making directories once more** does what it did, and finds nothing to do. -/
theorem createFrom_again (t : FileTree) (place names : List String) :
    (t.createFrom place names).2.createFrom place names = t.createFrom place names := by
  induction names generalizing t place with
  | nil => rfl
  | cons name rest ih =>
    rcases createFrom_cases place name rest with
      ⟨next, hmove⟩ | ⟨e, hfail⟩ | ⟨next, stops, hne, hlook⟩
    · rw [hmove, hmove]
      exact ih t next
    · rw [hfail, hfail]
    · -- What is at the place the second time is what was left there the first time.
      cases hnode : t.node? next with
      | none =>
        cases stops with
        | true => simp only [hlook, hnode, if_true]
        | false =>
          have hput : (t.put next .directory).node? next = some .directory := by
            rw [node?_put t hne, if_pos rfl]
          have hleft := (addsDirectories_createFrom (t.put next .directory) next
            rest).keepsDirectories.directory hput
          simp only [hlook t, hnode, Bool.false_eq_true, if_false]
          simp only [hlook, hleft]
          exact ih _ next
      | some node =>
        cases node with
        | directory =>
          have hleft := (addsDirectories_createFrom t next rest).keepsDirectories.directory hnode
          simp only [hlook t, hnode]
          simp only [hlook, hleft]
          exact ih t next
        | file content => simp only [hlook, hnode]

/-- **What was made stays made** as long as the directories stay. -/
theorem createFrom_of_keepsDirectories {t t' : FileTree} (h : t.KeepsDirectories t')
    {place names : List String} (hmade : t.createFrom place names = (.ok (), t)) :
    t'.createFrom place names = (.ok (), t') := by
  induction names generalizing place with
  | nil => rfl
  | cons name rest ih =>
    rcases createFrom_cases place name rest with
      ⟨next, hmove⟩ | ⟨e, hfail⟩ | ⟨next, stops, hne, hlook⟩
    · rw [hmove] at hmade ⊢
      exact ih hmade
    · rw [hfail] at hmade
      cases hmade
    · rw [hlook] at hmade ⊢
      cases hnode : t.node? next with
      | none =>
        simp only [hnode] at hmade
        cases stops with
        | true => cases hmade
        | false =>
          -- A directory that was made just now would be in the tree.
          have hput : (t.put next .directory).node? next = some .directory := by
            rw [node?_put t hne, if_pos rfl]
          have hleft := (addsDirectories_createFrom (t.put next .directory) next
            rest).keepsDirectories.directory hput
          rw [if_neg Bool.false_ne_true] at hmade
          rw [hmade, hnode] at hleft
          cases hleft
      | some node =>
        simp only [hnode] at hmade
        cases node with
        | directory =>
          rw [h.directory hnode]
          exact ih hmade
        | file content => cases hmade

theorem addsDirectories_createDirectories (t : FileTree) (path : String) :
    t.AddsDirectories (t.createDirectories path).2 := by
  rw [createDirectories]
  split
  · exact addsDirectories_createFrom t _ _
  · exact .refl t
  · exact .refl t

theorem createDirectories_again (t : FileTree) (path : String) :
    (t.createDirectories path).2.createDirectories path = t.createDirectories path := by
  have hstart := (addsDirectories_createDirectories t path).keepsDirectories.start_eq path
  rw [createDirectories, hstart, createDirectories]
  cases pathFault? path with
  | none => exact createFrom_again t _ _
  | some fault => cases fault <;> rfl

theorem createDirectories_of_keepsDirectories {t t' : FileTree} (h : t.KeepsDirectories t')
    {path : String} (hmade : t.createDirectories path = (.ok (), t)) :
    t'.createDirectories path = (.ok (), t') := by
  rw [createDirectories] at hmade ⊢
  rw [h.start_eq]
  split at hmade
  · exact createFrom_of_keepsDirectories h hmade
  · rfl
  · cases hmade

end AgentFeed.FileTree
