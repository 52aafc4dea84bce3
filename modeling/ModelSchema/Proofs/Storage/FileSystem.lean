import ModelSchema.Storage.FileSystem

/-!
What the operations of a file system change.

* `FileSystem.entry?_put`: an entry that is set is the only one to change.
* `FileSystem.KeepsAt`: a place has what it had before, or is a new directory.
* `FileSystem.AddsDirectories`: this holds of all places; so it does after a directory is made with
  all that are missing above it.
* `FileSystem.locate_eq`: a path from the root leads to the same place in all file systems, if it
  leads anywhere.
* `FileSystem.Writes`: it holds of all places but one, where there is a file now; so it does after a
  file is written.
-/

namespace ModelSchema.FileSystem

variable {files after last : FileSystem} {place parts : List String} {path : FilePath}

/-! ### Entries -/

/-- The root is a directory, whatever is set. -/
@[simp]
theorem entry?_nil : files.entry? [] = some .directory := rfl

theorem workingDirectory_put {entry : FileEntry} :
    (files.put place entry).workingDirectory = files.workingDirectory := by
  unfold put
  split <;> rfl

/-- The first entry of a place, when all entries of a place are replaced. -/
theorem find?_replaced {entries : List (List String × FileEntry)} {entry : FileEntry} :
    (entries.map fun (p, e) => if p = place then (p, entry) else (p, e)).find? (·.1 = parts)
      = (entries.find? (·.1 = parts)).map fun found =>
        if parts = place then (found.1, entry) else found := by
  induction entries with
  | nil => rfl
  | cons first rest ih =>
    obtain ⟨p, e⟩ := first
    rw [List.map_cons, List.find?_cons, List.find?_cons, ih]
    by_cases here : p = place
    · subst here
      by_cases found : p = parts <;> simp [found]
    · by_cases found : p = parts
      · subst found
        simp [here]
      · simp [here, found]

/-- An entry that is set is the only one to change. -/
theorem entry?_put {entry : FileEntry} (below : place ≠ []) :
    FileSystem.entry? (files.put place entry) parts
      = if parts = place then some entry else files.entry? parts := by
  cases parts with
  | nil => rw [entry?_nil, entry?_nil, if_neg (Ne.symm below)]
  | cons first rest =>
    unfold entry? put
    rw [List.isEmpty_cons, if_neg Bool.false_ne_true, if_neg Bool.false_ne_true]
    split
    next there =>
      rw [find?_replaced]
      by_cases here : first :: rest = place
      · obtain ⟨found, isFound⟩ :=
          Option.isSome_iff_exists.mp (List.find?_isSome.mpr (List.any_eq_true.mp there))
        rw [here, if_pos rfl, isFound]
        simp
      · rw [if_neg here]
        simp [here]
    next absent =>
      rw [List.find?_append]
      by_cases here : first :: rest = place
      · have noneThere : files.entries.find? (·.1 = place) = none := by
          refine List.find?_eq_none.mpr fun entry member isThere => absent ?_
          exact List.any_eq_true.mpr ⟨entry, member, isThere⟩
        rw [here, if_pos rfl, noneThere]
        simp
      · rw [if_neg here]
        simp [Ne.symm here]

/-- The text of the file at a place. -/
def text? (files : FileSystem) (parts : List String) : Option String :=
  match files.entry? parts with
  | some (.file text) => some text
  | _ => none

/-- Whether a place has what it had before, or a new directory where there was nothing. -/
def KeepsAt (files after : FileSystem) (parts : List String) : Prop :=
  after.entry? parts = files.entry? parts
    ∨ (files.entry? parts = none ∧ after.entry? parts = some .directory)

namespace KeepsAt

theorem refl (files : FileSystem) (parts : List String) : files.KeepsAt files parts := .inl rfl

theorem trans (first : files.KeepsAt after parts) (second : after.KeepsAt last parts) :
    files.KeepsAt last parts := by
  rcases second with same | ⟨absent, isNew⟩
  · unfold KeepsAt
    rw [same]
    exact first
  · rcases first with same | ⟨-, isDirectory⟩
    · exact .inr ⟨same ▸ absent, isNew⟩
    · rw [absent] at isDirectory
      cases isDirectory

/-- Files keep their texts, and there are no new ones. -/
theorem text?_eq (keeps : files.KeepsAt after parts) : after.text? parts = files.text? parts := by
  unfold text?
  rcases keeps with same | ⟨absent, isNew⟩
  · rw [same]
  · rw [absent, isNew]

end KeepsAt

/-! ### Directories -/

/-- Whether a file system has nothing but new directories over another one. -/
structure AddsDirectories (files after : FileSystem) : Prop where
  workingDirectory : after.workingDirectory = files.workingDirectory
  keeps : ∀ parts, files.KeepsAt after parts

theorem AddsDirectories.refl (files : FileSystem) : files.AddsDirectories files :=
  ⟨rfl, .refl files⟩

theorem AddsDirectories.trans (first : files.AddsDirectories after)
    (second : after.AddsDirectories last) : files.AddsDirectories last :=
  ⟨second.workingDirectory.trans first.workingDirectory,
    fun parts => (first.keeps parts).trans (second.keeps parts)⟩

/-- A missing directory that is made is new. -/
theorem addsDirectories_put (absent : files.entry? place = none) :
    files.AddsDirectories (files.put place .directory) := by
  have below : place ≠ [] := by
    rintro rfl
    cases absent
  refine ⟨workingDirectory_put, fun parts => ?_⟩
  unfold KeepsAt
  rw [entry?_put below]
  split
  next here => exact .inr ⟨here ▸ absent, rfl⟩
  next => exact .inl rfl

theorem addsDirectories_makeDirectory (made : files.makeDirectory path = .ok after) :
    files.AddsDirectories after := by
  unfold makeDirectory at made
  cases located : files.locate path with
  | error error =>
    rw [located] at made
    cases made
  | ok place =>
    rw [located] at made
    dsimp only [bind, Except.bind] at made
    split at made
    · cases made
      exact .refl _
    · cases made
    next absent =>
      cases made
      exact addsDirectories_put absent

theorem addsDirectories_foldlM {paths : List FilePath}
    (made : paths.foldlM (fun files path =>
      (files.makeDirectory path).mapError fun error => Fault.file error path.text) files
        = .ok after) :
    files.AddsDirectories after := by
  induction paths generalizing files with
  | nil =>
    cases made
    exact .refl _
  | cons path rest ih =>
    rw [List.foldlM_cons] at made
    cases first : files.makeDirectory path with
    | error error =>
      rw [first] at made
      cases made
    | ok next =>
      rw [first] at made
      exact (addsDirectories_makeDirectory first).trans (ih made)

/-- To make a directory with all that are missing above it adds nothing but directories. -/
theorem addsDirectories_makeDirectories (made : files.makeDirectories path = .ok after) :
    files.AddsDirectories after := by
  unfold makeDirectories at made
  split at made
  next direct =>
    cases made
    exact addsDirectories_makeDirectory direct
  next => exact addsDirectories_foldlM made
  next => cases made

/-! ### Places -/

/-- Whoever comes to the end of a path is where the path leads without a look at the entries. -/
theorem walk_eq {current : List String} (walked : files.walk current parts = .ok place) :
    place = parts.foldl (fun done part => if part = ".." then done.dropLast else done ++ [part])
      current := by
  induction parts generalizing current with
  | nil =>
    cases walked
    rfl
  | cons part rest ih =>
    rw [walk] at walked
    split at walked
    · exact ih walked
    · cases walked
    · cases walked

/-- A path from the root leads to the same place in all file systems. -/
theorem locate_eq (absolute : path.isAbsolute = true) (located : files.locate path = .ok place) :
    place = FilePath.goUp path.parts := by
  unfold locate at located
  rw [if_pos absolute] at located
  exact walk_eq located

/-! ### Files -/

/-- Whether a file system is another one with a file at a place, and maybe with new directories. -/
structure Writes (files : FileSystem) (place : List String) (text : String) (after : FileSystem) :
    Prop where
  workingDirectory : after.workingDirectory = files.workingDirectory
  written : after.text? place = some text
  keeps : ∀ parts, parts ≠ place → files.KeepsAt after parts

/-- A file is written where its path leads, whether there is an old one or none, and nothing else is
changed. -/
theorem writes_writeText {text shown : String} (absolute : path.isAbsolute = true)
    (written : files.writeText path text shown = .ok after) :
    files.Writes (FilePath.goUp path.parts) text after := by
  unfold writeText checkWritable at written
  cases located : files.locate path with
  | error error =>
    rw [located] at written
    cases written
  | ok place =>
    rw [located] at written
    obtain rfl := locate_eq absolute located
    change (if files.isDirectory (FilePath.goUp path.parts) = true then Except.error _
      else Except.ok (FilePath.goUp path.parts)) >>= (fun parts =>
        Except.ok (files.put parts (.file text))) = Except.ok after at written
    split at written
    · cases written
    next noDirectory =>
      cases written
      have below : FilePath.goUp path.parts ≠ [] := by
        intro isRoot
        simp [isRoot, isDirectory] at noDirectory
      refine ⟨workingDirectory_put, ?_, fun parts elsewhere => .inl ?_⟩
      · unfold text?
        rw [entry?_put below, if_pos rfl]
      · rw [entry?_put below, if_neg elsewhere]

theorem AddsDirectories.writes {text : String} (adds : files.AddsDirectories after)
    (writes : after.Writes place text last) : files.Writes place text last :=
  ⟨writes.workingDirectory.trans adds.workingDirectory, writes.written,
    fun parts elsewhere => (adds.keeps parts).trans (writes.keeps parts elsewhere)⟩

end ModelSchema.FileSystem
