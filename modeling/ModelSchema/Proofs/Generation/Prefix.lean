import ModelSchema.Example.Figures
import ModelSchema.Generation.Run
import ModelSchema.Proofs.Storage.FileSystem
import ModelSchema.Proofs.Storage.Path

/-!
A run that generates schemas writes a prefix of its classes.

Documents are made and written one after the other, so where one can not be made or written, those
of the classes before it are there and those behind it are not. No other file is touched.

* `LocationStrategy.place`: where the document of a class is put.
* `FileSystem.writes_writeDocument`: what writing one document changes.
* `WritesPrefix`, `StopsAt`: what a run over some classes has changed, and how it stops.
* `writeSchemas_prefix`: by induction on the classes, a run changes nothing else, and stops at the
  first failure or behind the last class.
* `GenerationOptions.generate_prefix`: so does a run that finds its classes itself. It changes
  nothing at all when they can not be found or registered.
-/

namespace ModelSchema

/-! ### Writing one document -/

namespace LocationStrategy

variable (strategy : LocationStrategy) (table : ClassTable) (directory workingDirectory : FilePath)

/-- The path of the document of a class, from the output directory. -/
def pathOf (c : ClassRef) : FilePath := strategy.outputPath (table.module c) (table.qualname c)

/-- Where the document of a class is put, as the components of a path without double dots. -/
def place (c : ClassRef) : List String :=
  FilePath.goUp ((directory.resolve workingDirectory).join (strategy.pathOf table c)).parts

/-- Whether classes have places of their own. -/
def Separates (classes : List ClassRef) : Prop :=
  classes.Pairwise fun c d => strategy.place table directory workingDirectory c
    ≠ strategy.place table directory workingDirectory d

/-- Classes with paths of their own have places of their own, unless there are names with slashes
that lead out of the output directory. -/
theorem separates_of_paths {classes : List ClassRef}
    (inside : ∀ c ∈ classes, (strategy.pathOf table c).StaysInside)
    (distinct : classes.Pairwise fun c d => strategy.pathOf table c ≠ strategy.pathOf table d) :
    strategy.Separates table directory workingDirectory classes := by
  refine distinct.imp_of_mem fun {c d} isC isD differ same => differ ?_
  have insideC := inside c isC
  have insideD := inside d isD
  unfold place at same
  rw [FilePath.goUp_join_resolve insideC, FilePath.goUp_join_resolve insideD] at same
  exact insideC.eq_of_parts insideD (List.append_cancel_left same)

end LocationStrategy

namespace FileSystem

variable {files after : FileSystem} {table : ClassTable} {directory : FilePath}
  {strategy : LocationStrategy} {document : SchemaDocument} {notices : List Notice}

/-- A document that is written stands at the place of its class. -/
theorem writes_writeDocument {path : FilePath}
    (written : files.writeDocument table directory strategy document = (after, notices, .ok path)) :
    files.Writes (strategy.place table directory files.workingDirectory document.type)
      document.text after := by
  unfold writeDocument at written
  dsimp only at written
  split at written
  next both =>
    cases written
    cases made : files.makeDirectories ((directory.resolve files.workingDirectory).join
        (strategy.outputPath (table.module document.type) (table.qualname document.type))).parent with
    | error fault =>
      rw [made] at both
      cases both
    | ok between =>
      rw [made] at both
      have absolute : ((directory.resolve files.workingDirectory).join
          (strategy.outputPath (table.module document.type)
            (table.qualname document.type))).isAbsolute = true := by
        unfold FilePath.join
        split
        next isAbsolute => exact isAbsolute
        next => rfl
      exact (addsDirectories_makeDirectories made).writes (writes_writeText absolute both)
  next => cases written

/-- A document that can not be written changes nothing. -/
theorem writeDocument_of_error {failure : Failure}
    (written : files.writeDocument table directory strategy document
      = (after, notices, .error failure)) : after = files := by
  unfold writeDocument at written
  dsimp only at written
  split at written
  · cases written
  · cases written
    rfl

end FileSystem

/-! ### The documents of a run -/

/-- A clock that has been read so many times. -/
def DocumentClock.ahead : Nat → DocumentClock → DocumentClock
  | 0, clock => clock
  | count + 1, clock =>
    match clock.next? with
    | some (_, later) => later.ahead count
    | none => clock

namespace Generator

variable {generator later : Generator} {catalog : Catalog} {c : ClassRef} {notices : List Notice}
  {document : SchemaDocument}

/-- The document that a generator makes of a class as its `n`th one, or why there is none. -/
def nthDocument (generator : Generator) (catalog : Catalog) (n : Nat) (c : ClassRef) :
    Except Failure SchemaDocument :=
  ({ generator with clock := generator.clock.ahead n }.generate catalog c).2.2

/-- A document is about its class, and when one is made nothing but the clock goes on. -/
theorem exists_of_generate
    (made : generator.generate catalog c = (later, notices, .ok document)) :
    document.type = c ∧ ∃ millis clock, generator.clock.next? = some (millis, clock)
      ∧ later = { generator with clock := clock } := by
  unfold generate build at made
  split at made
  · cases made
  · split at made
    · cases made
    next read =>
      cases made
      exact ⟨rfl, _, _, read, rfl⟩

/-- What a generator makes later, it makes as well when it starts there. -/
theorem nthDocument_succ (made : generator.generate catalog c = (later, notices, .ok document))
    (n : Nat) (d : ClassRef) :
    generator.nthDocument catalog (n + 1) d = later.nthDocument catalog n d := by
  obtain ⟨-, millis, clock, read, rfl⟩ := exists_of_generate made
  unfold nthDocument
  rw [DocumentClock.ahead, read]

end Generator

/-! ### Runs over classes -/

section

variable (catalog : Catalog) (directory : FilePath) (strategy : LocationStrategy)

/-- Whether the documents of the first classes of a list, so many of them, are in the files, each at
its place, and all else is as it was before, but for new directories. -/
structure WritesPrefix (generator : Generator) (files : FileSystem) (classes : List ClassRef)
    (count : Nat) (after : FileSystem) : Prop where
  workingDirectory : after.workingDirectory = files.workingDirectory
  own : ∀ n c, n < count → classes[n]? = some c → ∃ document,
    generator.nthDocument catalog n c = .ok document ∧ document.type = c
      ∧ after.text? (strategy.place catalog.table directory files.workingDirectory c)
        = some document.text
  others : ∀ parts, (∀ c ∈ classes.take count,
    parts ≠ strategy.place catalog.table directory files.workingDirectory c) →
    files.KeepsAt after parts

/-- Whether the document of a class can not be made as the `n`th one, or not be written. -/
def FailsAt (generator : Generator) (n : Nat) (files : FileSystem) (c : ClassRef)
    (failure : Failure) : Prop :=
  generator.nthDocument catalog n c = .error failure
    ∨ ∃ document, generator.nthDocument catalog n c = .ok document
      ∧ (files.writeDocument catalog.table directory strategy document).2.2 = .error failure

end

variable {catalog : Catalog} {directory : FilePath} {strategy : LocationStrategy}
  {generator later : Generator} {files after : FileSystem} {c : ClassRef}
  {classes : List ClassRef} {notices : List Notice}

/-- A document that is made and written is the first one of the generator. -/
theorem writes_writeSchema {path : FilePath}
    (ran : writeSchema catalog directory strategy generator files c
      = (later, after, notices, .ok path)) :
    ∃ document, generator.nthDocument catalog 0 c = .ok document ∧ document.type = c
      ∧ (∀ n d, generator.nthDocument catalog (n + 1) d = later.nthDocument catalog n d)
      ∧ files.Writes (strategy.place catalog.table directory files.workingDirectory c)
        document.text after := by
  unfold writeSchema at ran
  split at ran
  · cases ran
  next between made document isMade =>
    cases written : files.writeDocument catalog.table directory strategy document with
    | mk reached rest =>
      obtain ⟨more, result⟩ := rest
      rw [written] at ran
      cases ran
      have type := (Generator.exists_of_generate isMade).1
      refine ⟨document, ?_, type, Generator.nthDocument_succ isMade, ?_⟩
      · change (generator.generate catalog c).2.2 = _
        rw [isMade]
      · exact type ▸ FileSystem.writes_writeDocument written

/-- A document that can not be made or written is the first one of the generator, and nothing is
changed. -/
theorem failsAt_writeSchema {failure : Failure}
    (ran : writeSchema catalog directory strategy generator files c
      = (later, after, notices, .error failure)) :
    after = files ∧ FailsAt catalog directory strategy generator 0 files c failure := by
  unfold writeSchema at ran
  split at ran
  next between made failed isMade =>
    cases ran
    refine ⟨rfl, .inl ?_⟩
    change (generator.generate catalog c).2.2 = _
    rw [isMade]
  next between made document isMade =>
    cases written : files.writeDocument catalog.table directory strategy document with
    | mk reached rest =>
      obtain ⟨more, result⟩ := rest
      rw [written] at ran
      cases ran
      refine ⟨FileSystem.writeDocument_of_error written, .inr ⟨document, ?_, ?_⟩⟩
      · change (generator.generate catalog c).2.2 = _
        rw [isMade]
      · rw [written]

/-- A run over no classes leaves all as it was. -/
theorem WritesPrefix.zero :
    WritesPrefix catalog directory strategy generator files classes 0 files where
  workingDirectory := rfl
  own := fun n _ below => absurd below (Nat.not_lt_zero n)
  others := fun parts _ => .refl files parts

/-- A document is put in front of those of a run, at a place of its own. -/
theorem WritesPrefix.succ {between : FileSystem} {document : SchemaDocument} {count : Nat}
    (made : generator.nthDocument catalog 0 c = .ok document) (type : document.type = c)
    (goesOn : ∀ n d, generator.nthDocument catalog (n + 1) d = later.nthDocument catalog n d)
    (writes : files.Writes (strategy.place catalog.table directory files.workingDirectory c)
      document.text between)
    (apart : ∀ d ∈ classes, strategy.place catalog.table directory files.workingDirectory c
      ≠ strategy.place catalog.table directory files.workingDirectory d)
    (rest : WritesPrefix catalog directory strategy later between classes count after) :
    WritesPrefix catalog directory strategy generator files (c :: classes) (count + 1) after := by
  have others := rest.others
  have own := rest.own
  rw [writes.workingDirectory] at others own
  refine ⟨rest.workingDirectory.trans writes.workingDirectory, fun n d below isThere => ?_,
    fun parts elsewhere => ?_⟩
  · cases n with
    | zero =>
      obtain rfl : c = d := Option.some.inj isThere
      have keeps := others _ fun d member => apart d (List.mem_of_mem_take member)
      exact ⟨document, made, type, keeps.text?_eq.trans writes.written⟩
    | succ n =>
      rw [goesOn]
      exact own n d (Nat.lt_of_succ_lt_succ below) isThere
  · rw [List.take_succ_cons, List.forall_mem_cons] at elsewhere
    exact (writes.keeps parts elsewhere.1).trans (others parts elsewhere.2)

/-- How a run over classes stops: behind the last one, or at the first failure. -/
def StopsAt (catalog : Catalog) (directory : FilePath) (strategy : LocationStrategy)
    (generator : Generator) (classes : List ClassRef) (after : FileSystem) (count : Nat) :
    Except Failure Unit → Prop
  | .ok () => count = classes.length
  | .error failure => ∃ c, classes[count]? = some c
      ∧ FailsAt catalog directory strategy generator count after c failure

/-- A run over classes with places of their own writes the documents of the first ones and changes
nothing else. Either these are all classes, or the next one failed. -/
theorem writeSchemas_prefix {result : Except Failure Unit}
    (separate : strategy.Separates catalog.table directory files.workingDirectory classes)
    (ran : writeSchemas catalog directory strategy generator files classes
      = (after, notices, result)) :
    ∃ count ≤ classes.length,
      WritesPrefix catalog directory strategy generator files classes count after
      ∧ StopsAt catalog directory strategy generator classes after count result := by
  induction classes generalizing generator files notices with
  | nil =>
    cases ran
    exact ⟨0, Nat.le_refl 0, .zero, rfl⟩
  | cons c rest ih =>
    obtain ⟨apart, separateRest⟩ := List.pairwise_cons.mp separate
    rw [writeSchemas] at ran
    split at ran
    next wrote =>
      cases ran
      obtain ⟨rfl, fails⟩ := failsAt_writeSchema wrote
      exact ⟨0, Nat.zero_le _, .zero, c, rfl, fails⟩
    next later between first path wrote =>
      obtain ⟨document, made, type, goesOn, writes⟩ := writes_writeSchema wrote
      cases ranRest : writeSchemas catalog directory strategy later between rest with
      | mk reached reported =>
        obtain ⟨more, ended⟩ := reported
        rw [ranRest] at ran
        obtain ⟨rfl, -, rfl⟩ : reached = after ∧ first ++ more = notices ∧ ended = result := by
          simpa using ran
        obtain ⟨count, le, isPrefix, stops⟩ :=
          ih (writes.workingDirectory ▸ separateRest) ranRest
        refine ⟨count + 1, Nat.succ_le_succ le, isPrefix.succ made type goesOn writes apart, ?_⟩
        cases ended with
        | ok _ => exact congrArg Nat.succ stops
        | error failure =>
          obtain ⟨d, isThere, fails⟩ := stops
          refine ⟨d, isThere, ?_⟩
          unfold FailsAt
          rw [goesOn]
          exact fails

/-! ### Runs that find their classes -/

/-- Whether a search finds classes: the roots in scope, by qualified name. -/
structure Workspace.Finds (workspace : Workspace) (scope : Scope) (after : Workspace)
    (roots : List ClassRef) : Prop where
  search : ∃ notices, workspace.findRoots scope [] = (after, notices, .ok roots)
  mem_iff : ∀ c, c ∈ roots ↔
    c ∈ after.catalog.markers.roots ∧ scope.allows after.catalog.table c = true
  sorted : roots.Pairwise fun c d =>
    after.catalog.table.qualifiedName c ≤ after.catalog.table.qualifiedName d

/-- What a search reports to have found are the roots in scope, by qualified name. -/
theorem Workspace.finds_of_findRoots {workspace found : Workspace} {scope : Scope}
    {roots : List ClassRef} (search : workspace.findRoots scope [] = (found, notices, .ok roots)) :
    workspace.Finds scope found roots := by
  have isFound : roots = found.rootsIn scope := by
    unfold findRoots at search
    dsimp only at search
    split at search
    · cases search
    · cases search
      rfl
  refine ⟨⟨notices, search⟩, fun c => ?_, ?_⟩
  · rw [isFound, rootsIn, ClassTable.sortedByQualifiedName, List.mem_mergeSort, List.mem_filter]
  · rw [isFound]
    refine (List.pairwise_mergeSort ?_ ?_ _).imp of_decide_eq_true
    · intro a b c ab bc
      exact decide_eq_true (String.le_trans (of_decide_eq_true ab) (of_decide_eq_true bc))
    · intro a b
      rw [Bool.or_eq_true, decide_eq_true_iff, decide_eq_true_iff]
      exact String.le_total _ _

namespace GenerationOptions

/-- How a run ends that is more than an echo, and what it leaves in the files. -/
inductive EndsAs (options : GenerationOptions) (clock : DocumentClock) (workspace : Workspace)
    (files : FileSystem) : Workspace → FileSystem → Except Failure (List ClassRef) → Prop
  | unsearched {searched : Workspace} {notices : List Notice} {failure : Failure} :
      workspace.findRoots options.typeScope [] = (searched, notices, .error failure) →
      EndsAs options clock workspace files searched files (.error failure)
  | unregistered {searched : Workspace} {roots : List ClassRef} {failure : Failure} :
      workspace.Finds options.typeScope searched roots →
      ((Generator.fresh options.subtypeScope .subclasses clock).register searched.catalog
        (roots.map .cls)).2.2 = .error failure →
      EndsAs options clock workspace files searched files (.error failure)
  | stopped {searched : Workspace} {roots : List ClassRef} {generator : Generator}
      {notices : List Notice} {registry : Registry} {count : Nat} {c : ClassRef}
      {after : FileSystem} {failure : Failure} :
      workspace.Finds options.typeScope searched roots →
      (Generator.fresh options.subtypeScope .subclasses clock).register searched.catalog
        (roots.map .cls) = (generator, notices, .ok registry) →
      WritesPrefix searched.catalog options.outputDirectory options.strategy generator files roots
        count after →
      roots[count]? = some c →
      FailsAt searched.catalog options.outputDirectory options.strategy generator count after c
        failure →
      EndsAs options clock workspace files searched after (.error failure)
  | finished {searched : Workspace} {roots : List ClassRef} {generator : Generator}
      {notices : List Notice} {registry : Registry} {after : FileSystem} :
      workspace.Finds options.typeScope searched roots →
      (Generator.fresh options.subtypeScope .subclasses clock).register searched.catalog
        (roots.map .cls) = (generator, notices, .ok registry) →
      WritesPrefix searched.catalog options.outputDirectory options.strategy generator files roots
        roots.length after →
      EndsAs options clock workspace files searched after (.ok roots)

/-! ### Main result -/

/-- Where the roots in scope have places of their own, a run writes the documents of the first ones
and changes nothing else. It ends with the failure of the next one, or with all of them. Where they
can not be found or registered, it changes nothing. -/
theorem generate_prefix {options : GenerationOptions} {clock : DocumentClock}
    {searchPath : String} {workspace searched : Workspace} {files after : FileSystem}
    {notices : List Notice} {result : Except Failure (List ClassRef)}
    (writing : options.echoOnly = false)
    (separate : ∀ searched roots, workspace.Finds options.typeScope searched roots →
      options.strategy.Separates searched.catalog.table options.outputDirectory
        files.workingDirectory roots)
    (ran : options.generate clock searchPath workspace files
      = (searched, after, notices, result)) :
    options.EndsAs clock workspace files searched after result := by
  unfold generate at ran
  rw [if_neg (by simp [writing])] at ran
  split at ran
  next search =>
    cases ran
    exact .unsearched search
  next found first roots search =>
    have finds := Workspace.finds_of_findRoots search
    dsimp only at ran
    split at ran
    next unregistered =>
      cases ran
      exact .unregistered finds (by rw [unregistered])
    next generator more registry registered =>
      split at ran
      next wrote =>
        cases ran
        obtain ⟨count, -, isPrefix, c, isThere, fails⟩ :=
          writeSchemas_prefix (separate _ _ finds) wrote
        exact .stopped finds registered isPrefix isThere fails
      next wrote =>
        cases ran
        obtain ⟨count, -, isPrefix, rfl⟩ := writeSchemas_prefix (separate _ _ finds) wrote
        exact .finished finds registered isPrefix

end GenerationOptions

/-! ### An example -/

section

open Example

/-- The catalog of figures, with two roots. -/
def twoRoots : Workspace :=
  ⟨{ figures with markers := { figures.markers with roots := [square, drawing] } }, [], []⟩

/-- A directory with notes, and one where the document of the squares should be. -/
def crowded : FileSystem :=
  ((FileSystem.withWorkingDirectory (.ofRoot ["home"])).putDirectories
    ["home", "out", "figures", "Square.yml"]).put ["home", "notes"] (.file "old")

def intoTree : GenerationOptions :=
  ⟨false, ⟨.relative, ["out"]⟩, .directoryTree, .everything, .everything⟩

theorem pathOf_square : intoTree.strategy.pathOf twoRoots.catalog.table square
    = ⟨.relative, ["figures", "Square.yml"]⟩ := by
  unfold LocationStrategy.pathOf LocationStrategy.outputPath FilePath.ofParts fileStem
    FilePath.ofText
  simp only [FilePath.componentsOf_eq, dottedParts_eq]
  decide

theorem pathOf_drawing : intoTree.strategy.pathOf twoRoots.catalog.table drawing
    = ⟨.relative, ["figures", "Drawing.yml"]⟩ := by
  unfold LocationStrategy.pathOf LocationStrategy.outputPath FilePath.ofParts fileStem
    FilePath.ofText
  simp only [FilePath.componentsOf_eq, dottedParts_eq]
  decide

/-- A search everywhere loads nothing and finds the two roots. -/
theorem finds_twoRoots {searched : Workspace} {roots : List ClassRef}
    (finds : twoRoots.Finds intoTree.typeScope searched roots) :
    searched = twoRoots ∧ roots.Perm [square, drawing] := by
  obtain ⟨notices, search⟩ := finds.search
  have targets : Scope.sortedNames ([] ++ intoTree.typeScope.literalNames) = [] := by
    simp [Scope.sortedNames, Scope.literalNames, intoTree, Scope.everything]
  unfold Workspace.findRoots at search
  rw [targets] at search
  cases search
  exact ⟨rfl, List.mergeSort_perm _ _⟩

theorem separates_twoRoots {searched : Workspace} {roots : List ClassRef}
    (finds : twoRoots.Finds intoTree.typeScope searched roots) :
    intoTree.strategy.Separates searched.catalog.table intoTree.outputDirectory
      crowded.workingDirectory roots := by
  obtain ⟨rfl, perm⟩ := finds_twoRoots finds
  refine LocationStrategy.separates_of_paths _ _ _ _ (fun c member => ?_)
    ((perm.pairwise_iff fun differ => Ne.symm differ).mpr ?_)
  · rcases List.mem_pair.mp (perm.mem_iff.mp member) with rfl | rfl
    · rw [pathOf_square]
      decide
    · rw [pathOf_drawing]
      decide
  · rw [List.pairwise_pair, pathOf_square, pathOf_drawing]
    decide

/-- No document is put over the notes. -/
theorem notes_of_writesPrefix {searched : Workspace} {roots : List ClassRef}
    {generator : Generator} {count : Nat} {after : FileSystem}
    (finds : twoRoots.Finds intoTree.typeScope searched roots)
    (isPrefix : WritesPrefix searched.catalog intoTree.outputDirectory intoTree.strategy generator
      crowded roots count after) : after.text? ["home", "notes"] = some "old" := by
  obtain ⟨rfl, perm⟩ := finds_twoRoots finds
  refine (isPrefix.others _ fun c member => ?_).text?_eq.trans (by decide)
  unfold LocationStrategy.place
  rcases List.mem_pair.mp (perm.mem_iff.mp (List.mem_of_mem_take member)) with rfl | rfl
  · rw [pathOf_square]
    decide
  · rw [pathOf_drawing]
    decide

/-- Whether the drawing and the square are written or not, the notes stay. -/
theorem generate_prefix_twoRoots : ∃ searched after notices result,
    intoTree.generate (.fixed 0) "" twoRoots crowded = (searched, after, notices, result)
      ∧ intoTree.EndsAs (.fixed 0) twoRoots crowded searched after result
      ∧ after.text? ["home", "notes"] = some "old" := by
  cases ran : intoTree.generate (.fixed 0) "" twoRoots crowded with
  | mk searched rest =>
    obtain ⟨after, notices, result⟩ := rest
    have ends := GenerationOptions.generate_prefix rfl (fun _ _ => separates_twoRoots) ran
    refine ⟨searched, after, notices, result, rfl, ends, ?_⟩
    cases ends with
    | unsearched => decide
    | unregistered => decide
    | stopped finds _ isPrefix => exact notes_of_writesPrefix finds isPrefix
    | finished finds _ isPrefix => exact notes_of_writesPrefix finds isPrefix

end

end ModelSchema
