import Mathlib
import ModelSchema.Layering.Check
import ModelSchema.Proofs.DottedName

/-!
What the import guard reports.

The guard goes by how an import is spelled. What a statement in a module of the core loads is
another matter (`ImportStatement.Loads`): the modules it names, with the dots before them read from
the package of the core, and of the members it takes those that are modules themselves.

* `SourceStatement.mem_violationsOfAll`: every import is looked at, however deep it stands.
* `ImportStatement.faults_ne_nil_iff`: a statement has a fault if it loads the front end. There are
  two exceptions: members of the package under its absolute name go unnoticed, and dots that lead
  out of the package are taken for two.
* `guard_reports_iff`: so it is in a tree of statements and in the files of a source tree.
-/

namespace ModelSchema

/-! ### What statements load -/

/-- The package that dots before a name lead to from a module of the core. The first dot stands for
the core and the second for the package around it. More dots lead nowhere. -/
def packageAt? : Int → Option (List String)
  | 0 => some []
  | 1 => some coreDirectory
  | 2 => some coreDirectory.dropLast
  | _ => none

/-- The parts of the module that members are taken from. Where there are only dots it has none. -/
def sourceParts (module : Option String) : List String :=
  if (module.getD "").isEmpty then [] else dottedParts (module.getD "")

/-- Whether a module, by its parts, is one of the front end or inside of one. -/
def IsInFrontEnd (parts : List String) : Prop :=
  ∃ module ∈ frontEndModules, [guardedPackage, module] <+: parts

namespace ImportStatement

/-- `Loads isModule statement parts`: in a module of the core, the statement loads the module that
has these parts. Which parts are those of modules is told by `isModule`. -/
inductive Loads (isModule : List String → Prop) : ImportStatement → List String → Prop where
  | named {names : List String} {name : String} : name ∈ names →
      Loads isModule (.modules names) (dottedParts name)
  | source {level : Int} {module : Option String} {names package : List String} :
      packageAt? level = some package →
      Loads isModule (.members level module names) (package ++ sourceParts module)
  | member {level : Int} {module : Option String} {names package : List String} {name : String} :
      packageAt? level = some package → name ∈ names →
      isModule (package ++ sourceParts module ++ [name]) →
      Loads isModule (.members level module names) (package ++ sourceParts module ++ [name])

def LoadsFrontEnd (isModule : List String → Prop) (statement : ImportStatement) : Prop :=
  ∃ parts, statement.Loads isModule parts ∧ IsInFrontEnd parts

/-- Whether a statement takes members of the package, under its absolute name. -/
def TakesFromPackage (statement : ImportStatement) : Prop :=
  ∃ names, statement = .members 0 (some guardedPackage) names

/-- Whether a statement has dots that lead out of the package, and would load the front end with
two of them. -/
def LoadsWithTwoDots (isModule : List String → Prop) (statement : ImportStatement) : Prop :=
  ∃ level module names, statement = .members level module names ∧ 2 < level
    ∧ LoadsFrontEnd isModule (.members 2 module names)

/-- Whether the guard catches a statement. -/
def IsCaught (isModule : List String → Prop) (statement : ImportStatement) : Prop :=
  (statement.LoadsFrontEnd isModule ∧ ¬ statement.TakesFromPackage)
    ∨ statement.LoadsWithTwoDots isModule

end ImportStatement

/-! ### Modules of the front end -/

variable {parts names : List String} {name : String} {level : Int} {module : Option String}
  {isModule : List String → Prop} {statement : ImportStatement} {fault : LayerFault}

theorem isInFrontEnd_iff :
    IsInFrontEnd parts
      ↔ ∃ module ∈ frontEndModules, ∃ rest, parts = guardedPackage :: module :: rest := by
  refine exists_congr fun module => and_congr_right fun _ => ⟨?_, ?_⟩
  · rintro ⟨rest, rfl⟩
    exact ⟨rest, rfl⟩
  · rintro ⟨rest, rfl⟩
    exact ⟨rest, rfl⟩

theorem not_isInFrontEnd_of_short (short : parts.length < 2) : ¬ IsInFrontEnd parts := by
  rintro ⟨module, -, front⟩
  exact absurd front.length_le (Nat.not_le.mpr short)

theorem isInFrontEnd_cons_iff :
    IsInFrontEnd (guardedPackage :: parts) ↔ parts.headD "" ∈ frontEndModules := by
  rw [isInFrontEnd_iff]
  cases parts with
  | nil => simp [frontEndModules]
  | cons first rest => simp

/-- An absolute name leads to the front end if its parts do. -/
theorem isFrontEnd_zero_iff : isFrontEnd name 0 = true ↔ IsInFrontEnd (dottedParts name) := by
  have spelled : ∀ module ∈ frontEndModules,
      dottedParts (guardedPackage ++ "." ++ module) = [guardedPackage, module] := by
    intro module inside
    rw [dottedParts_append, dottedParts_of_noDot (by decide), dottedParts_of_noDot]
    · rfl
    · revert module
      decide
  rw [isFrontEnd, if_pos rfl, List.any_eq_true]
  refine exists_congr fun module => and_congr_right fun inside => ?_
  rw [← spelled module inside, dottedParts_isPrefix_iff, Bool.or_eq_true, decide_eq_true_iff]

theorem isFrontEnd_package : isFrontEnd guardedPackage 0 = false := by
  rw [← Bool.not_eq_true, isFrontEnd_zero_iff, dottedParts_of_noDot (by decide)]
  exact not_isInFrontEnd_of_short (by decide)

theorem isFrontEnd_iff_of_two_le (deep : 2 ≤ level) :
    isFrontEnd name level = true ↔ (dottedParts name).headD "" ∈ frontEndModules := by
  rw [isFrontEnd, if_neg (by omega), if_pos deep, List.contains_iff_mem]

theorem isFrontEnd_eq_false (notZero : level ≠ 0) (few : level < 2) :
    isFrontEnd name level = false := by
  rw [isFrontEnd, if_neg notZero, if_neg (by omega)]

/-! ### Members of a module -/

theorem packageAt?_eq_none (outside : level < 0 ∨ 2 < level) : packageAt? level = none := by
  unfold packageAt?
  split <;> first | omega | rfl

theorem sourceParts_eq_nil_iff : sourceParts module = [] ↔ module.getD "" = "" := by
  unfold sourceParts
  split
  next empty => exact iff_of_true rfl (String.isEmpty_iff.mp empty)
  next full => exact iff_of_false dottedParts_ne_nil (mt String.isEmpty_iff.mpr full)

theorem dottedParts_empty : dottedParts "" = [""] := dottedParts_of_noDot (by decide)

theorem headD_sourceParts :
    (sourceParts module).headD "" = (dottedParts (module.getD "")).headD "" := by
  unfold sourceParts
  split
  next empty =>
    rw [String.isEmpty_iff.mp empty, dottedParts_empty]
    rfl
  next => rfl

theorem sourceParts_eq_package_iff :
    sourceParts module = [guardedPackage] ↔ module = some guardedPackage := by
  have single : dottedParts guardedPackage = [guardedPackage] := dottedParts_of_noDot (by decide)
  constructor
  · intro same
    cases module with
    | none => cases same
    | some name =>
      unfold sourceParts at same
      split at same
      next => cases same
      next =>
        rw [← single, dottedParts_inj] at same
        exact congrArg some same
  · rintro rfl
    exact single

/-- The front end is not without a name. -/
theorem isInFrontEnd_sourceParts_iff :
    IsInFrontEnd (sourceParts module) ↔ isFrontEnd (module.getD "") 0 = true := by
  rw [isFrontEnd_zero_iff]
  unfold sourceParts
  split
  next empty =>
    rw [String.isEmpty_iff.mp empty, dottedParts_empty]
    exact iff_of_false (not_isInFrontEnd_of_short (by decide))
      (not_isInFrontEnd_of_short (by decide))
  next => rfl

/-- A member is in the front end if what it is taken from is, or if it is a module of the front end
that is taken from the package. -/
theorem isInFrontEnd_concat_iff :
    IsInFrontEnd (parts ++ [name])
      ↔ IsInFrontEnd parts ∨ parts = [guardedPackage] ∧ name ∈ frontEndModules := by
  constructor
  · rintro ⟨module, inside, front⟩
    rcases List.prefix_concat_iff.mp front with whole | before
    · have whole : [guardedPackage] ++ [module] = parts ++ [name] := whole
      obtain ⟨rfl, same⟩ := List.append_inj' whole rfl
      cases same
      exact .inr ⟨rfl, inside⟩
    · exact .inl ⟨module, inside, before⟩
  · rintro (⟨module, inside, front⟩ | ⟨rfl, inside⟩)
    · exact ⟨module, inside, front.trans (List.prefix_append _ _)⟩
    · exact ⟨name, inside, List.prefix_refl _⟩

namespace ImportStatement

theorem loadsFrontEnd_modules_iff :
    LoadsFrontEnd isModule (.modules names) ↔ ∃ name ∈ names, IsInFrontEnd (dottedParts name) := by
  constructor
  · rintro ⟨_, ⟨inside⟩, front⟩
    exact ⟨_, inside, front⟩
  · rintro ⟨name, inside, front⟩
    exact ⟨_, .named inside, front⟩

variable (frontEnd : ∀ module ∈ frontEndModules, isModule [guardedPackage, module])
include frontEnd

theorem loadsFrontEnd_members_iff :
    LoadsFrontEnd isModule (.members level module names)
      ↔ ∃ package, packageAt? level = some package ∧
        (IsInFrontEnd (package ++ sourceParts module)
          ∨ package ++ sourceParts module = [guardedPackage]
            ∧ ∃ name ∈ names, name ∈ frontEndModules) := by
  constructor
  · rintro ⟨_, loads, front⟩
    cases loads with
    | source at? => exact ⟨_, at?, .inl front⟩
    | member at? inside _ =>
      rcases isInFrontEnd_concat_iff.mp front with front | ⟨isPackage, isFront⟩
      · exact ⟨_, at?, .inl front⟩
      · exact ⟨_, at?, .inr ⟨isPackage, _, inside, isFront⟩⟩
  · rintro ⟨package, at?, front | ⟨isPackage, name, inside, isFront⟩⟩
    · exact ⟨_, .source at?, front⟩
    · refine ⟨_, .member at? inside ?_, isInFrontEnd_concat_iff.mpr (.inr ⟨isPackage, isFront⟩)⟩
      rw [isPackage]
      exact frontEnd name isFront

theorem loadsFrontEnd_zero_iff :
    LoadsFrontEnd isModule (.members 0 module names)
      ↔ isFrontEnd (module.getD "") 0 = true
        ∨ module = some guardedPackage ∧ ∃ name ∈ names, name ∈ frontEndModules := by
  rw [loadsFrontEnd_members_iff frontEnd, ← sourceParts_eq_package_iff,
    ← isInFrontEnd_sourceParts_iff]
  constructor
  · rintro ⟨_, ⟨⟩, loads⟩
    exact loads
  · exact fun loads => ⟨[], rfl, loads⟩

theorem not_loadsFrontEnd_one : ¬ LoadsFrontEnd isModule (.members 1 module names) := by
  rw [loadsFrontEnd_members_iff frontEnd]
  have notFront : "core" ∉ frontEndModules := by decide
  rintro ⟨_, ⟨⟩, front | ⟨isPackage, -⟩⟩
  · exact notFront (isInFrontEnd_cons_iff.mp front)
  · cases isPackage

theorem loadsFrontEnd_two_iff :
    LoadsFrontEnd isModule (.members 2 module names)
      ↔ isFrontEnd (module.getD "") 2 = true
        ∨ module.getD "" = "" ∧ ∃ name ∈ names, name ∈ frontEndModules := by
  have isPackage :
      guardedPackage :: sourceParts module = [guardedPackage] ↔ module.getD "" = "" := by
    rw [List.cons_eq_cons, and_iff_right rfl, sourceParts_eq_nil_iff]
  rw [loadsFrontEnd_members_iff frontEnd, ← isPackage, isFrontEnd_iff_of_two_le (by decide),
    ← headD_sourceParts, ← isInFrontEnd_cons_iff]
  constructor
  · rintro ⟨_, ⟨⟩, loads⟩
    exact loads
  · exact fun loads => ⟨[guardedPackage], rfl, loads⟩

theorem not_loadsFrontEnd_outside (outside : level < 0 ∨ 2 < level) :
    ¬ LoadsFrontEnd isModule (.members level module names) := by
  rw [loadsFrontEnd_members_iff frontEnd, packageAt?_eq_none outside]
  rintro ⟨package, at?, -⟩
  cases at?

omit frontEnd in
theorem faults_members_ne_nil_iff :
    (members level module names).faults ≠ []
      ↔ isFrontEnd (module.getD "") level = true
        ∨ 2 ≤ level ∧ module.getD "" = "" ∧ ∃ name ∈ names, name ∈ frontEndModules := by
  have named : (decide (2 ≤ level) && (module.getD "").isEmpty
      && names.any frontEndModules.contains) = true
      ↔ 2 ≤ level ∧ module.getD "" = "" ∧ ∃ name ∈ names, name ∈ frontEndModules := by
    simp [and_assoc]
  rw [← named, ← Bool.or_eq_true, faults]
  split
  next reported => exact iff_of_true (List.cons_ne_nil _ _) reported
  next quiet => exact iff_of_false (fun some => some rfl) quiet

omit frontEnd in
theorem faults_modules_ne_nil_iff :
    (modules names).faults ≠ [] ↔ ∃ name ∈ names, IsInFrontEnd (dottedParts name) := by
  simp [faults, isFrontEnd_zero_iff]

omit frontEnd in
theorem takesFromPackage_members_iff :
    TakesFromPackage (.members level module names)
      ↔ level = 0 ∧ module = some guardedPackage := by
  constructor
  · rintro ⟨_, ⟨⟩⟩
    exact ⟨rfl, rfl⟩
  · rintro ⟨rfl, rfl⟩
    exact ⟨names, rfl⟩

omit frontEnd in
theorem loadsWithTwoDots_members_iff :
    LoadsWithTwoDots isModule (.members level module names)
      ↔ 2 < level ∧ LoadsFrontEnd isModule (.members 2 module names) := by
  constructor
  · rintro ⟨_, _, _, ⟨⟩, deep, loads⟩
    exact ⟨deep, loads⟩
  · rintro ⟨deep, loads⟩
    exact ⟨_, _, _, rfl, deep, loads⟩

/-- A statement has a fault if it loads the front end. Members of the package are not looked at
under its absolute name, and dots that lead out of it are taken for two. -/
theorem faults_ne_nil_iff : statement.faults ≠ [] ↔ statement.IsCaught isModule := by
  unfold IsCaught
  cases statement with
  | modules names =>
    have whole : ¬ (modules names).TakesFromPackage := fun ⟨_, same⟩ => nomatch same
    have noDots : ¬ (modules names).LoadsWithTwoDots isModule :=
      fun ⟨_, _, _, same, _⟩ => nomatch same
    rw [faults_modules_ne_nil_iff, ← loadsFrontEnd_modules_iff, or_iff_left noDots,
      and_iff_left whole]
  | members level module names =>
    rw [faults_members_ne_nil_iff, takesFromPackage_members_iff, loadsWithTwoDots_members_iff,
      loadsFrontEnd_two_iff frontEnd]
    obtain negative | rfl | rfl | rfl | deep :
        level < 0 ∨ level = 0 ∨ level = 1 ∨ level = 2 ∨ 2 < level := by omega
    · have quiet : isFrontEnd (module.getD "") level = false :=
        isFrontEnd_eq_false (by omega) (by omega)
      have few : ¬ 2 ≤ level := by omega
      have notDeep : ¬ 2 < level := by omega
      simp [quiet, few, notDeep, not_loadsFrontEnd_outside frontEnd (.inl negative)]
    · rw [loadsFrontEnd_zero_iff frontEnd]
      by_cases isPackage : module = some guardedPackage
      · simp [isPackage, isFrontEnd_package]
      · simp [isPackage]
    · have quiet : isFrontEnd (module.getD "") 1 = false :=
        isFrontEnd_eq_false (by decide) (by decide)
      simp [quiet, not_loadsFrontEnd_one frontEnd]
    · rw [loadsFrontEnd_two_iff frontEnd]
      simp
    · have same : isFrontEnd (module.getD "") level = true ↔ isFrontEnd (module.getD "") 2 = true :=
        (isFrontEnd_iff_of_two_le deep.le).trans (isFrontEnd_iff_of_two_le (le_refl 2)).symm
      simp [same, deep, deep.le, not_loadsFrontEnd_outside frontEnd (.inr deep)]

end ImportStatement

/-! ### Where statements stand -/

/-- `Contains line statement whole`: an import is a statement or stands inside of it, in the given
line. -/
inductive SourceStatement.Contains (line : Nat) (statement : ImportStatement) :
    SourceStatement → Prop where
  | here : Contains line statement (.imports line statement)
  | inBody {first : Nat} {body orElse : List SourceStatement} {inner : SourceStatement} :
      inner ∈ body → Contains line statement inner →
      Contains line statement (.block first body orElse)
  | inElse {first : Nat} {body orElse : List SourceStatement} {inner : SourceStatement} :
      inner ∈ orElse → Contains line statement inner →
      Contains line statement (.block first body orElse)

/-- Whether an import stands somewhere in a list of statements, at any depth. -/
def StandsIn (statements : List SourceStatement) (line : Nat) (statement : ImportStatement) :
    Prop :=
  ∃ whole ∈ statements, whole.Contains line statement

namespace SourceStatement

variable {line : Nat} {statements : List SourceStatement}

theorem contains_block_iff {first : Nat} {body orElse : List SourceStatement} :
    Contains line statement (.block first body orElse)
      ↔ StandsIn body line statement ∨ StandsIn orElse line statement := by
  constructor
  · rintro (_ | ⟨inside, contains⟩ | ⟨inside, contains⟩)
    · exact .inl ⟨_, inside, contains⟩
    · exact .inr ⟨_, inside, contains⟩
  · rintro (⟨_, inside, contains⟩ | ⟨_, inside, contains⟩)
    · exact .inBody inside contains
    · exact .inElse inside contains

mutual

/-- What is found in a statement are the faults of the imports in it. -/
theorem mem_violations : ∀ {whole : SourceStatement},
    (line, fault) ∈ whole.violations
      ↔ ∃ statement, whole.Contains line statement ∧ fault ∈ statement.faults
  | .imports first statement => by
    rw [violations, List.mem_map]
    constructor
    · rintro ⟨_, inside, ⟨⟩⟩
      exact ⟨statement, .here, inside⟩
    · rintro ⟨_, ⟨⟩, inside⟩
      exact ⟨fault, inside, rfl⟩
  | .block first body orElse => by
    rw [violations, List.mem_append, mem_violationsOfAll, mem_violationsOfAll, ← exists_or]
    simp only [contains_block_iff, or_and_right]

/-- Every import in a list of statements is looked at, however deep it stands. -/
theorem mem_violationsOfAll : ∀ {statements : List SourceStatement},
    (line, fault) ∈ violationsOfAll statements
      ↔ ∃ statement, StandsIn statements line statement ∧ fault ∈ statement.faults
  | [] => by simp [violationsOfAll, StandsIn]
  | first :: rest => by
    rw [violationsOfAll, List.mem_append, mem_violations, mem_violationsOfAll, ← exists_or]
    simp only [StandsIn, List.exists_mem_cons_iff, or_and_right]

end

end SourceStatement

/-! ### What is reported -/

/-- Whether a fault says what an import statement names. -/
inductive LayerFault.IsAbout : LayerFault → ImportStatement → Prop where
  | named {names : List String} {name : String} : name ∈ names →
      IsAbout (.importsModule name) (.modules names)
  | taken {level : Int} {module : Option String} {names : List String} :
      IsAbout (.importsMembers level module names) (.members level module names)

theorem isAbout_of_mem_faults (inside : fault ∈ statement.faults) : fault.IsAbout statement := by
  cases statement with
  | modules names =>
    obtain ⟨name, kept, rfl⟩ := List.mem_map.mp inside
    exact .named (List.mem_of_mem_filter kept)
  | members level module names =>
    rw [ImportStatement.faults] at inside
    split at inside
    · rw [List.mem_singleton.mp inside]
      exact .taken
    · exact absurd inside List.not_mem_nil

/-- Whether there is a fault with something does not hang on the statement it was found in. -/
theorem mem_faults_of_isAbout {other : ImportStatement} (about : fault.IsAbout statement)
    (inside : fault ∈ other.faults) : fault ∈ statement.faults := by
  cases about with
  | named member =>
    cases isAbout_of_mem_faults inside
    obtain ⟨name, kept, ⟨⟩⟩ := List.mem_map.mp inside
    exact List.mem_map_of_mem (List.mem_filter.mpr ⟨member, (List.mem_filter.mp kept).2⟩)
  | taken =>
    cases isAbout_of_mem_faults inside
    exact inside

/-- Something is reported about a statement just where it has a fault, as long as all that is
reported are faults of statements, and those of this one among it. -/
theorem exists_isAbout_iff {reported : LayerFault → Prop}
    (sound : ∀ {fault}, reported fault → fault.IsAbout statement → fault ∈ statement.faults)
    (complete : ∀ {fault}, fault ∈ statement.faults → reported fault) :
    (∃ fault, fault.IsAbout statement ∧ reported fault) ↔ statement.faults ≠ [] := by
  constructor
  · rintro ⟨fault, about, isReported⟩
    exact List.ne_nil_of_mem (sound isReported about)
  · intro notNil
    obtain ⟨fault, inside⟩ := List.exists_mem_of_ne_nil _ notNil
    exact ⟨fault, isAbout_of_mem_faults inside, complete inside⟩

namespace SourceFile

variable {file : SourceFile} {violation : LayerViolation}

theorem mem_faults_of_mem_violations (found : violation ∈ file.violations)
    (about : violation.fault.IsAbout statement) : violation.fault ∈ statement.faults := by
  unfold violations at found
  split at found
  · obtain ⟨⟨line, fault⟩, inside, rfl⟩ := List.mem_map.mp found
    obtain ⟨other, -, inFaults⟩ := SourceStatement.mem_violationsOfAll.mp inside
    exact mem_faults_of_isAbout about inFaults
  · rw [List.mem_singleton.mp found] at about
    cases about

theorem mem_violations_of_standsIn {statements : List SourceStatement} {line : Nat}
    (read : importsOf file.text = .ok statements) (stands : StandsIn statements line statement)
    (inside : fault ∈ statement.faults) : ⟨file.path, line, fault⟩ ∈ file.violations := by
  unfold violations
  rw [read]
  exact List.mem_map_of_mem (f := fun entry : Nat × LayerFault =>
    (⟨file.path, entry.1, entry.2⟩ : LayerViolation))
    (SourceStatement.mem_violationsOfAll.mpr ⟨statement, stands, inside⟩)

theorem isCoreSource_of_path (atPath : file.path = coreDirectory ++ [name])
    (isSource : name.endsWith ".py" = true) : file.isCoreSource = true := by
  simp [isCoreSource, atPath, isSource, coreDirectory]

end SourceFile

variable {files : List SourceFile} {found : List LayerViolation} {violation : LayerViolation}

theorem exists_layerViolations? {file : SourceFile} (inTree : file ∈ files)
    (isSource : file.isCoreSource = true) : ∃ found, layerViolations? files = some found := by
  rw [SourceFile.isCoreSource, Bool.and_eq_true, Bool.and_eq_true] at isSource
  have hasCore : hasCore files = true := List.any_eq_true.mpr ⟨file, inTree, isSource.1.1⟩
  rw [layerViolations?, if_pos hasCore]
  exact ⟨_, rfl⟩

/-- What is found in a tree is what is found in the source files of its core. -/
theorem mem_layerViolations_iff (checked : layerViolations? files = some found) :
    violation ∈ found ↔ ∃ file ∈ files, file.isCoreSource = true ∧ violation ∈ file.violations := by
  unfold layerViolations? at checked
  split at checked
  · cases checked
    simp only [List.mem_flatMap, List.mem_mergeSort, List.mem_filter, and_assoc]
  · cases checked

/-! ### Main result -/

/-- Of the imports in a tree of statements, and of those in a source file directly in the core, the
guard reports those that load the front end. It misses what is taken from the package under its
absolute name, and with more than two dots it goes by what two of them would load. -/
theorem guard_reports_iff
    (frontEnd : ∀ module ∈ frontEndModules, isModule [guardedPackage, module]) :
    (∀ {statements line statement}, StandsIn statements line statement →
      ((∃ fault : LayerFault, fault.IsAbout statement
          ∧ (line, fault) ∈ SourceStatement.violationsOfAll statements)
        ↔ statement.IsCaught isModule))
    ∧ ∀ {files file name statements}, file ∈ files → file.path = coreDirectory ++ [name] →
      name.endsWith ".py" = true → importsOf file.text = .ok statements →
      ∃ found, layerViolations? files = some found
        ∧ ∀ {line statement}, StandsIn statements line statement →
          ((∃ fault : LayerFault, fault.IsAbout statement
              ∧ (⟨file.path, line, fault⟩ : LayerViolation) ∈ found)
            ↔ statement.IsCaught isModule) := by
  refine ⟨fun stands => ?_, fun {files file name statements} inTree atPath isSource read => ?_⟩
  · rw [← ImportStatement.faults_ne_nil_iff frontEnd]
    refine exists_isAbout_iff (fun reported about => ?_) fun inside => ?_
    · obtain ⟨other, -, inFaults⟩ := SourceStatement.mem_violationsOfAll.mp reported
      exact mem_faults_of_isAbout about inFaults
    · exact SourceStatement.mem_violationsOfAll.mpr ⟨_, stands, inside⟩
  · have isCore := SourceFile.isCoreSource_of_path atPath isSource
    obtain ⟨found, checked⟩ := exists_layerViolations? inTree isCore
    refine ⟨found, checked, fun stands => ?_⟩
    rw [← ImportStatement.faults_ne_nil_iff frontEnd]
    refine exists_isAbout_iff (fun reported about => ?_) fun inside => ?_
    · obtain ⟨other, -, -, inFile⟩ := (mem_layerViolations_iff checked).mp reported
      exact SourceFile.mem_faults_of_mem_violations inFile about
    · exact (mem_layerViolations_iff checked).mpr
        ⟨file, inTree, isCore, SourceFile.mem_violations_of_standsIn read stands inside⟩

/-! ### Examples -/

/-- The modules of the front end, as those that there are. -/
def isFrontEndModule (parts : List String) : Prop :=
  ∃ module ∈ frontEndModules, parts = [guardedPackage, module]

theorem isFrontEndModule_of_mem :
    ∀ module ∈ frontEndModules, isFrontEndModule [guardedPackage, module] :=
  fun module inside => ⟨module, inside, rfl⟩

/-- The command line is imported among other things, inside of a function. -/
def engineFile : SourceFile :=
  ⟨coreDirectory ++ ["engine.py"], "def start():\n    from .. import logging, cli\n"⟩

def engineImport : ImportStatement := .members 2 none ["logging", "cli"]

theorem importsOf_engineFile :
    importsOf engineFile.text = .ok [.imports 2 engineImport] := by
  cbv

/-- The import is reported, both in the tree of the statements and in the file. -/
theorem guard_reports_iff_engine :
    (∃ fault : LayerFault, fault.IsAbout engineImport
      ∧ (2, fault) ∈ SourceStatement.violationsOfAll
        [.block 1 [.imports 2 engineImport] []])
    ∧ ∃ found, layerViolations? [engineFile] = some found
      ∧ ∃ fault : LayerFault, fault.IsAbout engineImport
        ∧ (⟨engineFile.path, 2, fault⟩ : LayerViolation) ∈ found := by
  have loads : engineImport.LoadsFrontEnd isFrontEndModule :=
    (ImportStatement.loadsFrontEnd_two_iff isFrontEndModule_of_mem).mpr
      (.inr ⟨rfl, "cli", by decide, by decide⟩)
  have caught : engineImport.IsCaught isFrontEndModule :=
    .inl ⟨loads, fun ⟨_, same⟩ => nomatch same⟩
  obtain ⟨inTree, inFile⟩ := guard_reports_iff isFrontEndModule_of_mem
  have stands : StandsIn [.block 1 [.imports 2 engineImport] []] 2 engineImport :=
    ⟨_, List.mem_singleton_self _, .inBody (List.mem_singleton_self _) .here⟩
  obtain ⟨found, checked, reports⟩ := inFile (List.mem_singleton_self engineFile) rfl
    (by cbv : "engine.py".endsWith ".py" = true) importsOf_engineFile
  exact ⟨(inTree stands).mpr caught, found, checked,
    (reports ⟨_, List.mem_singleton_self _, .here⟩).mpr caught⟩

/-- The command line is taken from the package by its absolute name. -/
def registryFile : SourceFile :=
  ⟨coreDirectory ++ ["registry.py"], "from polyschema import cli\n"⟩

def registryImport : ImportStatement := .members 0 (some guardedPackage) ["cli"]

theorem importsOf_registryFile :
    importsOf registryFile.text = .ok [.imports 1 registryImport] := by
  cbv

theorem faults_registryImport : registryImport.faults = [] := by
  simp [registryImport, ImportStatement.faults, isFrontEnd_package]

/-- What is taken from the package by its absolute name is not reported. -/
theorem not_guard_reports_iff_registry :
    ¬ ∀ {files file name statements}, file ∈ files → file.path = coreDirectory ++ [name] →
      name.endsWith ".py" = true → importsOf file.text = .ok statements →
      ∃ found, layerViolations? files = some found
        ∧ ∀ {line statement}, StandsIn statements line statement →
          ((∃ fault : LayerFault, fault.IsAbout statement
              ∧ (⟨file.path, line, fault⟩ : LayerViolation) ∈ found)
            ↔ statement.LoadsFrontEnd isFrontEndModule) := by
  intro isExact
  obtain ⟨found, checked, reports⟩ := isExact (List.mem_singleton_self registryFile) rfl
    (by cbv : "registry.py".endsWith ".py" = true) importsOf_registryFile
  have loads : registryImport.LoadsFrontEnd isFrontEndModule :=
    (ImportStatement.loadsFrontEnd_zero_iff isFrontEndModule_of_mem).mpr
      (.inr ⟨rfl, "cli", by decide, by decide⟩)
  obtain ⟨fault, about, reported⟩ := (reports ⟨_, List.mem_singleton_self _, .here⟩).mpr loads
  obtain ⟨file, -, -, inFile⟩ := (mem_layerViolations_iff checked).mp reported
  have inside := SourceFile.mem_faults_of_mem_violations inFile about
  rw [faults_registryImport] at inside
  exact absurd inside List.not_mem_nil

end ModelSchema
