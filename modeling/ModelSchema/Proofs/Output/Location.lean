import ModelSchema.Output.Writer
import ModelSchema.Proofs.DottedName

/-!
Where documents are put: different classes have different files.

A path is put together with dots, dollar signs, slashes and an extension. Where none of them occurs
inside a part of a module or of a qualified name, both names can be read back from the path.

* `FilePath.IsComponent`: the texts that are a component of a path as they stand.
* `outputPath_directoryTree`, `outputPath_flatDirectory`: the components of the path of a document.
* `names_eq_of_outputPath_eq`: documents at one path are of one module and one qualified name.
-/

namespace ModelSchema

/-! ### Components -/

namespace FilePath

/-- Whether a text is one component of a path. -/
structure IsComponent (text : String) : Prop where
  notEmpty : text ≠ ""
  notDot : text ≠ "."
  noSlash : '/' ∉ text.toList

variable {text : String} {texts : List String}

theorem IsComponent.ofText_eq (isComponent : IsComponent text) :
    ofText text = ⟨.relative, [text]⟩ := by
  have start : PathStart.ofText text = .relative := by
    cases chars : text.toList with
    | nil => exact absurd (String.toList_eq_nil_iff.mp chars) isComponent.notEmpty
    | cons c rest =>
      have notSlash : c ≠ '/' := by
        rintro rfl
        exact isComponent.noSlash (chars ▸ List.mem_cons_self)
      rw [PathStart.ofText, chars, List.takeWhile_cons_of_neg (by simpa using notSlash)]
  have components : componentsOf text = [text] := by
    rw [componentsOf_eq, List.splitOn_eq_singleton isComponent.noSlash, List.map_singleton,
      String.ofList_toList]
    simp [isComponent.notEmpty, isComponent.notDot]
  rw [ofText, start, components]

theorem foldl_join_of_isComponent (areComponents : ∀ text ∈ texts, IsComponent text)
    (done : List String) :
    texts.foldl (fun path part => path.join (ofText part)) (⟨.relative, done⟩ : FilePath)
      = ⟨.relative, done ++ texts⟩ := by
  induction texts generalizing done with
  | nil => rw [List.foldl_nil, List.append_nil]
  | cons text rest ih =>
    obtain ⟨isComponent, others⟩ := List.forall_mem_cons.mp areComponents
    have step : join ⟨.relative, done⟩ (ofText text) = ⟨.relative, done ++ [text]⟩ := by
      rw [isComponent.ofText_eq]
      rfl
    rw [List.foldl_cons, step, ih others, List.append_assoc]
    rfl

/-- The path of components has just these. -/
theorem ofParts_of_isComponent (areComponents : ∀ text ∈ texts, IsComponent text) :
    ofParts texts = ⟨.relative, texts⟩ :=
  foldl_join_of_isComponent areComponents []

end FilePath

/-! ### Plain names -/

/-- Whether no part of a module name is empty or has a slash. -/
def IsPlainModule (module : String) : Prop :=
  ∀ part ∈ dottedParts module, part ≠ "" ∧ '/' ∉ part.toList

/-- Whether no part of a qualified name is empty, has a dollar sign or a slash, or stands for a
local scope. -/
def IsPlainQualname (qualname : String) : Prop :=
  ∀ part ∈ dottedParts qualname,
    part ≠ "" ∧ '$' ∉ part.toList ∧ '/' ∉ part.toList ∧ part ≠ localScope

section

variable {module qualname otherModule otherQualname : String}

/-- The stem of a plain name has all of its parts. -/
theorem IsPlainQualname.fileStem_eq (isPlain : IsPlainQualname qualname) :
    fileStem qualname = "$".intercalate (dottedParts qualname) := by
  have all : ∀ part ∈ dottedParts qualname, (part != localScope) = true :=
    fun part member => bne_iff_ne.mpr (isPlain part member).2.2.2
  rw [fileStem, List.filter_eq_self.mpr all]

theorem IsPlainQualname.toList_fileStem (isPlain : IsPlainQualname qualname) :
    (fileStem qualname).toList = ['$'].intercalate ((dottedParts qualname).map String.toList) := by
  rw [isPlain.fileStem_eq, String.toList_intercalate]
  rfl

/-- A character of a stem is the mark between the parts, or stands in one of them. -/
theorem IsPlainQualname.mem_fileStem (isPlain : IsPlainQualname qualname) {c : Char}
    (member : c ∈ (fileStem qualname).toList) :
    c = '$' ∨ ∃ part ∈ dottedParts qualname, c ∈ part.toList := by
  rw [isPlain.toList_fileStem] at member
  rcases eq_or_exists_of_mem_intercalate member with isMark | ⟨chars, inParts, inside⟩
  · exact .inl isMark
  · obtain ⟨part, isPart, rfl⟩ := List.mem_map.mp inParts
    exact .inr ⟨part, isPart, inside⟩

theorem IsPlainQualname.noDot_fileStem (isPlain : IsPlainQualname qualname) :
    '.' ∉ (fileStem qualname).toList := by
  intro member
  rcases isPlain.mem_fileStem member with isMark | ⟨part, isPart, inside⟩
  · exact absurd isMark (by decide)
  · exact noDot_of_mem_dottedParts isPart inside

theorem IsPlainQualname.noSlash_fileStem (isPlain : IsPlainQualname qualname) :
    '/' ∉ (fileStem qualname).toList := by
  intro member
  rcases isPlain.mem_fileStem member with isMark | ⟨part, isPart, inside⟩
  · exact absurd isMark (by decide)
  · exact (isPlain part isPart).2.2.1 inside

/-- A plain name is read back from its stem: its parts are what is between the marks. -/
theorem eq_of_fileStem_eq (isPlain : IsPlainQualname qualname)
    (isPlainToo : IsPlainQualname otherQualname)
    (same : fileStem qualname = fileStem otherQualname) : qualname = otherQualname := by
  have readBack : ∀ {name : String}, IsPlainQualname name →
      (fileStem name).toList.splitOn '$' = (dottedParts name).map String.toList := by
    intro name isPlain
    rw [isPlain.toList_fileStem]
    refine List.splitOn_intercalate '$' (fun chars member => ?_) (by simp [dottedParts_ne_nil])
    obtain ⟨part, isPart, rfl⟩ := List.mem_map.mp member
    exact (isPlain part isPart).2.1
  have parts : (dottedParts qualname).map String.toList
      = (dottedParts otherQualname).map String.toList := by
    rw [← readBack isPlain, same, readBack isPlainToo]
  have toList_injective : String.toList.Injective := fun _ _ => String.toList_injective
  exact dottedParts_inj.mp (List.map_injective_iff.mpr toList_injective parts)

/-! ### Paths of documents -/

/-- A text with the extension behind it is longer than a dot, so that only slashes matter. -/
theorem isComponent_append_extension {text : String} (noSlash : '/' ∉ text.toList) :
    FilePath.IsComponent (text ++ documentExtension) := by
  have chars : (text ++ documentExtension).toList = text.toList ++ ['.', 'y', 'm', 'l'] :=
    String.toList_append
  have long : 4 ≤ (text ++ documentExtension).toList.length := by simp [chars]
  refine ⟨fun isEmpty => ?_, fun isDot => ?_, by simp [chars, noSlash]⟩
  · rw [isEmpty] at long
    exact absurd long (by decide)
  · rw [isDot] at long
    exact absurd long (by decide)

theorem IsPlainModule.isComponent (isPlain : IsPlainModule module) {part : String}
    (member : part ∈ dottedParts module) : FilePath.IsComponent part where
  notEmpty := (isPlain part member).1
  notDot := by
    rintro rfl
    exact noDot_of_mem_dottedParts member (by decide)
  noSlash := (isPlain part member).2

theorem IsPlainModule.noSlash (isPlain : IsPlainModule module) : '/' ∉ module.toList := by
  intro member
  rw [← intercalate_dottedParts module, String.toList_intercalate] at member
  rcases eq_or_exists_of_mem_intercalate member with isMark | ⟨chars, inParts, inside⟩
  · exact absurd isMark (by decide)
  · obtain ⟨part, isPart, rfl⟩ := List.mem_map.mp inParts
    exact (isPlain part isPart).2 inside

namespace LocationStrategy

/-- In a tree there is one directory for each part of the module. -/
theorem outputPath_directoryTree (isModule : IsPlainModule module)
    (isName : IsPlainQualname qualname) :
    directoryTree.outputPath module qualname
      = ⟨.relative, dottedParts module ++ [fileStem qualname ++ documentExtension]⟩ := by
  refine FilePath.ofParts_of_isComponent fun text member => ?_
  rcases List.mem_append.mp member with isPart | isFile
  · exact isModule.isComponent isPart
  · rw [List.mem_singleton.mp isFile]
    exact isComponent_append_extension isName.noSlash_fileStem

/-- Without directories there is one file name, with the module in front. -/
theorem outputPath_flatDirectory (isModule : IsPlainModule module)
    (isName : IsPlainQualname qualname) :
    flatDirectory.outputPath module qualname
      = ⟨.relative, [module ++ "." ++ fileStem qualname ++ documentExtension]⟩ := by
  have noSlash : '/' ∉ (module ++ "." ++ fileStem qualname).toList := by
    simp [isModule.noSlash, isName.noSlash_fileStem]
  rw [← (isComponent_append_extension noSlash).ofText_eq, outputPath, String.append_assoc,
    String.append_assoc, String.append_assoc]

/-- The dots of a file name end the parts of the module, the stem and the extension. -/
theorem dottedParts_fileName (module : String) (isName : IsPlainQualname qualname) :
    dottedParts (module ++ "." ++ fileStem qualname ++ documentExtension)
      = dottedParts module ++ [fileStem qualname, "yml"] := by
  have extension : documentExtension = "." ++ "yml" := rfl
  have yml : dottedParts "yml" = ["yml"] := dottedParts_of_noDot (by decide)
  rw [extension, ← String.append_assoc, dottedParts_append, dottedParts_append, yml,
    dottedParts_of_noDot isName.noDot_fileStem, List.append_assoc]
  rfl

/-! ### Main result -/

/-- Under either strategy, documents of plain names at the same path have the same module and the
same qualified name. -/
theorem names_eq_of_outputPath_eq (strategy : LocationStrategy) (isModule : IsPlainModule module)
    (isModuleToo : IsPlainModule otherModule) (isName : IsPlainQualname qualname)
    (isNameToo : IsPlainQualname otherQualname)
    (same : strategy.outputPath module qualname
      = strategy.outputPath otherModule otherQualname) :
    module = otherModule ∧ qualname = otherQualname := by
  cases strategy with
  | directoryTree =>
    rw [outputPath_directoryTree isModule isName,
      outputPath_directoryTree isModuleToo isNameToo] at same
    obtain ⟨modules, files⟩ := List.append_inj' (FilePath.mk.inj same).2 rfl
    have stems : fileStem qualname = fileStem otherQualname :=
      String.append_left_inj _ |>.mp (List.singleton_inj.mp files)
    exact ⟨dottedParts_inj.mp modules, eq_of_fileStem_eq isName isNameToo stems⟩
  | flatDirectory =>
    rw [outputPath_flatDirectory isModule isName,
      outputPath_flatDirectory isModuleToo isNameToo] at same
    have parts := congrArg dottedParts (List.singleton_inj.mp (FilePath.mk.inj same).2)
    rw [dottedParts_fileName _ isName, dottedParts_fileName _ isNameToo] at parts
    obtain ⟨modules, files⟩ := List.append_inj' parts rfl
    have stems : fileStem qualname = fileStem otherQualname := (List.cons.inj files).1
    exact ⟨dottedParts_inj.mp modules, eq_of_fileStem_eq isName isNameToo stems⟩

theorem names_eq_of_outputPath_eq_circle :
    IsPlainModule "acme.shapes" ∧ IsPlainQualname "Round.Circle"
      ∧ "acme.shapes" = "acme.shapes" ∧ "Round.Circle" = "Round.Circle" := by
  have isModule : IsPlainModule "acme.shapes" := by
    unfold IsPlainModule
    rw [dottedParts_eq]
    decide
  have isName : IsPlainQualname "Round.Circle" := by
    unfold IsPlainQualname
    rw [dottedParts_eq]
    decide
  exact ⟨isModule, isName,
    names_eq_of_outputPath_eq .flatDirectory isModule isModule isName isName rfl⟩

end LocationStrategy

end

end ModelSchema
