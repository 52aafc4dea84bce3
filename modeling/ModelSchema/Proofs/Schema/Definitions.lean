import Mathlib.Data.List.Nodup
import ModelSchema.Proofs.Class.Hierarchy
import ModelSchema.Proofs.Schema.Dependence
import ModelSchema.Proofs.Schema.Names
import ModelSchema.Proofs.Shape

/-!
The definitions of a document.

A class gets its definition, and the name of it, before the references in its body are followed. So
while they are followed there are definitions whose own references are still to come.

* `SchemaSource.Outlined`: what holds in between. Every definition was asked for, under a name of its
  own, and every reference that was foreseen has its definition or is still to be followed.
* `outlined_of_outline`: so at the end every reference has its definition.
* `mem_allClasses_of_reference`: references are to classes of the table.
-/

namespace ModelSchema

/-- Whether the subtypes in a registry are classes of a table. -/
def Registry.IsOver (registry : Registry) (table : ClassTable) : Prop :=
  ∀ entry ∈ registry, ∀ s ∈ entry.subTypes, s ∈ table.allClasses

/-! ### Outlines -/

namespace Outline

variable {outline : Outline} {c : ClassRef}

theorem has_iff : outline.has c = true ↔ ∃ d ∈ outline.definitions, d.type = c := by
  simp [has]

/-- A new definition is one of the definitions. -/
theorem has_define {d : ClassRef} {label : String} {kind : DefinitionKind} :
    (outline.define c label kind).has d = true ↔ outline.has d = true ∨ d = c := by
  simp [has, define, eq_comm (a := d)]

/-- The name of a class is that of its definition. -/
theorem nameOf_of_mem (unique : (outline.definitions.map (·.type)).Nodup) {d : Definition}
    (member : d ∈ outline.definitions) : outline.nameOf d.type = d.name := by
  unfold nameOf
  split
  next found at? =>
    have same : found.type = d.type := by simpa using List.find?_some at?
    rw [List.inj_on_of_nodup_map unique (List.mem_of_find?_eq_some at?) member same]
  next none =>
    have differs := List.find?_eq_none.mp none d member
    exact absurd (decide_eq_true rfl) differs

/-- No two classes with definitions have one name. -/
theorem nameOf_injective (types : (outline.definitions.map (·.type)).Nodup)
    (names : (outline.definitions.map (·.name)).Nodup) {d : ClassRef}
    (here : outline.has c = true) (there : outline.has d = true)
    (same : outline.nameOf c = outline.nameOf d) : c = d := by
  obtain ⟨first, member, rfl⟩ := has_iff.mp here
  obtain ⟨second, memberElse, rfl⟩ := has_iff.mp there
  rw [nameOf_of_mem types member, nameOf_of_mem types memberElse] at same
  rw [List.inj_on_of_nodup_map names member memberElse same]

end Outline

namespace SchemaSource

variable {source : SchemaSource} {outline : Outline} {steps : List OutlineStep}

/-! ### Following references -/

/-- The steps by which a document is made: those of the root and of all definitions. -/
def allSteps (source : SchemaSource) (outline : Outline) : List OutlineStep :=
  source.rootSteps ++ outline.definitions.flatMap fun d => source.definitionSteps d.type d.kind

/-- Whether a step has been done. A failure is never done with. -/
def IsSettled (source : SchemaSource) (outline : Outline) : OutlineStep → Prop
  | .reference c _ _ => source.isDefined outline c = true
  | .notice _ => True
  | .fail _ => False

/-- What holds while the references of a document are followed, and some steps are still to come. -/
structure Outlined (source : SchemaSource) (outline : Outline) (pending : List OutlineStep) :
    Prop where
  types : (outline.definitions.map (·.type)).Nodup
  names : (outline.definitions.map (·.name)).Nodup
  requested : ∀ d ∈ outline.definitions,
    ∃ label, .reference d.type label d.kind ∈ source.allSteps outline
  foreseen : ∀ step ∈ pending, step ∈ source.allSteps outline
  settled : ∀ step ∈ source.allSteps outline, step ∈ pending ∨ source.IsSettled outline step

theorem allSteps_define {c : ClassRef} {label : String} {kind : DefinitionKind} :
    source.allSteps (outline.define c label kind)
      = source.allSteps outline ++ source.definitionSteps c kind := by
  simp [allSteps, Outline.define]

/-- The steps of a body with a definition are among them. -/
theorem mem_allSteps_of_body {d : Definition} (member : d ∈ outline.definitions)
    (isModel : d.kind = .model) : ∀ step ∈ source.bodySteps d.type, step ∈ source.allSteps outline := by
  intro step own
  refine List.mem_append_right _ (List.mem_flatMap.mpr ⟨d, member, ?_⟩)
  rw [isModel]
  exact own

/-- So are the steps of the body of a root without subtypes. -/
theorem mem_allSteps_of_root (noSubTypes : source.subTypes source.root = []) :
    ∀ step ∈ source.bodySteps source.root, step ∈ source.allSteps outline := by
  intro step own
  refine List.mem_append_left _ ?_
  unfold rootSteps
  rw [noSubTypes]
  exact own

theorem isSettled_define {c : ClassRef} {label : String} {kind : DefinitionKind}
    {step : OutlineStep} (settled : source.IsSettled outline step) :
    source.IsSettled (outline.define c label kind) step := by
  cases step with
  | reference d _ _ =>
    have defined : outline.has d = true ∨ _ := (Bool.or_eq_true ..).mp settled
    exact (Bool.or_eq_true ..).mpr (defined.imp_left fun has => Outline.has_define.mpr (.inl has))
  | notice _ => trivial
  | fail _ => exact settled.elim

theorem outlined_start : source.Outlined .start source.rootSteps where
  types := List.nodup_nil
  names := List.nodup_nil
  requested _ member := absurd member List.not_mem_nil
  foreseen _ member := List.mem_append_left _ member
  settled _ member := .inl (by simpa [allSteps, Outline.start] using member)

namespace Outlined

/-- A step that is done need not be kept. -/
theorem drop {step : OutlineStep} (outlined : source.Outlined outline (step :: steps))
    (done : source.IsSettled outline step) : source.Outlined outline steps where
  types := outlined.types
  names := outlined.names
  requested := outlined.requested
  foreseen _ member := outlined.foreseen _ (List.mem_cons_of_mem _ member)
  settled other member := by
    rcases outlined.settled other member with pending | settled
    · rcases List.mem_cons.mp pending with rfl | later
      · exact .inr done
      · exact .inl later
    · exact .inr settled

/-- Notices change no definition. -/
theorem report {notice : Notice} (outlined : source.Outlined outline steps) :
    source.Outlined (outline.report notice) steps :=
  ⟨outlined.types, outlined.names, outlined.requested, outlined.foreseen, fun step member =>
    (outlined.settled step member).imp_right fun settled => by cases step <;> exact settled⟩

/-- A new definition has a new name, and its own steps come next. -/
theorem define {c : ClassRef} {label : String} {kind : DefinitionKind}
    (outlined : source.Outlined outline (.reference c label kind :: steps))
    (fresh : source.isDefined outline c = false) :
    source.Outlined (outline.define c label kind) (source.definitionSteps c kind ++ steps) := by
  have absent : outline.has c = false := ((Bool.or_eq_false_iff ..).mp fresh).1
  have kept : ∀ step ∈ source.allSteps outline,
      step ∈ source.allSteps (outline.define c label kind) := by
    intro step member
    rw [allSteps_define]
    exact List.mem_append_left _ member
  refine ⟨?_, ?_, ?_, ?_, ?_⟩
  · unfold Outline.define
    rw [List.map_append]
    refine List.nodup_append.mpr ⟨outlined.types, List.nodup_singleton c, ?_⟩
    rintro _ inside _ new rfl
    obtain ⟨d, member, same⟩ := List.mem_map.mp inside
    have has := Outline.has_iff.mpr ⟨d, member, same.trans (List.mem_singleton.mp new)⟩
    rw [absent] at has
    cases has
  · unfold Outline.define
    rw [List.map_append]
    refine List.nodup_append.mpr ⟨outlined.names, List.nodup_singleton _, ?_⟩
    rintro _ inside _ new rfl
    exact uniqueName_notMem _ label (List.mem_singleton.mp new ▸ inside)
  · intro d member
    rcases List.mem_append.mp member with old | new
    · obtain ⟨label, step⟩ := outlined.requested d old
      exact ⟨label, kept _ step⟩
    · cases List.mem_singleton.mp new
      exact ⟨label, kept _ (outlined.foreseen _ List.mem_cons_self)⟩
  · intro step member
    rcases List.mem_append.mp member with own | later
    · rw [allSteps_define]
      exact List.mem_append_right _ own
    · exact kept _ (outlined.foreseen _ (List.mem_cons_of_mem _ later))
  · intro step member
    rw [allSteps_define] at member
    rcases List.mem_append.mp member with old | own
    · rcases outlined.settled step old with pending | settled
      · rcases List.mem_cons.mp pending with rfl | later
        · have has : (outline.define c label kind).has c = true := Outline.has_define.mpr (.inr rfl)
          exact .inr ((Bool.or_eq_true ..).mpr (.inl has))
        · exact .inl (List.mem_append_right _ later)
      · exact .inr (isSettled_define settled)
    · exact .inl (List.mem_append_left _ own)

/-- What holds in between holds until no step is left. -/
theorem extend {result : Outline} (outlined : source.Outlined outline steps)
    (extended : source.extendOutline outline steps = (result, none)) :
    source.Outlined result [] := by
  fun_induction source.extendOutline outline steps with
  | case1 outline =>
    cases extended
    exact outlined
  | case2 outline reason rest => cases extended
  | case3 outline notice rest ih => exact ih (outlined.drop trivial).report extended
  | case4 outline c label kind rest isDefined ih => exact ih (outlined.drop isDefined) extended
  | case5 outline c label kind rest fresh ih =>
    exact ih (outlined.define (Bool.eq_false_iff.mpr fresh)) extended

end Outlined

theorem outlined_of_outline {result : Outline} (made : source.outline = (result, none)) :
    source.Outlined result [] :=
  outlined_start.extend made

/-- The definitions of a document are spelled with characters for names only. -/
theorem isNameChar_of_extend {result : Outline} {failure : Option Failure}
    (spelled : ∀ d ∈ outline.definitions, ∀ c ∈ d.name.toList, isNameChar c = true)
    (extended : source.extendOutline outline steps = (result, failure)) :
    ∀ d ∈ result.definitions, ∀ c ∈ d.name.toList, isNameChar c = true := by
  fun_induction source.extendOutline outline steps with
  | case1 outline =>
    cases extended
    exact spelled
  | case2 outline reason rest =>
    cases extended
    exact spelled
  | case3 outline notice rest ih => exact ih spelled extended
  | case4 outline c label kind rest isDefined ih => exact ih spelled extended
  | case5 outline c label kind rest fresh ih =>
    refine ih (fun d member => ?_) extended
    rcases List.mem_append.mp member with old | new
    · exact spelled d old
    · cases List.mem_singleton.mp new
      exact fun c inside => isNameChar_of_mem_uniqueName inside

theorem isNameChar_of_outline {result : Outline} {failure : Option Failure}
    (made : source.outline = (result, failure)) :
    ∀ d ∈ result.definitions, ∀ c ∈ d.name.toList, isNameChar c = true :=
  isNameChar_of_extend (fun _ member => absurd member List.not_mem_nil) made

/-! ### References are to classes of the table -/

/-- The subtypes of a class are classes of the table, when those in closed lists and in the registry
are. -/
theorem mem_allClasses_of_subType (lists : source.catalog.ListsClasses)
    (isOver : source.registry.IsOver source.catalog.table) {c d : ClassRef}
    (member : d ∈ source.subTypes c) : d ∈ source.catalog.table.allClasses := by
  rcases listed_or_found member with ⟨entry, listed, rfl⟩ | found
  · exact lists c entry listed
  · obtain ⟨e, entry, recorded, inside⟩ := exists_of_mem_foundSubTypes found
    exact isOver _ (List.mem_of_find?_eq_some recorded) d inside

/-- A class with a fixed schema has got it from one of the table. -/
theorem IsFixedReference.mem_allClasses {table : ClassTable} {c : ClassRef} {label : String}
    {kind : DefinitionKind} (fixed : IsFixedReference table c label kind) : c ∈ table.allClasses := by
  obtain ⟨schema, -, found⟩ := fixed
  obtain ⟨_, above, -⟩ := List.exists_of_findSome?_eq_some found
  exact ClassTable.mem_allClasses_of_mem_ancestors above

/-- A property with a model as its type refers to this model, or to a subtype of it. -/
theorem origin_of_mem_objectSteps {c d : ClassRef} {label : String} {kind : DefinitionKind}
    (member : .reference d label kind ∈ source.objectSteps c) :
    kind = .model ∧ (d = c ∨ d ∈ source.subTypes c) := by
  unfold objectSteps at member
  split at member
  · split at member
    · exact absurd member List.not_mem_nil
    · cases List.mem_singleton.mp member
      exact ⟨rfl, .inl rfl⟩
  · obtain ⟨s, isSubType, same⟩ := List.mem_map.mp member
    cases same
    exact ⟨rfl, .inr isSubType⟩

/-- References are to bodies of classes that an annotation leads to, to bodies of subtypes, or to the
fixed schema of a class. -/
theorem origin_of_reference {c : ClassRef} {label : String} {kind : DefinitionKind}
    (member : .reference c label kind ∈ source.allSteps outline) :
    (kind = .model ∧ (c ∈ source.catalog.table.allClasses ∨ ∃ e, c ∈ source.subTypes e))
      ∨ IsFixedReference source.catalog.table c label kind := by
  have ofBody : ∀ {d}, .reference c label kind ∈ source.bodySteps d →
      (kind = .model ∧ (c ∈ source.catalog.table.allClasses ∨ ∃ e, c ∈ source.subTypes e))
        ∨ IsFixedReference source.catalog.table c label kind := by
    intro d member
    obtain ⟨props, -, p, -, ⟨e, entered, reference⟩ | leaf⟩ := origin_of_mem_bodySteps member
    · have known := Form.mem_allClasses_of_enter _ (ClassTable.form_classified _) entered
      obtain ⟨isModel, rfl | isSubType⟩ := origin_of_mem_objectSteps reference
      · exact .inl ⟨isModel, .inl known⟩
      · exact .inl ⟨isModel, .inr ⟨e, isSubType⟩⟩
    · exact .inr leaf
  rcases List.mem_append.mp member with atRoot | inDefinition
  · unfold rootSteps at atRoot
    split at atRoot
    · exact ofBody atRoot
    · obtain ⟨s, hs, same⟩ := List.mem_map.mp atRoot
      cases same
      exact .inl ⟨rfl, .inr ⟨source.root, hs⟩⟩
  · obtain ⟨d, -, member⟩ := List.mem_flatMap.mp inDefinition
    cases kind : d.kind with
    | model =>
      rw [kind] at member
      exact ofBody member
    | fixed schema =>
      rw [kind] at member
      exact absurd member List.not_mem_nil

/-- A reference is to a class of the table. -/
theorem mem_allClasses_of_reference (wellFormed : source.catalog.WellFormed)
    (isOver : source.registry.IsOver source.catalog.table) {c : ClassRef} {label : String}
    {kind : DefinitionKind} (member : .reference c label kind ∈ source.allSteps outline) :
    c ∈ source.catalog.table.allClasses := by
  rcases origin_of_reference member with ⟨-, known | ⟨e, subType⟩⟩ | fixed
  · exact known
  · exact mem_allClasses_of_subType wellFormed.listsClasses isOver subType
  · exact fixed.mem_allClasses

/-- So at the end every reference has its definition. -/
theorem Outlined.has_of_reference (outlined : source.Outlined outline [])
    (wellFormed : source.catalog.WellFormed) (isOver : source.registry.IsOver source.catalog.table)
    {c : ClassRef} {label : String} {kind : DefinitionKind}
    (member : .reference c label kind ∈ source.allSteps outline) : outline.has c = true := by
  have known := mem_allClasses_of_reference wellFormed isOver member
  rcases outlined.settled _ member with pending | settled
  · exact absurd pending List.not_mem_nil
  · rcases (Bool.or_eq_true ..).mp settled with has | unknown
    · exact has
    · simp [known] at unknown

/-- At the end no body has failed. -/
theorem Outlined.exists_properties (outlined : source.Outlined outline []) {c : ClassRef}
    (inside : ∀ step ∈ source.bodySteps c, step ∈ source.allSteps outline) :
    ∃ props, source.catalog.table.properties c = .ok props := by
  cases found : source.catalog.table.properties c with
  | ok props => exact ⟨props, rfl⟩
  | error reason =>
    have failed : .fail reason ∈ source.bodySteps c := by
      unfold bodySteps
      rw [found]
      exact List.mem_cons_self
    rcases outlined.settled _ (inside _ failed) with pending | settled
    · exact absurd pending List.not_mem_nil
    · exact settled.elim

end SchemaSource

end ModelSchema
