import ModelSchema.Proofs.Agreement.Models
import ModelSchema.Proofs.Agreement.Readable
import ModelSchema.Proofs.Schema.Buildable

/-!
The document of a root that reaches regular models only.

* `Form.Shows`: the schema of a form holds that of another one. Then what the walk does for the other
  one it does for the form, and likewise for the references of a document.
* `BuiltFrom.shown`, `BuiltFrom.eq_reference_of_mem`: an annotation shows the classes that it is built
  from, and makes no references but theirs.
* `SchemaSource.Reaches`: the classes whose bodies a document can have.
* `SchemaSource.IsRegular`: a root that reaches regular models only. Then there is a document
  (`finished`), and it can be read (`isReadable`).
* `Walker.Complete.isModel_of_reaches`: after a walk a root reaches models only.
-/

namespace ModelSchema

/-! ### Forms in a schema -/

/-- Whether the schema of a form holds that of another form: for all items, for one item, for all
values, or as an option. -/
inductive Form.Shows : Form → Form → Prop where
  | whole (form : Form) : Shows form form
  | items {t : Ty} {notes : List Note} {element inner : Form} {unique : Bool} :
      Shows element inner → Shows (.of t notes (.array element unique)) inner
  | item {t : Ty} {notes : List Note} {elements : List Form} {element inner : Form} :
      element ∈ elements → Shows element inner → Shows (.of t notes (.fixedArray elements)) inner
  | values {t : Ty} {notes : List Note} {key value inner : Form} :
      Shows value inner → Shows (.of t notes (.map key value)) inner
  | option {t : Ty} {notes : List Note} {options : List Form} {option inner : Form}
      {nullable : Bool} :
      option ∈ options → Shows option inner → Shows (.of t notes (.union options nullable)) inner

theorem SchemaSource.mem_formsSteps {source : SchemaSource} {owner : ClassRef} {step : OutlineStep}
    {forms : List Form} :
    step ∈ source.formsSteps owner forms ↔ ∃ form ∈ forms, step ∈ source.formSteps owner form := by
  induction forms with
  | nil => simp [formsSteps]
  | cons form rest ih => simp [formsSteps, ih]

namespace Form.Shows

variable {form inner : Form} (shows : form.Shows inner)
include shows

theorem mem_walkSteps {step : WalkStep} (member : step ∈ inner.walkSteps) :
    step ∈ form.walkSteps := by
  induction shows with
  | whole => exact member
  | items _ ih => exact ih member
  | item inside _ ih => exact mem_walkStepsOf.mpr ⟨_, inside, ih member⟩
  | values _ ih => exact List.mem_append_right _ (ih member)
  | option inside _ ih => exact mem_walkStepsOf.mpr ⟨_, inside, ih member⟩

theorem mem_formSteps {source : SchemaSource} {owner : ClassRef} {step : OutlineStep}
    (member : step ∈ source.formSteps owner inner) : step ∈ source.formSteps owner form := by
  induction shows with
  | whole => exact member
  | items _ ih => exact List.mem_append_right _ (ih member)
  | item inside _ ih =>
    exact List.mem_append_right _ (SchemaSource.mem_formsSteps.mpr ⟨_, inside, ih member⟩)
  | values _ ih => exact List.mem_append_right _ (ih member)
  | option inside _ ih =>
    exact List.mem_append_right _ (SchemaSource.mem_formsSteps.mpr ⟨_, inside, ih member⟩)

end Form.Shows

/-! ### Annotations -/

namespace Ty

variable {table : ClassTable} {atVariable : Nat → Shape} {argumentsOf : ClassRef → List Form}
  {isPart : ClassRef → Prop} {t : Ty}

namespace BuiltFrom

variable (built : t.BuiltFrom isPart)
include built

/-- The schema of an annotation holds those of the classes that it is built from. -/
theorem shown (table : ClassTable) (atVariable : Nat → Shape) (argumentsOf : ClassRef → List Form) :
    t.BuiltFrom fun c => isPart c ∧ (t.formAt table atVariable argumentsOf).Shows
      ((Ty.cls c).formAt table atVariable argumentsOf) := by
  induction built with
  | cls part => exact .cls ⟨part, .whole _⟩
  | list _ ih => exact .list (ih.mono fun _ => And.imp_right .items)
  | sequence _ ih => exact .sequence (ih.mono fun _ => And.imp_right .items)
  | map _ ih => exact .map (ih.mono fun _ => And.imp_right .values)
  | @tuple ts something built ih =>
    have noEllipsis : .ellipsis ∉ ts := fun member => nomatch built _ member
    refine .tuple something fun t inside => (ih t inside).mono fun c => And.imp_right fun shows => ?_
    rw [formAt_tuple something (notOpen_of_noEllipsis noEllipsis)]
    exact .item (List.mem_map_of_mem inside) shows
  | @union piped ts flat built ih =>
    refine .union flat fun t inside present => (ih t inside present).mono fun c =>
      And.imp_right fun shows => ?_
    have isOption : t ∈ ts.filter fun t => !t.same .none := by
      refine List.mem_filter.mpr ⟨inside, ?_⟩
      simpa using mt Ty.same_none_iff.mp present
    rw [formAt_union]
    exact .option (List.mem_map_of_mem isOption) shows

/-- The references of an annotation come from the classes that it is built from. -/
theorem origin_of_mem {source : SchemaSource} {owner : ClassRef} {step : OutlineStep}
    (member : step ∈ source.formSteps owner (t.formAt table atVariable argumentsOf)) :
    ∃ c, isPart c
      ∧ step ∈ source.formSteps owner ((Ty.cls c).formAt table atVariable argumentsOf) := by
  induction built with
  | @cls c part => exact ⟨c, part, member⟩
  | list _ ih => exact ih member
  | sequence _ ih => exact ih member
  | map _ ih => exact ih member
  | @tuple ts something built ih =>
    have noEllipsis : .ellipsis ∉ ts := fun member => nomatch built _ member
    rw [formAt_tuple something (notOpen_of_noEllipsis noEllipsis)] at member
    obtain ⟨form, inside, step⟩ := SchemaSource.mem_formsSteps.mp member
    obtain ⟨t, isItem, rfl⟩ := List.mem_map.mp inside
    exact ih t isItem step
  | @union piped ts flat built ih =>
    rw [formAt_union] at member
    obtain ⟨form, inside, step⟩ := SchemaSource.mem_formsSteps.mp member
    obtain ⟨t, isOption, rfl⟩ := List.mem_map.mp inside
    obtain ⟨inside, present⟩ := List.mem_filter.mp isOption
    exact ih t inside (fun isNone => by simp [isNone, Ty.same] at present) step

end BuiltFrom

end Ty

/-! ### Classes in annotations -/

namespace SchemaSource

variable {source : SchemaSource} {owner c : ClassRef} {atVariable : Nat → Shape}
  {argumentsOf : ClassRef → List Form} {step : OutlineStep}

/-- The reference to the definition of instants. -/
def instantReference : OutlineStep :=
  .reference (.basic .instant) instantFormat.1 (.fixed instantFormat.2)

/-- Of the scalars, instants alone have a reference. -/
theorem formSteps_scalar {b : BasicClass} (isScalar : b.isScalar = true) :
    source.formSteps owner ((Ty.cls (.basic b)).formAt source.catalog.table atVariable argumentsOf)
      = if b = .instant then [instantReference] else [] := by
  rw [Ty.formAt_scalar isScalar]
  change source.leafSteps owner (.basic b) = _
  unfold leafSteps ClassTable.leafFormat?
  dsimp only
  generalize source.catalog.table.numericDurations owner = numericDurations
  cases b <;> cases numericDurations <;> first
    | rfl
    | cases isScalar

theorem formSteps_object (wellFormed : source.catalog.WellFormed)
    (isObject : source.catalog.table.IsObject c) :
    source.formSteps owner ((Ty.cls c).formAt source.catalog.table atVariable argumentsOf)
      = source.objectSteps c := by
  rw [Ty.formAt_object isObject (wellFormed.notEnumeration isObject.1)]
  rfl

end SchemaSource

theorem Catalog.WellFormed.enter_mem_walkSteps {catalog : Catalog} (wellFormed : catalog.WellFormed)
    {c : ClassRef} (isObject : catalog.table.IsObject c) {atVariable : Nat → Shape}
    {argumentsOf : ClassRef → List Form} :
    .enter c ∈ ((Ty.cls c).formAt catalog.table atVariable argumentsOf).walkSteps := by
  rw [Ty.formAt_object isObject (wellFormed.notEnumeration isObject.1)]
  exact List.mem_cons_self

/-- The steps of an annotation are references to instants and to models. -/
theorem Ty.BuiltFrom.eq_reference_of_mem {source : SchemaSource} {owner : ClassRef} {t : Ty}
    (built : t.BuiltFrom source.catalog.table.IsPart) (wellFormed : source.catalog.WellFormed)
    {step : OutlineStep}
    (member : step ∈ source.formSteps owner (source.catalog.table.form t)) :
    step = SchemaSource.instantReference ∨ ∃ c, step = source.modelReference c := by
  obtain ⟨atVariable, argumentsOf, form⟩ := SchemaSource.exists_form_eq source.catalog.table t
  rw [form] at member
  obtain ⟨c, ⟨b, rfl, isScalar⟩ | isObject, step⟩ := built.origin_of_mem member
  · rw [SchemaSource.formSteps_scalar isScalar] at step
    split at step
    · exact .inl (List.mem_singleton.mp step)
    · exact absurd step List.not_mem_nil
  · rw [SchemaSource.formSteps_object wellFormed isObject] at step
    unfold SchemaSource.objectSteps at step
    split at step
    · split at step
      · exact absurd step List.not_mem_nil
      · exact .inr ⟨c, List.mem_singleton.mp step⟩
    · obtain ⟨d, -, rfl⟩ := List.mem_map.mp step
      exact .inr ⟨d, rfl⟩

/-! ### Properties -/

/-- A regular model has properties, without limits and under names of their own. -/
theorem Catalog.IsRegular.exists_properties {catalog : Catalog} {c : ClassRef}
    (regular : catalog.IsRegular catalog.table.IsPart c)
    (isModel : catalog.table.isBasicSubclass c .model = true) :
    ∃ props, catalog.table.properties c = .ok props ∧ HasDistinctKeys props
      ∧ (∀ p ∈ props, p.limits = [])
      ∧ ∀ p ∈ props, p.annotation.BuiltFrom catalog.table.IsPart := by
  have complete : catalog.table.requireComplete c = .ok () := by
    unfold ClassTable.requireComplete
    rw [isModel, regular.resolved]
    rfl
  rw [ClassTable.properties_of_complete complete]
  cases model : catalog.table.model? c with
  | none => exact ⟨[], rfl, List.nodup_nil, List.forall_mem_nil _, List.forall_mem_nil _⟩
  | some info =>
    have parts := regular.parts info model
    dsimp only
    rw [parts.modelProperties_eq]
    exact ⟨_, rfl, parts.distinct_properties, fun _ => Catalog.limits_of_mem_regularProperties,
      fun _ => parts.annotation_isPart⟩

namespace SchemaSource

/-! ### What a root reaches -/

/-- The classes whose bodies the document of a root can have. -/
inductive Reaches (source : SchemaSource) : ClassRef → Prop where
  | root : Reaches source source.root
  | subType {c d : ClassRef} : Reaches source c → d ∈ source.subTypes c → Reaches source d
  | property {c d : ClassRef} {props : List Property} {p : Property} : Reaches source c →
      source.catalog.table.properties c = .ok props → p ∈ props →
      .enter d ∈ (source.catalog.table.form p.annotation).walkSteps → Reaches source d

/-- The bodies of a document are those of classes that the root reaches. -/
theorem defines_reached (source : SchemaSource) : Defines source.Reaches source.outline.1 := by
  have agreement : Agreement source.catalog source.root source.registry source.registry
      source.Reaches :=
    ⟨fun _ _ => rfl, fun _ inside _ => inside.subType,
      fun _ inside _ found _ member _ => inside.property found member⟩
  exact agreement.defines_outline .root

theorem reaches_of_isWritten {source : SchemaSource} {c : ClassRef}
    (written : source.IsWritten source.outline.1 c) : source.Reaches c := by
  rcases written with ⟨rfl, -⟩ | ⟨d, member, rfl, isModel⟩
  · exact .root
  · exact source.defines_reached d member isModel

section

variable {source : SchemaSource} {outline : Outline} {c : ClassRef}

/-- The steps of a body in the document belong to the document. -/
theorem mem_allSteps (written : source.IsWritten outline c) :
    ∀ step ∈ source.bodySteps c, step ∈ source.allSteps outline := by
  rcases written with ⟨rfl, noSubTypes⟩ | ⟨d, member, rfl, isModel⟩
  · intro step own
    refine List.mem_append_left _ ?_
    unfold rootSteps
    rw [noSubTypes]
    exact own
  · exact mem_allSteps_of_body member isModel

/-- A reference is one to a model, or it belongs to a body. -/
theorem exists_of_reference {label : String} {kind : DefinitionKind}
    (member : .reference c label kind ∈ source.allSteps outline) :
    kind = .model
      ∨ ∃ e, source.IsWritten outline e ∧ .reference c label kind ∈ source.bodySteps e := by
  rcases List.mem_append.mp member with atRoot | inDefinition
  · unfold rootSteps at atRoot
    split at atRoot
    next noSubTypes => exact .inr ⟨_, .inl ⟨rfl, noSubTypes⟩, atRoot⟩
    next =>
      obtain ⟨s, -, same⟩ := List.mem_map.mp atRoot
      cases same
      exact .inl rfl
  · obtain ⟨d, inside, step⟩ := List.mem_flatMap.mp inDefinition
    cases isModel : d.kind with
    | model =>
      rw [isModel] at step
      exact .inr ⟨d.type, .inr ⟨d, inside, rfl, isModel⟩, step⟩
    | fixed schema =>
      rw [isModel] at step
      exact absurd step List.not_mem_nil

end

/-! ### Roots that reach regular models only -/

/-- Whether the root reaches regular models only, and it is told apart which of the classes of a
choice an instance has. -/
structure IsRegular (source : SchemaSource) : Prop where
  wellFormed : source.catalog.WellFormed
  plain : source.catalog.table.HasNoFragments
  isModel : ∀ c, source.Reaches c → source.catalog.table.isBasicSubclass c .model = true
  regular : ∀ c, source.Reaches c → source.catalog.IsRegular source.catalog.table.IsPart c
  apart : ∀ c, source.Reaches c → source.TellsApart c

namespace IsRegular

variable {source : SchemaSource} (isRegular : source.IsRegular) {c : ClassRef}
include isRegular

theorem ne_instant (reached : source.Reaches c) : c ≠ .basic .instant := by
  rintro rfl
  cases isRegular.isModel _ reached

theorem mem_allClasses (reached : source.Reaches c) : c ∈ source.catalog.table.allClasses :=
  ClassTable.mem_allClasses_of_mem_ancestors
    (ClassTable.isSubclass_iff.mp (isRegular.isModel c reached))

/-! #### The outline is finished -/

theorem finished : source.outline.2 = none := by
  refine Option.eq_none_iff_forall_ne_some.mpr fun reason failed => ?_
  obtain ⟨c, reached, step⟩ := exists_of_failure source.defines_reached .root failed
  obtain ⟨props, found, -, -, built⟩ :=
    (isRegular.regular c reached).exists_properties (isRegular.isModel c reached)
  obtain ⟨p, inside, step⟩ :=
    exists_of_fail_mem_bodySteps step found (isRegular.plain.hasMergedFragments c)
  rcases (built p inside).eq_reference_of_mem isRegular.wellFormed step with same | ⟨_, same⟩ <;>
    cases same

theorem outlined : source.Outlined source.outline.1 [] :=
  outlined_of_outline (Prod.ext rfl isRegular.finished)

/-! #### Definitions -/

/-- A fixed schema is that of instants. -/
theorem reference_eq {label : String} {schema : Value}
    (member : .reference c label (.fixed schema) ∈ source.allSteps source.outline.1) :
    .reference c label (.fixed schema) = instantReference := by
  rcases exists_of_reference member with absurdly | ⟨e, written, step⟩
  · cases absurdly
  · have reached := reaches_of_isWritten written
    obtain ⟨props, found, -, -, built⟩ :=
      (isRegular.regular e reached).exists_properties (isRegular.isModel e reached)
    obtain ⟨_, foundElse, p, inside, step⟩ := exists_of_mem_bodySteps step
    obtain rfl := Except.ok.inj (found.symm.trans foundElse)
    have isProperty := mem_of_mem_bodyProperties inside
    rcases (built p isProperty).eq_reference_of_mem isRegular.wellFormed step with same | ⟨_, same⟩
    · exact same
    · cases same

/-- The definitions are bodies, and the schema of instants. -/
theorem kinds {d : Definition} (member : d ∈ source.outline.1.definitions) :
    (d.type ≠ .basic .instant ∧ d.kind = .model)
      ∨ (d.type = .basic .instant ∧ d.kind = .fixed instantFormat.2) := by
  cases kind : d.kind with
  | model => exact .inl ⟨isRegular.ne_instant (source.defines_reached d member kind), rfl⟩
  | fixed schema =>
    obtain ⟨label, requested⟩ := isRegular.outlined.requested d member
    rw [kind] at requested
    obtain ⟨isInstant, -, isFixed⟩ := OutlineStep.reference.inj (isRegular.reference_eq requested)
    exact .inr ⟨isInstant, isFixed⟩

/-- What is referred to has a definition. -/
theorem has_of_reference {label : String} {kind : DefinitionKind}
    (known : c ∈ source.catalog.table.allClasses)
    (member : .reference c label kind ∈ source.allSteps source.outline.1) :
    source.outline.1.has c = true := by
  rcases isRegular.outlined.settled _ member with pending | settled
  · exact absurd pending List.not_mem_nil
  · refine ((Bool.or_eq_true ..).mp settled).resolve_right fun unknown => ?_
    simp [known] at unknown

theorem hasModel_of_reference (reached : source.Reaches c)
    (member : source.modelReference c ∈ source.allSteps source.outline.1) :
    source.outline.1.HasModel c := by
  obtain ⟨d, isDefinition, rfl⟩ :=
    Outline.has_iff.mp (isRegular.has_of_reference (isRegular.mem_allClasses reached) member)
  rcases isRegular.kinds isDefinition with ⟨-, isModel⟩ | ⟨isInstant, -⟩
  · exact ⟨d, isDefinition, rfl, isModel⟩
  · exact absurd isInstant (isRegular.ne_instant reached)

/-- What a class refers to is the bodies that it stands for. -/
theorem isPresent (reached : source.Reaches c)
    (steps : ∀ step ∈ source.objectSteps c, step ∈ source.allSteps source.outline.1) :
    source.IsPresent source.outline.1 c := by
  unfold objectSteps at steps
  cases subTypes : source.subTypes c with
  | nil =>
    rw [subTypes] at steps
    dsimp only at steps
    by_cases isRoot : c = source.root
    · subst isRoot
      exact .inl ⟨rfl, subTypes⟩
    · rw [if_neg isRoot] at steps
      refine .inr fun d member => ?_
      rw [choices_of_nil subTypes] at member
      cases List.mem_singleton.mp member
      exact isRegular.hasModel_of_reference reached (steps _ List.mem_cons_self)
  | cons first rest =>
    rw [subTypes] at steps
    refine .inr fun d member => ?_
    rw [choices_of_ne_nil (subTypes ▸ List.cons_ne_nil _ _)] at member
    refine isRegular.hasModel_of_reference (reached.subType member) (steps _ ?_)
    exact List.mem_map_of_mem (subTypes ▸ member)

/-- The root stands for bodies in the document. -/
theorem isPresent_root : source.IsPresent source.outline.1 source.root := by
  by_cases noSubTypes : source.subTypes source.root = []
  · exact .inl ⟨rfl, noSubTypes⟩
  · refine .inr fun d member => ?_
    rw [choices_of_ne_nil noSubTypes] at member
    refine isRegular.hasModel_of_reference (Reaches.root.subType member)
      (List.mem_append_left _ ?_)
    unfold rootSteps
    split
    next absurdly => exact absurd absurdly noSubTypes
    next => exact List.mem_map_of_mem member

/-! #### Bodies -/

/-- The annotations in a body are built from classes for which the document has all that they refer
to. -/
theorem known (written : source.IsWritten source.outline.1 c) {props : List Property}
    (found : source.catalog.table.properties c = .ok props) {p : Property}
    (inside : p ∈ source.bodyProperties c props)
    (built : p.annotation.BuiltFrom source.catalog.table.IsPart) :
    p.annotation.BuiltFrom (source.IsKnown source.outline.1) := by
  have reached := reaches_of_isWritten written
  obtain ⟨atVariable, argumentsOf, form⟩ := exists_form_eq source.catalog.table p.annotation
  refine (built.shown source.catalog.table atVariable argumentsOf).mono fun d part => ?_
  rw [← form] at part
  obtain ⟨⟨b, rfl, isScalar⟩ | isObject, shows⟩ := part
  · refine .inl ⟨b, rfl, isScalar, ?_⟩
    rintro rfl
    have step : instantReference ∈ source.formSteps c
        ((Ty.cls (.basic .instant)).formAt source.catalog.table atVariable argumentsOf) := by
      rw [formSteps_scalar rfl]
      exact List.mem_cons_self
    exact isRegular.has_of_reference (ClassTable.basic_mem_allClasses _)
      (mem_allSteps written _ (mem_bodySteps found inside (shows.mem_formSteps step)))
  · have reached : source.Reaches d := reached.property found (mem_of_mem_bodyProperties inside)
      (shows.mem_walkSteps (isRegular.wellFormed.enter_mem_walkSteps isObject))
    refine .inr ⟨isObject, isRegular.apart d reached, isRegular.isPresent reached fun step own => ?_⟩
    rw [← formSteps_object isRegular.wellFormed isObject] at own
    exact mem_allSteps written _ (mem_bodySteps found inside (shows.mem_formSteps own))

/-- So the document can be read. -/
theorem isReadable : source.IsReadable source.outline.1 where
  wellFormed := isRegular.wellFormed
  plain := isRegular.plain
  types := isRegular.outlined.types
  names := isRegular.outlined.names
  spelled := isNameChar_of_outline rfl
  kinds _ member := isRegular.kinds member
  bodies c written := by
    have reached := reaches_of_isWritten written
    obtain ⟨props, found, distinct, unlimited, built⟩ :=
      (isRegular.regular c reached).exists_properties (isRegular.isModel c reached)
    exact ⟨props, found, distinct, unlimited, fun p inside =>
      isRegular.known written found inside (built p (mem_of_mem_bodyProperties inside))⟩

end IsRegular

end SchemaSource

/-! ### After a walk -/

section

variable {catalog : Catalog} {scope : Scope} {state : WalkState} {roots : List Ty}
  {kept : Registry} {root c : ClassRef}

/-- The classes that a walk has entered are models. -/
theorem Walker.Complete.isModel_of_entered
    (complete : (Walker.subclassing catalog scope).Complete roots state)
    (entered : c ∈ state.visited.map (·.1)) : catalog.table.isBasicSubclass c .model = true := by
  obtain ⟨props, found, -⟩ := complete.entered_of_property entered
  exact ClassTable.isSubclass_iff.mpr (ClassTable.isModel_of_properties found)

/-- What a class reaches that a walk has entered, the walk has entered as well. -/
theorem Walker.Complete.entered_of_reaches (wellFormed : catalog.WellFormed)
    (complete : (Walker.subclassing catalog scope).Complete roots state)
    (same : state.registry.SameUpToOrder kept) (entered : root ∈ state.visited.map (·.1))
    (reached : (SchemaSource.mk catalog kept root).Reaches c) : c ∈ state.visited.map (·.1) := by
  induction reached with
  | root => exact entered
  | subType _ member above => exact complete.entered_of_subType wellFormed same above _ member
  | property _ found member step above =>
    obtain ⟨_, foundElse, leads⟩ := complete.entered_of_property above
    obtain rfl := Except.ok.inj (found.symm.trans foundElse)
    exact leads _ member _ step

/-- After a walk, what a model reaches is models. -/
theorem Walker.Complete.isModel_of_reaches (wellFormed : catalog.WellFormed)
    (complete : (Walker.subclassing catalog scope).Complete roots state)
    (same : state.registry.SameUpToOrder kept)
    (isModel : catalog.table.isBasicSubclass root .model = true)
    (reached : (SchemaSource.mk catalog kept root).Reaches c) :
    catalog.table.isBasicSubclass c .model = true := by
  induction reached with
  | root => exact isModel
  | subType _ member above =>
    rcases SchemaSource.listed_or_found member with ⟨entry, listed, rfl⟩ | found
    · exact ClassTable.isSubclass_iff.mpr (wellFormed.layered.ancestors_trans
        (ClassTable.isSubclass_iff.mp above) (wellFormed.mem_ancestors_of_listed listed))
    · exact complete.isModel_of_entered (complete.entered_of_found wellFormed same found)
  | property _ _ _ step _ =>
    exact Form.isModel_of_enter _ (ClassTable.form_classified _) step

end

/-! ### Examples -/

section

open Example SchemaSource

/-- Where no name in an annotation stands for nothing, there is none in any class. -/
theorem ClassTable.unresolvedName?_eq_none {table : ClassTable}
    (known : ∀ d, ∀ t ∈ table.annotations d, t.forwardNames = []) (c : ClassRef) :
    table.unresolvedName? c = none := by
  unfold unresolvedName?
  refine List.findSome?_eq_none_iff.mpr fun d _ => ?_
  rw [List.head?_eq_none_iff, List.flatMap_eq_nil_iff]
  exact known d

/-- Models with plain fields are regular in their parts. -/
theorem Catalog.hasRegularParts_plain {catalog : Catalog} {isPart : ClassRef → Prop} {c : ClassRef}
    {info : ModelInfo} (fields : List (String × Ty))
    (plain : info.fields = fields.map fun field => plainField field.1 field.2)
    (noComputed : info.computed = []) (distinct : (fields.map (·.1)).Nodup)
    (built : ∀ field ∈ fields, (catalog.table.resolve field.2).BuiltFrom isPart) :
    catalog.HasRegularParts isPart c info := by
  have origin : ∀ field ∈ info.fields, ∃ entry ∈ fields, plainField entry.1 entry.2 = field := by
    rw [plain]
    exact fun field member => List.mem_map.mp member
  have included : ∀ field ∈ info.fields, (!field.excluded) = true := by
    intro field member
    obtain ⟨entry, -, rfl⟩ := origin field member
    rfl
  refine ⟨fun field member _ => ?_, ?_, fun field member _ => ?_, ?_, ?_, ?_, ?_⟩
  · obtain ⟨entry, inside, rfl⟩ := origin field member
    exact built entry inside
  · simp [noComputed]
  · obtain ⟨entry, inside, rfl⟩ := origin field member
    rfl
  · rw [plain, List.map_map]
    exact distinct
  · simp [noComputed]
  · rw [List.filter_eq_self.mpr included, noComputed, plain, List.map_map, List.map_nil,
      List.append_nil]
    exact distinct
  · simp [noComputed]

theorem isRegular_figures (c : ClassRef) : figures.IsRegular figures.table.IsPart c where
  resolved := by
    refine ClassTable.unresolvedName?_eq_none (fun d => ?_) c
    match d with
    | .basic b => cases b <;> exact nofun
    | .declared 0 | .declared 1 | .declared 2 | .declared 3 => decide
    | .declared (n + 4) => exact nofun
  parts info model := by
    have width : ∀ field ∈ [("width", Ty.basic .float)],
        (figures.table.resolve field.2).BuiltFrom figures.table.IsPart := by
      intro field member
      cases List.mem_singleton.mp member
      exact .cls (.inl ⟨.float, rfl, rfl⟩)
    have isObject : ∀ c ∈ [figure, polygon, drawing], figures.table.IsPart c := by
      intro c member
      exact .inr (by revert c; unfold ClassTable.IsObject; decide)
    match c with
    | .basic b =>
      cases b <;> cases model
      exact Catalog.hasRegularParts_plain [] rfl rfl .nil nofun
    | .declared 0 =>
      cases model
      exact Catalog.hasRegularParts_plain [] rfl rfl .nil nofun
    | .declared 1 | .declared 2 =>
      cases model
      exact Catalog.hasRegularParts_plain [("width", .basic .float)] rfl rfl (by decide) width
    | .declared 3 =>
      cases model
      refine Catalog.hasRegularParts_plain [("figures", .array .list (.cls figure)),
        ("frame", .cls polygon), ("next", .optional (.cls drawing)),
        ("created", .basic .instant)] rfl rfl (by decide) fun field member => ?_
      simp only [List.mem_cons, List.not_mem_nil, or_false] at member
      rcases member with rfl | rfl | rfl | rfl
      · exact .list (.cls (isObject _ (by simp)))
      · exact .cls (isObject _ (by simp))
      · refine .union (by decide) fun t member present => ?_
        have isDrawing : t = .cls drawing := by
          rcases List.mem_pair.mp member with rfl | rfl
          · rfl
          · exact absurd rfl present
        exact isDrawing ▸ .cls (isObject _ (by simp))
      · exact .cls (.inl ⟨.instant, rfl, rfl⟩)
    | .declared (n + 4) => cases model

/-- The figures for a root, after a walk that found polygons and squares. -/
def figuresFor (root : ClassRef) : SchemaSource := ⟨figures, [⟨figure, [polygon, square]⟩], root⟩

variable {root c : ClassRef}

theorem subTypes_figuresFor (root : ClassRef) :
    (figuresFor root).subTypes drawing = [] ∧ (figuresFor root).subTypes figure = [polygon, square]
      ∧ (figuresFor root).subTypes polygon = [square] ∧ (figuresFor root).subTypes square = [] := by
  refine ⟨?_, ?_, ?_, ?_⟩ <;> cbv

theorem tellsApart_figuresFor (member : c ∈ [drawing, figure, polygon, square]) :
    (figuresFor root).TellsApart c := by
  obtain ⟨ofDrawing, ofFigure, ofPolygon, ofSquare⟩ := subTypes_figuresFor root
  have marked : ∀ d ∈ [polygon, square], figures.writtenDiscriminator? d = some "kind" := by decide
  have names : figures.typeName polygon ≠ figures.typeName square := by decide
  unfold TellsApart
  simp only [List.mem_cons, List.not_mem_nil, or_false] at member
  rcases member with rfl | rfl | rfl | rfl
  · rw [ofDrawing]
    exact .nil
  · rw [ofFigure]
    exact List.pairwise_pair.mpr ⟨"kind", marked _ (by simp), marked _ (by simp), names⟩
  · rw [ofPolygon]
    exact List.pairwise_singleton _ _
  · rw [ofSquare]
    exact .nil

theorem mem_of_reached (member : root ∈ [drawing, figure, polygon, square])
    (reached : (figuresFor root).Reaches c) : c ∈ [drawing, figure, polygon, square] := by
  obtain ⟨state, complete, same, visited⟩ :=
    Walker.complete_of_run (Walker.run_of_walks walks_figures)
  rw [Walker.classesVisited, Walker.followRoots_of_walks walks_figures] at visited
  have visited : [drawing, figure, polygon, square] = state.visited.map (·.1) := visited
  rw [visited] at member ⊢
  exact complete.entered_of_reaches (by decide) (same ▸ Registry.SameUpToOrder.refl _) member reached

theorem isRegular_figuresFor (member : root ∈ [drawing, figure, polygon, square]) :
    (figuresFor root).IsRegular := by
  have reached : ∀ {c}, (figuresFor root).Reaches c → c ∈ [drawing, figure, polygon, square] :=
    mem_of_reached member
  have wellFormed : figures.WellFormed := by decide
  have isModel : ∀ c ∈ [drawing, figure, polygon, square],
      figures.table.isBasicSubclass c .model = true := by decide
  exact ⟨wellFormed, hasNoFragments_figures, fun c inside => isModel c (reached inside),
    fun c _ => isRegular_figures c, fun c inside => tellsApart_figuresFor (reached inside)⟩

end

end ModelSchema
