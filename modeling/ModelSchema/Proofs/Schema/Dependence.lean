import Mathlib.Data.List.Basic
import ModelSchema.Polymorphism.Walk
import ModelSchema.Proofs.Property
import ModelSchema.Schema.Tree

/-!
What a document depends on.

A document reads the subtypes of its root, of the classes that the properties of its bodies lead to,
and of no other classes. So registries that agree on a set of classes which holds the root, and
whatever its classes lead to, give one document (`Agreement.tree_eq`).
-/

namespace ModelSchema.SchemaSource

variable {catalog : Catalog} {root : ClassRef} {first second : Registry}

/-! ### Subtypes -/

section

variable {source : SchemaSource} {c d : ClassRef}

/-- The subtypes that were found for a class are those of an entry. -/
theorem exists_of_mem_foundSubTypes (member : d ∈ source.foundSubTypes c) :
    ∃ e entry, source.registry.entry? e = some entry ∧ d ∈ entry.subTypes := by
  unfold foundSubTypes at member
  dsimp only at member
  split at member
  · unfold inheritedSubTypes at member
    dsimp only at member
    split at member
    next entry nearest =>
      obtain ⟨e, -, found⟩ := List.exists_of_findSome?_eq_some nearest
      exact ⟨e, entry, found, (List.mem_filter.mp member).1⟩
    next => exact absurd member List.not_mem_nil
  · unfold Registry.subTypesOf at member
    split at member
    next entry found => exact ⟨c, entry, found, member⟩
    next => exact absurd member List.not_mem_nil

/-- The subtypes of a class are those of its closed list, or they were found for it. -/
theorem listed_or_found (member : d ∈ source.subTypes c) :
    (∃ entry ∈ source.catalog.declaredSubTypes c, entry.1 = d) ∨ d ∈ source.foundSubTypes c := by
  unfold subTypes at member
  split at member
  · exact .inr (List.mem_mergeSort.mp member)
  next entries _ =>
    obtain ⟨entry, listed, rfl⟩ := List.mem_map.mp member
    unfold Catalog.explicitSubTypes at listed
    obtain ⟨declared, isDeclared, rfl⟩ := List.mem_map.mp listed
    exact .inl ⟨declared, isDeclared, rfl⟩

end

/-! ### Annotations -/

/-- Whether two registries have the same subtypes for a class. -/
def AgreeAt (catalog : Catalog) (root : ClassRef) (first second : Registry) (c : ClassRef) : Prop :=
  (SchemaSource.mk catalog first root).subTypes c = (SchemaSource.mk catalog second root).subTypes c

theorem objectSteps_congr {c : ClassRef} (agree : AgreeAt catalog root first second c) :
    (SchemaSource.mk catalog first root).objectSteps c
      = (SchemaSource.mk catalog second root).objectSteps c := by
  unfold objectSteps
  rw [agree]
  rfl

theorem objectNode_congr {names : ClassRef → String} {c : ClassRef}
    (agree : AgreeAt catalog root first second c) :
    (SchemaSource.mk catalog first root).objectNode names c
      = (SchemaSource.mk catalog second root).objectNode names c := by
  unfold objectNode
  rw [agree]

mutual

/-- The steps of an annotation depend on the subtypes of the classes it leads to. -/
theorem formSteps_congr {owner : ClassRef} :
    ∀ form : Form, (∀ c, .enter c ∈ form.walkSteps → AgreeAt catalog root first second c) →
      (SchemaSource.mk catalog first root).formSteps owner form
        = (SchemaSource.mk catalog second root).formSteps owner form
  | .of _ notes shape, agree => by
    rw [Form.walkSteps] at agree
    rw [formSteps, formSteps, shapeSteps_congr shape agree]

theorem shapeSteps_congr {owner : ClassRef} :
    ∀ shape : Shape, (∀ c, .enter c ∈ shape.walkSteps → AgreeAt catalog root first second c) →
      (SchemaSource.mk catalog first root).shapeSteps owner shape
        = (SchemaSource.mk catalog second root).shapeSteps owner shape
  | .object c arguments, agree => by
    rw [Shape.walkSteps] at agree
    exact objectSteps_congr (agree c List.mem_cons_self)
  | .array element _, agree => by
    rw [Shape.walkSteps] at agree
    exact formSteps_congr element agree
  | .fixedArray elements, agree => by
    rw [Shape.walkSteps] at agree
    exact formsSteps_congr elements agree
  | .map key value, agree => by
    rw [Shape.walkSteps] at agree
    exact formSteps_congr value fun c h => agree c (List.mem_append_right _ h)
  | .union options _, agree => by
    rw [Shape.walkSteps] at agree
    exact formsSteps_congr options agree
  | .any, _ | .null, _ | .leaf _, _ | .unsupported _, _ | .enumeration none [], _
  | .enumeration (some _) [], _ | .enumeration none (_ :: _), _
  | .enumeration (some _) (_ :: _), _ => rfl

theorem formsSteps_congr {owner : ClassRef} :
    ∀ forms : List Form, (∀ c, .enter c ∈ walkStepsOf forms → AgreeAt catalog root first second c) →
      (SchemaSource.mk catalog first root).formsSteps owner forms
        = (SchemaSource.mk catalog second root).formsSteps owner forms
  | [], _ => rfl
  | form :: rest, agree => by
    rw [walkStepsOf] at agree
    rw [formsSteps, formsSteps,
      formSteps_congr form fun c h => agree c (List.mem_append_left _ h),
      formsSteps_congr rest fun c h => agree c (List.mem_append_right _ h)]

end

mutual

/-- So does the node of an annotation. -/
theorem formNode_congr {names : ClassRef → String} {owner : ClassRef} :
    ∀ (form : Form) (limits : Limits),
      (∀ c, .enter c ∈ form.walkSteps → AgreeAt catalog root first second c) →
      (SchemaSource.mk catalog first root).formNode names owner limits form
        = (SchemaSource.mk catalog second root).formNode names owner limits form
  | .of _ notes shape, limits, agree => by
    rw [Form.walkSteps] at agree
    exact shapeNode_congr shape _ agree

theorem shapeNode_congr {names : ClassRef → String} {owner : ClassRef} :
    ∀ (shape : Shape) (limits : Limits),
      (∀ c, .enter c ∈ shape.walkSteps → AgreeAt catalog root first second c) →
      (SchemaSource.mk catalog first root).shapeNode names owner limits shape
        = (SchemaSource.mk catalog second root).shapeNode names owner limits shape
  | .object c arguments, limits, agree => by
    rw [Shape.walkSteps] at agree
    rw [shapeNode, shapeNode, objectNode_congr (agree c List.mem_cons_self)]
  | .array element _, limits, agree => by
    rw [Shape.walkSteps] at agree
    rw [shapeNode, shapeNode, formNode_congr element [] agree]
  | .fixedArray elements, limits, agree => by
    rw [Shape.walkSteps] at agree
    rw [shapeNode, shapeNode, formNodes_congr elements [] agree]
  | .map key value, limits, agree => by
    rw [Shape.walkSteps] at agree
    rw [shapeNode, shapeNode,
      formNode_congr value [] fun c h => agree c (List.mem_append_right _ h)]
  | .union options _, limits, agree => by
    rw [Shape.walkSteps] at agree
    rw [shapeNode, shapeNode, formNodes_congr options limits agree]
  | .any, _, _ | .null, _, _ | .leaf _, _, _ | .unsupported _, _, _ | .enumeration none [], _, _
  | .enumeration (some _) [], _, _ | .enumeration none (_ :: _), _, _
  | .enumeration (some _) (_ :: _), _, _ => rfl

theorem formNodes_congr {names : ClassRef → String} {owner : ClassRef} :
    ∀ (forms : List Form) (limits : Limits),
      (∀ c, .enter c ∈ walkStepsOf forms → AgreeAt catalog root first second c) →
      (SchemaSource.mk catalog first root).formNodes names owner limits forms
        = (SchemaSource.mk catalog second root).formNodes names owner limits forms
  | [], _, _ => rfl
  | form :: rest, limits, agree => by
    rw [walkStepsOf] at agree
    rw [formNodes, formNodes,
      formNode_congr form limits fun c h => agree c (List.mem_append_left _ h),
      formNodes_congr rest limits fun c h => agree c (List.mem_append_right _ h)]

end

/-! ### References -/

section

variable {source : SchemaSource} {owner d : ClassRef} {label : String} {kind : DefinitionKind}

/-- A reference to a fixed schema, which is that of the class. -/
def IsFixedReference (table : ClassTable) (c : ClassRef) (label : String) (kind : DefinitionKind) :
    Prop :=
  ∃ schema, kind = .fixed schema ∧ table.objectFormat? c = some (label, schema)

/-- The references of a leaf are to its own fixed schema. -/
theorem isFixedReference_of_mem_leafSteps {c : ClassRef}
    (member : .reference d label kind ∈ source.leafSteps owner c) :
    IsFixedReference source.catalog.table d label kind := by
  unfold leafSteps at member
  dsimp only at member
  split at member
  next format found =>
    cases List.mem_singleton.mp member
    exact ⟨_, rfl, found⟩
  next =>
    split at member
    · exact absurd member List.not_mem_nil
    · cases List.mem_singleton.mp member

mutual

/-- References come from the classes that an annotation leads to, or else from its leaves. -/
theorem origin_of_mem_formSteps :
    ∀ form : Form, .reference d label kind ∈ source.formSteps owner form →
      (∃ c, .enter c ∈ form.walkSteps ∧ .reference d label kind ∈ source.objectSteps c)
        ∨ IsFixedReference source.catalog.table d label kind
  | .of _ notes shape, member => by
    rw [formSteps] at member
    rw [Form.walkSteps]
    rcases List.mem_append.mp member with limits | inside
    · split at limits
      · exact absurd limits List.not_mem_nil
      · cases List.mem_singleton.mp limits
    · exact origin_of_mem_shapeSteps shape inside

theorem origin_of_mem_shapeSteps :
    ∀ shape : Shape, .reference d label kind ∈ source.shapeSteps owner shape →
      (∃ c, .enter c ∈ shape.walkSteps ∧ .reference d label kind ∈ source.objectSteps c)
        ∨ IsFixedReference source.catalog.table d label kind
  | .object c arguments, member => by
    rw [Shape.walkSteps]
    exact .inl ⟨c, List.mem_cons_self, member⟩
  | .array element _, member => by
    rw [Shape.walkSteps]
    exact origin_of_mem_formSteps element member
  | .fixedArray elements, member => by
    rw [Shape.walkSteps]
    exact origin_of_mem_formsSteps elements member
  | .map key value, member => by
    rw [Shape.walkSteps]
    rcases origin_of_mem_formSteps value member with ⟨c, step, inside⟩ | leaf
    · exact .inl ⟨c, List.mem_append_right _ step, inside⟩
    · exact .inr leaf
  | .union options _, member => by
    rw [Shape.walkSteps]
    exact origin_of_mem_formsSteps options member
  | .leaf c, member | .enumeration (some c) [], member =>
    .inr (isFixedReference_of_mem_leafSteps member)
  | .any, member | .null, member | .unsupported _, member | .enumeration none [], member
  | .enumeration none (_ :: _), member | .enumeration (some _) (_ :: _), member => by
    simp [shapeSteps] at member

theorem origin_of_mem_formsSteps :
    ∀ forms : List Form, .reference d label kind ∈ source.formsSteps owner forms →
      (∃ c, .enter c ∈ walkStepsOf forms ∧ .reference d label kind ∈ source.objectSteps c)
        ∨ IsFixedReference source.catalog.table d label kind
  | [], member => by simp [formsSteps] at member
  | form :: rest, member => by
    rw [formsSteps] at member
    rw [walkStepsOf]
    rcases List.mem_append.mp member with here | later
    · rcases origin_of_mem_formSteps form here with ⟨c, step, inside⟩ | leaf
      · exact .inl ⟨c, List.mem_append_left _ step, inside⟩
      · exact .inr leaf
    · rcases origin_of_mem_formsSteps rest later with ⟨c, step, inside⟩ | leaf
      · exact .inl ⟨c, List.mem_append_right _ step, inside⟩
      · exact .inr leaf

end

/-! ### Bodies -/

theorem mem_of_mem_bodyProperties {c : ClassRef} {props : List Property}
    {p : Property} (member : p ∈ source.bodyProperties c props) : p ∈ props :=
  mem_of_mem_orderProperties (List.mem_filter.mp member).1

/-- The failure of a fragment is no reference. -/
theorem reference_notMem_fragmentSteps {fragment : Option Fragment} :
    .reference d label kind ∉ fragmentSteps fragment := by
  unfold fragmentSteps
  split <;> simp

/-- The steps of the annotations of properties in a body are steps of the body. -/
theorem mem_bodySteps {c : ClassRef} {props : List Property} {p : Property} {step : OutlineStep}
    (found : source.catalog.table.properties c = .ok props) (inside : p ∈ source.bodyProperties c props)
    (member : step ∈ source.formSteps c (source.catalog.table.form p.annotation)) :
    step ∈ source.bodySteps c := by
  unfold bodySteps
  rw [found]
  refine List.mem_append_left _ (List.mem_flatMap.mpr ⟨p, inside, ?_⟩)
  exact List.mem_append_left _ (List.mem_append_right _ member)

/-- What the steps of a body are: those of the annotations of properties in it, notices, and failures
of fragments. -/
theorem cases_of_mem_bodySteps {c : ClassRef} {props : List Property} {step : OutlineStep}
    (found : source.catalog.table.properties c = .ok props) (member : step ∈ source.bodySteps c) :
    (∃ p ∈ source.bodyProperties c props,
        step ∈ source.formSteps c (source.catalog.table.form p.annotation))
      ∨ (∃ notice, step = .notice notice)
      ∨ step ∈ fragmentSteps (source.catalog.table.config c).extra.join
      ∨ ∃ p ∈ source.bodyProperties c props, step ∈ fragmentSteps p.extra := by
  unfold bodySteps at member
  rw [found] at member
  rcases List.mem_append.mp member with inProperty | inFragment
  · obtain ⟨p, inside, own⟩ := List.mem_flatMap.mp inProperty
    unfold propertySteps at own
    rw [List.mem_append, List.mem_append] at own
    rcases own with (notice | ofAnnotation) | inFragment
    · split at notice
      · exact .inr (.inl ⟨_, List.mem_singleton.mp notice⟩)
      · exact absurd notice List.not_mem_nil
    · exact .inl ⟨p, inside, ofAnnotation⟩
    · exact .inr (.inr (.inr ⟨p, inside, inFragment⟩))
  · exact .inr (.inr (.inl inFragment))

/-- The references of a body are those of the annotations of properties in it. -/
theorem exists_of_mem_bodySteps {c : ClassRef}
    (member : .reference d label kind ∈ source.bodySteps c) :
    ∃ props, source.catalog.table.properties c = .ok props ∧ ∃ p ∈ source.bodyProperties c props,
      .reference d label kind ∈ source.formSteps c (source.catalog.table.form p.annotation) := by
  cases found : source.catalog.table.properties c with
  | error reason =>
    unfold bodySteps at member
    rw [found] at member
    cases List.mem_singleton.mp member
  | ok props =>
    rcases cases_of_mem_bodySteps found member with
      ⟨p, inside, step⟩ | ⟨_, isNotice⟩ | inFragment | ⟨_, -, inFragment⟩
    · exact ⟨props, rfl, p, inside, step⟩
    · cases isNotice
    · exact absurd inFragment reference_notMem_fragmentSteps
    · exact absurd inFragment reference_notMem_fragmentSteps

/-- So they come from the classes and the leaves that these annotations lead to. -/
theorem origin_of_mem_bodySteps {c : ClassRef}
    (member : .reference d label kind ∈ source.bodySteps c) :
    ∃ props, source.catalog.table.properties c = .ok props ∧ ∃ p ∈ source.bodyProperties c props,
      (∃ e, .enter e ∈ (source.catalog.table.form p.annotation).walkSteps
          ∧ .reference d label kind ∈ source.objectSteps e)
        ∨ IsFixedReference source.catalog.table d label kind := by
  obtain ⟨props, found, p, inside, step⟩ := exists_of_mem_bodySteps member
  exact ⟨props, found, p, inside, origin_of_mem_formSteps _ step⟩

end

/-- A class that is defined by a body is one of the classes. -/
def Defines (V : ClassRef → Prop) (outline : Outline) : Prop :=
  ∀ d ∈ outline.definitions, ∀ _ : d.kind = .model, V d.type

/-- Registries that agree on some classes, where these lead to no others. -/
structure Agreement (catalog : Catalog) (root : ClassRef) (first second : Registry)
    (V : ClassRef → Prop) : Prop where
  subTypes : ∀ c, V c → AgreeAt catalog root first second c
  branch : ∀ c, V c → ∀ d ∈ (SchemaSource.mk catalog first root).subTypes c, V d
  property : ∀ c, V c → ∀ props, catalog.table.properties c = .ok props → ∀ p ∈ props, ∀ d,
    .enter d ∈ (catalog.table.form p.annotation).walkSteps → V d

namespace Agreement

variable {V : ClassRef → Prop} (agreement : Agreement catalog root first second V)
include agreement

/-- The bodies of the classes make the same steps. -/
theorem bodySteps_eq {c : ClassRef} (inside : V c) :
    (SchemaSource.mk catalog first root).bodySteps c
      = (SchemaSource.mk catalog second root).bodySteps c := by
  unfold bodySteps
  dsimp only
  split
  · rfl
  next props found =>
    congr 1
    refine List.flatMap_congr fun p member => ?_
    have leads := agreement.property c inside props found p (mem_of_mem_bodyProperties member)
    unfold propertySteps
    dsimp only
    rw [formSteps_congr _ fun d step => agreement.subTypes d (leads d step)]

/-- References stay among the classes. -/
theorem mem_of_reference {c d : ClassRef} {label : String} (inside : V c)
    (member : .reference d label .model ∈ (SchemaSource.mk catalog first root).objectSteps c) : V d := by
  unfold objectSteps at member
  split at member
  · split at member
    · exact absurd member List.not_mem_nil
    · cases List.mem_singleton.mp member
      exact inside
  next found =>
    obtain ⟨s, hs, same⟩ := List.mem_map.mp member
    cases same
    exact agreement.branch c inside _ hs

/-- So they do in bodies. -/
theorem mem_of_body_reference {c d : ClassRef} {label : String} (inside : V c)
    (member : .reference d label .model ∈ (SchemaSource.mk catalog first root).bodySteps c) : V d := by
  obtain ⟨props, found, p, hp, ⟨e, entered, reference⟩ | ⟨schema, fixed, _⟩⟩ :=
    origin_of_mem_bodySteps member
  · have inside := agreement.property c inside props found p (mem_of_mem_bodyProperties hp) e entered
    exact agreement.mem_of_reference inside reference
  · cases fixed

/-- The bodies of the classes are the same. -/
theorem classBody_eq {names : ClassRef → String} {c : ClassRef} (inside : V c) :
    (SchemaSource.mk catalog first root).classBody names c
      = (SchemaSource.mk catalog second root).classBody names c := by
  unfold classBody
  dsimp only
  split
  next props found =>
    have nodes : (SchemaSource.mk catalog first root).propertyNodes names c props
        = (SchemaSource.mk catalog second root).propertyNodes names c props := by
      unfold propertyNodes
      refine List.foldl_ext _ _ _ fun nodes p member => ?_
      have leads := agreement.property c inside props found p (mem_of_mem_bodyProperties member)
      unfold propertyNode
      dsimp only
      rw [formNode_congr _ _ fun d step => agreement.subTypes d (leads d step)]
    unfold bodyNode
    rw [nodes]
    rfl
  · rfl

/-! ### Documents -/

/-- The outlines are the same, and they define bodies for no other classes. -/
theorem extendOutline_eq {outline : Outline} {steps : List OutlineStep}
    (start : Defines V outline) (inside : ∀ c label, .reference c label .model ∈ steps → V c) :
    (SchemaSource.mk catalog first root).extendOutline outline steps
        = (SchemaSource.mk catalog second root).extendOutline outline steps
      ∧ Defines V ((SchemaSource.mk catalog first root).extendOutline outline steps).1 := by
  fun_induction (SchemaSource.mk catalog first root).extendOutline outline steps with
  | case1 outline => exact ⟨by rw [extendOutline], start⟩
  | case2 outline reason rest => exact ⟨by rw [extendOutline], start⟩
  | case3 outline notice rest ih =>
    rw [extendOutline]
    exact ih start fun c label member => inside c label (List.mem_cons_of_mem _ member)
  | case4 outline c label kind rest isDefined ih =>
    have isDefined' : (SchemaSource.mk catalog second root).isDefined outline c = true := isDefined
    rw [extendOutline, dif_pos isDefined']
    exact ih start fun c label member => inside c label (List.mem_cons_of_mem _ member)
  | case5 outline c label kind rest isDefined ih =>
    have isDefined' : ¬ (SchemaSource.mk catalog second root).isDefined outline c = true :=
      isDefined
    have here : kind = .model → V c := fun model => inside c label (model ▸ List.mem_cons_self)
    have steps : (SchemaSource.mk catalog second root).definitionSteps c kind
        = (SchemaSource.mk catalog first root).definitionSteps c kind := by
      cases kind with
      | fixed schema => rfl
      | model => exact (agreement.bodySteps_eq (here rfl)).symm
    rw [extendOutline, dif_neg isDefined', steps]
    refine ih (fun d member model => ?_) fun d label member => ?_
    · rcases List.mem_append.mp member with old | new
      · exact start d old model
      · cases List.mem_singleton.mp new
        exact here model
    · rcases List.mem_append.mp member with body | later
      · cases kind with
        | fixed schema => exact absurd body List.not_mem_nil
        | model => exact agreement.mem_of_body_reference (here rfl) body
      · exact inside d label (List.mem_cons_of_mem _ later)

/-- The steps of the root are the same, and they make references to the classes only. -/
theorem rootSteps_eq (inside : V root) :
    (SchemaSource.mk catalog first root).rootSteps = (SchemaSource.mk catalog second root).rootSteps
      ∧ ∀ c label, .reference c label .model ∈ (SchemaSource.mk catalog first root).rootSteps →
        V c := by
  have subTypes := agreement.subTypes root inside
  unfold rootSteps
  dsimp only
  rw [← subTypes]
  split
  · exact ⟨agreement.bodySteps_eq inside, fun _ _ => agreement.mem_of_body_reference inside⟩
  · refine ⟨rfl, fun c label member => ?_⟩
    obtain ⟨s, hs, same⟩ := List.mem_map.mp member
    cases same
    exact agreement.branch root inside _ hs

/-- So the outline of the root defines bodies for the classes only. -/
theorem defines_outline (inside : V root) :
    Defines V (SchemaSource.mk catalog first root).outline.1 :=
  (agreement.extendOutline_eq (fun _ member => absurd member List.not_mem_nil)
    (agreement.rootSteps_eq inside).2).2

/-- The documents of one outline are the same. -/
theorem document_eq {outline : Outline} (defines : Defines V outline) (inside : V root) :
    (SchemaSource.mk catalog first root).document outline
      = (SchemaSource.mk catalog second root).document outline := by
  have rootNode : (SchemaSource.mk catalog first root).rootNode outline.nameOf
      = (SchemaSource.mk catalog second root).rootNode outline.nameOf := by
    unfold rootNode
    dsimp only
    rw [agreement.subTypes root inside, agreement.classBody_eq inside]
  have definition : ∀ d ∈ outline.definitions,
      (SchemaSource.mk catalog first root).definitionNode outline.nameOf d
        = (SchemaSource.mk catalog second root).definitionNode outline.nameOf d := by
    intro d member
    unfold definitionNode
    split
    next model => rw [agreement.classBody_eq (defines d member model)]
    next => rfl
  unfold document
  dsimp only
  rw [rootNode]
  congr 3
  refine List.map_congr_left fun d member => ?_
  rw [definition d (List.mem_mergeSort.mp member)]

/-- Registries that agree on the root, and on what it leads to, give one document. -/
theorem tree_eq (inside : V root) :
    (SchemaSource.mk catalog first root).tree = (SchemaSource.mk catalog second root).tree := by
  obtain ⟨steps, references⟩ := agreement.rootSteps_eq inside
  have defines := agreement.defines_outline inside
  have same : (SchemaSource.mk catalog first root).outline
      = (SchemaSource.mk catalog second root).outline := by
    unfold outline
    rw [← steps]
    exact (agreement.extendOutline_eq (fun _ member => absurd member List.not_mem_nil)
      references).1
  unfold tree
  rw [← same]
  split
  next outline found =>
    rw [found] at defines
    rw [agreement.document_eq defines inside]
  next => rfl

end Agreement

end ModelSchema.SchemaSource
