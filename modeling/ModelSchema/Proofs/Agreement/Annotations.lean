import ModelSchema.Proofs.Agreement.Typing
import ModelSchema.Proofs.Class.Hierarchy
import ModelSchema.Proofs.Shape
import ModelSchema.Proofs.Validation.Nodes

/-!
The nodes of annotations that are built from scalars and models.

* `Ty.formAt`, `SchemaSource.annotationNode`: the form of an annotation, and its node without limits.
* `annotationNode_object`, `annotationNode_list` and their relatives: what the node is for each way to
  build an annotation.
* `usual_annotation`: it has no surprising keywords, and it ends.
-/

namespace ModelSchema

namespace Ty

theorem same_none_iff {t : Ty} : t.same .none = true ↔ t = .none := by
  cases t <;> simp [same]

variable {table : ClassTable} {atVariable : Nat → Shape} {argumentsOf : ClassRef → List Form}
  {ts : List Ty}

/-- The form of an annotation, when the shapes of type variables and the argument forms of generic
models are known. -/
def formAt (table : ClassTable) (atVariable : Nat → Shape) (argumentsOf : ClassRef → List Form)
    (t : Ty) : Form :=
  .ofTy t (t.shape table atVariable argumentsOf)

theorem forms_eq :
    Ty.forms table atVariable argumentsOf ts = ts.map (formAt table atVariable argumentsOf) := by
  induction ts with
  | nil => rfl
  | cons t rest ih => rw [Ty.forms, ih, List.map_cons, formAt]

theorem presentForms_eq :
    Ty.presentForms table atVariable argumentsOf ts
      = (ts.filter fun t => !t.same .none).map (formAt table atVariable argumentsOf) := by
  induction ts with
  | nil => rfl
  | cons t rest ih =>
    rw [Ty.presentForms, List.filter_cons]
    cases t.same .none with
    | true => exact ih
    | false => exact congrArg (List.cons _) ih

theorem notOpen_of_noEllipsis (noEllipsis : .ellipsis ∉ ts) (t : Ty) : ts ≠ [t, .ellipsis] :=
  fun same => noEllipsis (same ▸ List.mem_cons_of_mem _ List.mem_cons_self)

/-- An array with several types, or with one that is not repeated, has a form for each of its items. -/
theorem formAt_tuple (something : ts ≠ []) (notOpen : ∀ t, ts ≠ [t, .ellipsis]) :
    (Ty.tuple ts).formAt table atVariable argumentsOf
      = .of (.tuple ts) [] (.fixedArray (ts.map (formAt table atVariable argumentsOf))) := by
  have shape : (Ty.tuple ts).shape table atVariable argumentsOf
      = .fixedArray (Ty.forms table atVariable argumentsOf ts) := by
    unfold Ty.shape
    split
    · exact absurd rfl something
    · exact absurd rfl (notOpen _)
    · rfl
  unfold formAt
  rw [shape, forms_eq]
  rfl

theorem formAt_union {piped : Bool} :
    (Ty.union piped ts).formAt table atVariable argumentsOf
      = .of (.union piped ts) [] (.union ((ts.filter fun t => !t.same .none).map
        (formAt table atVariable argumentsOf)) (ts.any fun t => t.same .none)) := by
  unfold formAt
  rw [Ty.shape, presentForms_eq]
  rfl

theorem formAt_scalar {b : BasicClass} (isScalar : b.isScalar = true) :
    (Ty.cls (.basic b)).formAt table atVariable argumentsOf
      = .of (.cls (.basic b)) [] (.leaf (.basic b)) := by
  cases b <;> first
    | rfl
    | cases isScalar

theorem formAt_object {c : ClassRef} (isObject : table.IsObject c)
    (notEnumeration : table.isBasicSubclass c .enumeration = false) :
    (Ty.cls c).formAt table atVariable argumentsOf
      = .of (.cls c) [] (.object c (argumentsOf c)) := by
  unfold formAt
  rw [Ty.shape, ClassTable.classShape_of_isModel isObject.1 isObject.2 notEnumeration]
  rfl

end Ty

namespace SchemaSource

variable {source : SchemaSource} {names : ClassRef → String} {owner : ClassRef}
  {atVariable : Nat → Shape} {argumentsOf : ClassRef → List Form}

/-- The node of an annotation without limits, in the body of `owner`. -/
def annotationNode (source : SchemaSource) (names : ClassRef → String) (owner : ClassRef)
    (atVariable : Nat → Shape) (argumentsOf : ClassRef → List Form) (t : Ty) : Node :=
  source.formNode names owner [] (t.formAt source.catalog.table atVariable argumentsOf)

theorem annotationNode_list {t : Ty} :
    source.annotationNode names owner atVariable argumentsOf (.array .list t)
      = arrayNode (source.annotationNode names owner atVariable argumentsOf t) false := rfl

theorem annotationNode_sequence {t : Ty} :
    source.annotationNode names owner atVariable argumentsOf (.tuple [t, .ellipsis])
      = arrayNode (source.annotationNode names owner atVariable argumentsOf t) false := rfl

theorem annotationNode_map {t : Ty} :
    source.annotationNode names owner atVariable argumentsOf
      (.map .dict (.cls (.basic .str)) t)
      = mapNode (source.annotationNode names owner atVariable argumentsOf t) := rfl

theorem formNodes_eq {limits : Limits} {forms : List Form} :
    source.formNodes names owner limits forms = forms.map (source.formNode names owner limits) := by
  induction forms with
  | nil => rfl
  | cons form rest ih => rw [formNodes, ih, List.map_cons]

theorem annotationNode_union {piped : Bool} {ts : List Ty} :
    source.annotationNode names owner atVariable argumentsOf (.union piped ts)
      = unionNode ((ts.filter fun t => !t.same .none).map
        (source.annotationNode names owner atVariable argumentsOf)) (ts.any fun t => t.same .none) := by
  unfold annotationNode
  rw [Ty.formAt_union]
  change unionNode (source.formNodes names owner [] _) _ = _
  rw [formNodes_eq, List.map_map]
  rfl

theorem annotationNode_tuple {ts : List Ty} (something : ts ≠ [])
    (noEllipsis : .ellipsis ∉ ts) :
    source.annotationNode names owner atVariable argumentsOf (.tuple ts)
      = fixedArrayNode (ts.map (source.annotationNode names owner atVariable argumentsOf)) := by
  unfold annotationNode
  rw [Ty.formAt_tuple something (Ty.notOpen_of_noEllipsis noEllipsis)]
  change fixedArrayNode (source.formNodes names owner [] _) = _
  rw [formNodes_eq, List.map_map]
  rfl

/-! ### Classes -/

theorem annotationNode_scalar {b : BasicClass} (isScalar : b.isScalar = true) :
    source.annotationNode names owner atVariable argumentsOf (.cls (.basic b))
      = source.leafNode names owner (.basic b) := by
  unfold annotationNode
  rw [Ty.formAt_scalar isScalar]
  rfl

theorem annotationNode_object (wellFormed : source.catalog.WellFormed) {c : ClassRef}
    (isObject : source.catalog.table.IsObject c) :
    source.annotationNode names owner atVariable argumentsOf (.cls c) = source.objectNode names c := by
  unfold annotationNode
  rw [Ty.formAt_object isObject (wellFormed.notEnumeration isObject.1)]
  rfl

/-- The JSON type that the scalars of a basic class are written as, but for instants. -/
def scalarType (numericDurations : Bool) : BasicClass → JsonType
  | .bool => .boolean
  | .int => .integer
  | .float | .decimal => .number
  | .duration => if numericDurations then .number else .string
  | _ => .string

/-- An instant has a definition of its own, and all other scalars have a type. -/
theorem leafNode_scalar {b : BasicClass} (isScalar : b.isScalar = true) (notInstant : b ≠ .instant) :
    ∃ leaf : LeafFormat, source.leafNode names owner (.basic b) = leaf.node
      ∧ JsonType.ofName? .draft7 leaf.type
        = some (scalarType (source.catalog.table.numericDurations owner) b) := by
  unfold leafNode ClassTable.leafFormat?
  dsimp only
  generalize source.catalog.table.numericDurations owner = numericDurations
  cases b <;> cases numericDurations <;> first
    | exact ⟨_, rfl, rfl⟩
    | exact absurd rfl notInstant
    | cases isScalar

theorem leafNode_instant :
    source.leafNode names owner (.basic .instant) = definitionReference (names (.basic .instant)) :=
  rfl

/-! ### Usual nodes -/

theorem isUsual_reference {target : String} : (Node.single "$ref" (.str target)).IsUsual :=
  Node.isUsual_cons Node.isArgument_reference Node.isUsual_nil

theorem isUsual_branches {branches : List Node} : (branchesNode branches).IsUsual :=
  Node.isUsual_cons (Node.isArgument_of_ne (by decide) (by decide) (by decide)) Node.isUsual_nil

theorem isUsual_leaf {leaf : LeafFormat} {type : JsonType}
    (isType : JsonType.ofName? .draft7 leaf.type = some type) : Node.IsUsual leaf.node := by
  refine Node.isUsual_cons (Node.isArgument_type isType) ?_
  split
  · exact Node.isUsual_cons (Node.isArgument_of_ne (by decide) (by decide) (by decide))
      Node.isUsual_nil
  · exact Node.isUsual_nil

theorem isEndless_leaf {leaf : LeafFormat} : (Value.dict leaf.node).isEndless = false := by
  obtain ⟨type, format⟩ := leaf
  cases format <;> rfl

theorem isEndless_reference {target : String} :
    (Value.dict (Node.single "$ref" (.str target))).isEndless = false := rfl

theorem isInner_reference {target : String} : (Node.single "$ref" (.str target)).IsInner :=
  isUsual_reference.isInner isEndless_reference

theorem isEndless_branches {branches : List Node}
    (isInner : ∀ branch ∈ branches, branch.IsInner) :
    (Value.dict (branchesNode branches)).isEndless = false := by
  simp [branchesNode, Node.single, isEndless_nodes isInner]

/-- A class with subtypes is a choice between them. -/
theorem objectNode_of_ne_nil {c : ClassRef} (something : source.subTypes c ≠ []) :
    source.objectNode names c
      = branchesNode ((source.subTypes c).map fun d => definitionReference (names d)) := by
  unfold objectNode
  split
  next nothing => exact absurd nothing something
  next => rfl

theorem isUsual_object {c : ClassRef} : (source.objectNode names c).IsUsual := by
  unfold objectNode
  split
  · split
    · exact isUsual_reference
    · exact isUsual_reference
  · exact isUsual_branches

theorem isEndless_object {c : ClassRef} :
    (Value.dict (source.objectNode names c)).isEndless = false := by
  unfold objectNode
  split
  · split
    · rfl
    · rfl
  · refine isEndless_branches fun branch member => ?_
    obtain ⟨s, -, rfl⟩ := List.mem_map.mp member
    exact isInner_reference

theorem isInner_notIncluded : Node.IsInner notIncluded :=
  ⟨rfl, by simp [notIncluded], by simp [notIncluded]⟩

theorem isUsual_array {element : Node} : (arrayNode element false).IsUsual :=
  Node.isUsual_cons (Node.isArgument_type rfl)
    (Node.isUsual_cons (Node.isArgument_of_ne (by decide) (by decide) (by decide)) Node.isUsual_nil)

theorem isUsual_map {value : Node} : (mapNode value).IsUsual :=
  Node.isUsual_cons (Node.isArgument_type rfl)
    (Node.isUsual_cons (Node.isArgument_of_ne (by decide) (by decide) (by decide)) Node.isUsual_nil)

theorem isEndless_fixedArray {elements : List Node}
    (isInner : ∀ element ∈ elements, element.IsInner) :
    (Value.dict (fixedArrayNode elements)).isEndless = false := by
  simp [fixedArrayNode, isEndless_nodes isInner]

theorem isUsual_fixedArray {elements : List Node} : (fixedArrayNode elements).IsUsual := by
  refine Node.isUsual_cons (Node.isArgument_type rfl) ?_
  refine Node.isUsual_cons (Node.isArgument_of_ne (by decide) (by decide) (by decide)) ?_
  refine Node.isUsual_cons (Node.isArgument_of_ne (by decide) (by decide) (by decide)) ?_
  refine Node.isUsual_cons (Node.isArgument_of_ne (by decide) (by decide) (by decide)) ?_
  exact Node.isUsual_nil

/-! ### Unions -/

/-- The node of a union without nothing. -/
def alternativesNode : List Node → Node
  | [option] => option
  | options => Node.single "anyOf" (.list (options.map .dict))

theorem unionNode_eq {options : List Node} {nullable : Bool} :
    unionNode options nullable
      = if nullable then branchesNode [notIncluded, alternativesNode options]
        else alternativesNode options := by
  match options with
  | [] => rfl
  | [_] => rfl
  | _ :: _ :: _ => rfl

theorem isUsual_alternatives {options : List Node} (usual : ∀ option ∈ options, option.IsUsual) :
    (alternativesNode options).IsUsual := by
  unfold alternativesNode
  split
  · exact usual _ List.mem_cons_self
  · exact Node.isUsual_cons (Node.isArgument_of_ne (by decide) (by decide) (by decide))
      Node.isUsual_nil

theorem isInner_alternatives {options : List Node} (isInner : ∀ option ∈ options, option.IsInner) :
    (alternativesNode options).IsInner := by
  unfold alternativesNode
  split
  · exact isInner _ List.mem_cons_self
  · exact ⟨by simp [Node.single, isEndless_nodes isInner], by simp, by simp⟩

theorem isInner_nullable {inner : Node} (isInner : inner.IsInner) :
    ∀ branch ∈ [notIncluded, inner], branch.IsInner := by
  intro branch member
  rcases List.mem_cons.mp member with rfl | other
  · exact isInner_notIncluded
  · cases List.mem_singleton.mp other
    exact isInner

/-! ### All annotations -/

/-- The node of an annotation that is built from scalars and models is usual, and it ends. -/
theorem usual_annotation (wellFormed : source.catalog.WellFormed) {t : Ty}
    (built : t.BuiltFrom source.catalog.table.IsPart) :
    (source.annotationNode names owner atVariable argumentsOf t).IsUsual
      ∧ (Value.dict (source.annotationNode names owner atVariable argumentsOf t)).isEndless = false := by
  induction built with
  | @cls c isPart =>
    rcases isPart with ⟨b, rfl, isScalar⟩ | isObject
    · rw [annotationNode_scalar isScalar]
      by_cases isInstant : b = .instant
      · subst isInstant
        exact ⟨isUsual_reference, isEndless_reference⟩
      · obtain ⟨leaf, same, isType⟩ := leafNode_scalar isScalar isInstant
        rw [same]
        exact ⟨isUsual_leaf isType, isEndless_leaf⟩
    · rw [annotationNode_object wellFormed isObject]
      exact ⟨isUsual_object, isEndless_object⟩
  | list _ ih =>
    rw [annotationNode_list]
    exact ⟨isUsual_array, by simp [arrayNode, ih.2]⟩
  | sequence _ ih =>
    rw [annotationNode_sequence]
    exact ⟨isUsual_array, by simp [arrayNode, ih.2]⟩
  | map _ ih =>
    rw [annotationNode_map]
    exact ⟨isUsual_map, by simp [mapNode, ih.2]⟩
  | @tuple ts something built ih =>
    have noEllipsis : .ellipsis ∉ ts := fun member => by cases built _ member
    have isInner : ∀ inner ∈ ts.map (source.annotationNode names owner atVariable argumentsOf),
        inner.IsInner := by
      intro inner member
      obtain ⟨t, inside, rfl⟩ := List.mem_map.mp member
      exact (ih t inside).1.isInner (ih t inside).2
    rw [annotationNode_tuple something noEllipsis]
    exact ⟨isUsual_fixedArray, isEndless_fixedArray isInner⟩
  | @union piped ts _ built ih =>
    have both : ∀ option ∈ (ts.filter fun t => !t.same .none).map
        (source.annotationNode names owner atVariable argumentsOf),
        option.IsUsual ∧ (Value.dict option).isEndless = false := by
      intro option member
      obtain ⟨t, inside, rfl⟩ := List.mem_map.mp member
      obtain ⟨inside, present⟩ := List.mem_filter.mp inside
      exact ih t inside fun isNone => by simp [isNone, Ty.same] at present
    have usual := isUsual_alternatives fun option member => (both option member).1
    have isInner := isInner_alternatives fun option member =>
      (both option member).1.isInner (both option member).2
    rw [annotationNode_union, unionNode_eq]
    split
    · exact ⟨isUsual_branches, isEndless_branches (isInner_nullable isInner)⟩
    · exact ⟨usual, isInner.ends⟩

end SchemaSource

end ModelSchema
