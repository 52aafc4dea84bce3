import ModelSchema.Proofs.Agreement.Exclusion
import ModelSchema.Proofs.Agreement.Nullable

/-!
What the schemas of annotations say about null.

* `Form.isUnlimited`: annotations whose notes do not limit what is written.
* `SchemaSource.isInner_form`: their nodes are read where they are seen.
* `SchemaSource.nullAnswer?`: whether an annotation admits null, unless that is up to a fragment
  injected into a model.
* `SchemaSource.settles_null`: in a document that is the answer of its node.
-/

namespace ModelSchema

/-- What an enumerated value is written as is no container. -/
theorem ClassTable.isEndless_enumeratedValue (table : ClassTable) (value : Value) :
    (table.enumeratedValue value).isEndless = false := by
  cases value with
  | member _ _ _ value =>
    unfold enumeratedValue
    dsimp only
    split <;> rfl
  | _ => rfl

/-! ### Annotations without limits -/

mutual

/-- Whether no notes in an annotation limit what is written. -/
def Form.isUnlimited : Form → Bool
  | .of _ notes shape => (presentLimits notes).isEmpty && shape.isUnlimited

def Shape.isUnlimited : Shape → Bool
  | .array element _ => element.isUnlimited
  | .fixedArray elements => Form.allUnlimited elements
  | .map _ value => value.isUnlimited
  | .union options _ => Form.allUnlimited options
  | _ => true

def Form.allUnlimited : List Form → Bool
  | [] => true
  | form :: rest => form.isUnlimited && Form.allUnlimited rest

end

namespace SchemaSource

variable {source : SchemaSource} {names : ClassRef → String} {owner c : ClassRef}

theorem isInner_leafNode : (source.leafNode names owner c).IsInner := by
  unfold leafNode
  dsimp only
  split
  · exact isInner_reference
  split
  next leaf _ =>
    refine ⟨isEndless_leaf, ?_, ?_⟩ <;>
      obtain ⟨type, _ | format⟩ := leaf <;> simp [LeafFormat.node]
  · exact ⟨rfl, rfl, rfl⟩

theorem isInner_array {element : Node} {unique : Bool} (isInner : element.IsInner) :
    (arrayNode element unique).IsInner := by
  refine ⟨Validator.isEndless_array isInner, ?_, ?_⟩ <;>
    cases unique <;> simp [arrayNode, Node.single]

theorem isInner_union {options : List Node} {nullable : Bool}
    (isInner : ∀ option ∈ options, option.IsInner) : (unionNode options nullable).IsInner := by
  have inner := isInner_alternatives isInner
  rw [unionNode_eq]
  split
  · exact isUsual_branches.isInner (isEndless_branches (isInner_nullable inner))
  · exact inner

/-- Values that an annotation lists are no containers. -/
theorem ends_of_classified {table : ClassTable} {listed : Option ClassRef} {values : List Value}
    (classified : (Shape.enumeration listed values).Classified table) :
    ∀ value ∈ values, value.isEndless = false := by
  have each : ∀ {of : List Value}, values = of.map table.enumeratedValue →
      ∀ value ∈ values, value.isEndless = false := by
    rintro of rfl value member
    obtain ⟨original, -, rfl⟩ := List.mem_map.mp member
    exact table.isEndless_enumeratedValue original
  cases listed with
  | some c => exact each classified.2
  | none =>
    obtain ⟨literals, same⟩ := classified
    exact each same

mutual

/-- The node of an annotation without limits is read where it is seen. -/
theorem isInner_form : ∀ form : Form, form.Classified source.catalog.table →
    form.isUnlimited = true → (source.formNode names owner [] form).IsInner
  | .of _ notes shape, classified, unlimited => by
    obtain ⟨none, unlimited⟩ := (Bool.and_eq_true ..).mp unlimited
    rw [formNode, List.isEmpty_iff.mp none]
    exact isInner_shape shape classified unlimited

theorem isInner_shape : ∀ shape : Shape, shape.Classified source.catalog.table →
    shape.isUnlimited = true → (source.shapeNode names owner [] shape).IsInner
  | .any, _, _ | .unsupported _, _, _ => ⟨rfl, rfl, rfl⟩
  | .null, _, _ => ⟨rfl, by simp [shapeNode, Node.limited, withLimits],
      by simp [shapeNode, Node.limited, withLimits]⟩
  | .leaf _, _, _ | .enumeration (some _) [], _, _ => isInner_leafNode
  | .enumeration none values, classified, _ => isInner_enumeration (ends_of_classified classified)
  | .enumeration (some _) (_ :: _), classified, _ =>
    isInner_enumeration (ends_of_classified classified)
  | .object _ _, _, _ => isUsual_object.isInner isEndless_object
  | .array element _, classified, unlimited =>
    isInner_array (isInner_form element classified unlimited)
  | .fixedArray elements, classified, unlimited =>
    isUsual_fixedArray.isInner (isEndless_fixedArray (isInner_forms elements classified unlimited))
  | .map _ value, classified, unlimited =>
    isUsual_map.isInner (by simp [mapNode, (isInner_form value classified.2 unlimited).ends])
  | .union options _, classified, unlimited =>
    isInner_union (isInner_forms options classified unlimited)

theorem isInner_forms : ∀ forms : List Form, Form.AllClassified source.catalog.table forms →
    Form.allUnlimited forms = true →
      ∀ inner ∈ source.formNodes names owner [] forms, inner.IsInner
  | [], _, _, _, member => absurd member List.not_mem_nil
  | form :: rest, classified, unlimited, inner, member => by
    obtain ⟨here, later⟩ := (Bool.and_eq_true ..).mp unlimited
    rcases List.mem_cons.mp member with rfl | member
    · exact isInner_form form classified.1 here
    · exact isInner_forms rest classified.2 later inner member

end

/-! ### What is said about null -/

/-- Whether no fragment is injected into a class. -/
def isPlain (source : SchemaSource) (c : ClassRef) : Bool :=
  (source.catalog.table.config c).extra.join.isNone

/-- Whether a leaf in the body of `owner` admits null. -/
def leafNull? (source : SchemaSource) (owner c : ClassRef) : Option Bool :=
  let table := source.catalog.table
  if (table.objectFormat? c).isSome then if source.isPlain c then some false else none
  else some (table.leafFormat? (table.numericDurations owner) c).isNone

mutual

/-- Whether an annotation in the body of `owner` admits null, unless that is up to an injected
fragment. -/
def nullAnswer? (source : SchemaSource) (owner : ClassRef) : Form → Option Bool
  | .of _ _ shape => source.shapeNull? owner shape

def shapeNull? (source : SchemaSource) (owner : ClassRef) : Shape → Option Bool
  | .any | .null | .unsupported _ => some true
  | .leaf c | .enumeration (some c) [] => source.leafNull? owner c
  | .enumeration _ values => some (values.any fun value => value.same .null)
  | .object c _ => if (source.choices c).all source.isPlain then some false else none
  | .array _ _ | .fixedArray _ | .map _ _ => some false
  | .union options nullable => (source.anyNull? owner options).map fun any => nullable ^^ any

def anyNull? (source : SchemaSource) (owner : ClassRef) : List Form → Option Bool
  | [] => some false
  | form :: rest =>
    (source.nullAnswer? owner form).bind fun here =>
      (source.anyNull? owner rest).map fun later => here || later

end

/-- A leaf without a schema of its own has a type, and null is not of that type. -/
theorem settles_leaf_null {validator : Validator} (isDraft7 : validator.dialect = .draft7)
    {table : ClassTable} {numericDurations : Bool} {leaf : LeafFormat}
    (found : table.leafFormat? numericDurations c = some leaf) :
    Settles (validator.judged (.dict leaf.node) .null) false := by
  have typed : ∃ type, JsonType.ofName? .draft7 leaf.type = some type
      ∧ type.holds .draft7 .null = false := by
    unfold ClassTable.leafFormat? at found
    split at found
    · cases found
      exact ⟨.number, rfl, rfl⟩
    · obtain ⟨ancestor, -, found⟩ := List.exists_of_findSome?_eq_some found
      cases ancestor with
      | basic b =>
        cases b <;> first
          | cases found; exact ⟨_, rfl, rfl⟩
          | cases found
      | declared _ => cases found
  obtain ⟨type, isType, other⟩ := typed
  exact other ▸ Validator.settles_leaf isDraft7 isType

/-- An enumeration admits null where it lists it. -/
theorem settles_enumeration_null {validator : Validator} (isDraft7 : validator.dialect = .draft7)
    {values : List Value} (ends : ∀ value ∈ values, value.isEndless = false) :
    Settles (validator.judged (.dict (enumerationNode values)) .null)
      (values.any fun value => value.same .null) := by
  have alike : (values.any fun value => value.alike Assertion.listedLikeness .null)
      = values.any fun value => value.same .null := by
    refine congrArg values.any (funext fun value => ?_)
    rw [Bool.eq_iff_iff, Value.alike_null, Value.same_null]
  have typed : (values.any fun value => value.same .null) = true →
      hasCommonType values .null = true := by
    intro some
    obtain ⟨value, member, isNull⟩ := List.any_eq_true.mp some
    rw [Value.same_null.mp isNull] at member
    have noTest : ∀ {test : Value → Bool}, test .null = false → values.all test ≠ true :=
      fun rejects all => Bool.false_ne_true (rejects.symm.trans (List.all_eq_true.mp all _ member))
    unfold hasCommonType
    cases common : commonType? values with
    | none => rfl
    | some name =>
      rcases commonType?_eq_some common with ⟨-, all⟩ | ⟨-, all⟩ | ⟨-, all⟩ | ⟨-, all⟩ <;>
        exact absurd all (noTest rfl)
  have settles : Settles (validator.judged (.dict (enumerationNode values)) .null)
      (hasCommonType values .null && values.any fun value => value.same .null) :=
    alike ▸ Validator.settles_enumeration isDraft7 ends
  cases listed : values.any fun value => value.same .null with
  | false => rwa [listed, Bool.and_false] at settles
  | true => rwa [listed, typed listed] at settles

/-- Whether a validator reads the document that was made for a source. -/
structure IsReadBy (source : SchemaSource) (document : Node) (validator : Validator) : Prop where
  made : source.tree.2 = .ok (.dict document)
  ends : (Value.dict document).isEndless = false
  isIn : validator.IsIn document

variable {document : Node} {validator : Validator}

theorem IsReadBy.outlined (read : source.IsReadBy document validator) :
    source.Outlined source.outline.1 [] ∧ document = source.document source.outline.1 := by
  have made : source.tree = (source.tree.1, .ok (.dict document)) := Prod.ext rfl read.made
  exact outlined_of_tree made

section

variable (read : source.IsReadBy document validator)
include read

/-- The definition of a class without a fragment rejects null. -/
theorem settles_reference_null (has : source.outline.1.has c = true)
    (plain : source.isPlain c = true) :
    Settles (validator.judged (.dict (definitionReference (source.outline.1.nameOf c))) .null)
      false := by
  obtain ⟨outlined, rfl⟩ := read.outlined
  obtain ⟨definition, member, rfl⟩ := Outline.has_iff.mp has
  obtain ⟨label, requested⟩ := outlined.requested definition member
  have target : ∃ node : Node, source.definitionNode source.outline.1.nameOf definition = .dict node
      ∧ node.get? "$schema" = none ∧ node.get? "$id" = none
      ∧ ((Value.dict node).isEndless = false →
        Settles (validator.judged (.dict node) .null) false) := by
    rcases origin_of_reference requested with ⟨isModel, -⟩ | ⟨schema, isFixed, found⟩
    · obtain ⟨props, found⟩ := outlined.exists_properties (mem_allSteps_of_body member isModel)
      have plain := Option.isNone_iff_eq_none.mp plain
      refine ⟨source.bodyNode source.outline.1.nameOf definition.type props, ?_,
        get?_body plain (by decide), get?_body plain (by decide), fun ends => ?_⟩
      · unfold definitionNode classBody
        rw [isModel, found]
      · rw [bodyNode_eq plain] at ends ⊢
        rw [Value.isEndless_append] at ends
        obtain ⟨-, endsContent⟩ := Bool.or_eq_false_iff.mp ends
        rw [judged_definition read.isIn.isDraft7 endsContent]
        exact Validator.settles_closed_of_other read.isIn.isDraft7
          (Validator.isEndless_of_closedNode endsContent) rfl
    · cases eq_instantFormat found
      refine ⟨instantNode, ?_, Validator.get?_closedNode (by decide),
        Validator.get?_closedNode (by decide), fun _ => ?_⟩
      · unfold definitionNode
        rw [isFixed]
        rfl
      · exact Validator.settles_closed_of_other read.isIn.isDraft7 rfl rfl
  obtain ⟨node, whole, noDialect, noId, settles⟩ := target
  have isInner : node.IsInner :=
    ⟨whole ▸ isEndless_definition_of_mem outlined.names member read.ends, noDialect, noId⟩
  refine Validator.settles_reference read.isIn.isDraft7 isEndless_reference
    (Node.get?_single.trans (if_pos rfl)) ?_ (Validator.keeps_of_isInner read.isIn.isDraft7 isInner)
    (settles isInner.ends)
  rw [read.isIn.viewpoint]
  exact lookup_document outlined.names member outlined.types
    (isNameChar_of_outline rfl definition member) read.ends read.isIn.known whole noId

/-- So does the document itself, where it is the body of a class. -/
theorem settles_root_null (noSubTypes : source.subTypes source.root = [])
    (plain : source.isPlain source.root = true) :
    Settles (validator.judged (.dict rootReference) .null) false := by
  have plain := Option.isNone_iff_eq_none.mp plain
  obtain ⟨outlined, rfl⟩ := read.outlined
  have inside : ∀ step ∈ source.bodySteps source.root,
      step ∈ source.allSteps source.outline.1 := by
    intro step member
    refine List.mem_append_left _ ?_
    unfold rootSteps
    rwa [noSubTypes]
  obtain ⟨props, found⟩ := outlined.exists_properties inside
  have content : source.rootContent source.outline.1.nameOf props
      = source.contentNode source.outline.1.nameOf source.root props := by
    unfold rootContent
    rw [noSubTypes]
  have endsContent := read.ends
  rw [document_eq plain, rootNode_eq plain fun _ => found, content, Value.isEndless_append,
    Value.isEndless_append, Value.isEndless_append] at endsContent
  simp only [Bool.or_eq_false_iff] at endsContent
  refine Validator.settles_reference read.isIn.isDraft7 isEndless_reference
    (Node.get?_single.trans (if_pos rfl)) ?_ (keeps_document plain read.ends read.isIn.isDraft7) ?_
  · rw [read.isIn.viewpoint]
    exact lookup_root read.isIn.known
  · rw [judged_document plain read.ends read.isIn.isDraft7 fun _ => found, content]
    exact Validator.settles_closed_of_other read.isIn.isDraft7
      (Validator.isEndless_of_closedNode endsContent.1.2.2) rfl

/-- So does a model, when that holds for all classes that it stands for. -/
theorem settles_object_null (plain : (source.choices c).all source.isPlain = true)
    (defined : ∀ d label kind, .reference d label kind ∈ source.objectSteps c →
      source.outline.1.has d = true) :
    Settles (validator.judged (.dict (source.objectNode source.outline.1.nameOf c)) .null)
      false := by
  have plain := List.all_eq_true.mp plain
  by_cases something : source.subTypes c = []
  · have plainHere := plain c (choices_of_nil something ▸ List.mem_cons_self)
    unfold objectNode
    unfold objectSteps at defined
    rw [something] at defined ⊢
    dsimp only at defined ⊢
    split
    next isRoot =>
      subst isRoot
      exact settles_root_null read something plainHere
    next notRoot =>
      rw [if_neg notRoot] at defined
      exact settles_reference_null read (defined c _ _ List.mem_cons_self) plainHere
  · have steps : source.objectSteps c = (source.subTypes c).map source.modelReference := by
      unfold objectSteps
      split
      next nothing => exact absurd nothing something
      next => rfl
    rw [objectNode_of_ne_nil something]
    refine Validator.settles_branches_false read.isIn.isDraft7 (fun branch member => ?_)
      fun branch member => ?_
    · obtain ⟨d, -, rfl⟩ := List.mem_map.mp member
      exact isInner_reference
    · obtain ⟨d, inside, rfl⟩ := List.mem_map.mp member
      exact settles_reference_null read
        (defined d _ _ (steps ▸ List.mem_map_of_mem inside))
        (plain d (choices_of_ne_nil something ▸ inside))

theorem settles_leafNode_null {answer : Bool} (asked : source.leafNull? owner c = some answer)
    (defined : ∀ d label kind, .reference d label kind ∈ source.leafSteps owner c →
      source.outline.1.has d = true) :
    Settles (validator.judged (.dict (source.leafNode source.outline.1.nameOf owner c)) .null)
      answer := by
  unfold leafNull? at asked
  unfold leafSteps at defined
  unfold leafNode
  dsimp only at asked defined ⊢
  cases object : source.catalog.table.objectFormat? c with
  | some format =>
    rw [object] at asked defined
    rw [Option.isSome_some, if_pos rfl] at asked
    split at asked
    next plain =>
      cases asked
      exact settles_reference_null read (defined c _ _ List.mem_cons_self) plain
    next => cases asked
  | none =>
    rw [object, Option.isSome_none, if_neg Bool.false_ne_true] at asked
    dsimp only
    cases found : source.catalog.table.leafFormat?
        (source.catalog.table.numericDurations owner) c with
    | some leaf =>
      rw [found] at asked
      cases asked
      exact settles_leaf_null read.isIn.isDraft7 found
    | none =>
      rw [found] at asked
      cases asked
      exact Validator.settles_nil read.isIn.isDraft7

end

mutual

/-- In a document the node of an annotation says about null what the annotation does. -/
theorem settles_null (read : source.IsReadBy document validator) :
    ∀ form : Form, form.Classified source.catalog.table →
    form.isUnlimited = true →
    (∀ d label kind, .reference d label kind ∈ source.formSteps owner form →
      source.outline.1.has d = true) →
    ∀ {answer}, source.nullAnswer? owner form = some answer →
      Settles (validator.judged
        (.dict (source.formNode source.outline.1.nameOf owner [] form)) .null) answer
  | .of _ notes shape, classified, unlimited, defined, answer, asked => by
    obtain ⟨none, unlimited⟩ := (Bool.and_eq_true ..).mp unlimited
    rw [formNode, List.isEmpty_iff.mp none]
    rw [formSteps] at defined
    exact settles_shape_null read shape classified unlimited
      (fun d label kind member => defined d label kind (List.mem_append_right _ member)) asked

theorem settles_shape_null (read : source.IsReadBy document validator) :
    ∀ shape : Shape, shape.Classified source.catalog.table →
    shape.isUnlimited = true →
    (∀ d label kind, .reference d label kind ∈ source.shapeSteps owner shape →
      source.outline.1.has d = true) →
    ∀ {answer}, source.shapeNull? owner shape = some answer →
      Settles (validator.judged
        (.dict (source.shapeNode source.outline.1.nameOf owner [] shape)) .null) answer
  | .any, _, _, _, _, rfl | .unsupported _, _, _, _, _, rfl =>
    Validator.settles_nil read.isIn.isDraft7
  | .null, _, _, _, _, rfl =>
    Validator.settles_typeName read.isIn.isDraft7
      (show JsonType.ofName? .draft7 "null" = some .null from rfl)
  | .leaf c, _, _, defined, _, asked | .enumeration (some c) [], _, _, defined, _, asked =>
    settles_leafNode_null read asked defined
  | .enumeration none values, classified, _, _, _, rfl =>
    settles_enumeration_null read.isIn.isDraft7 (ends_of_classified classified)
  | .enumeration (some _) (_ :: _), classified, _, _, _, rfl =>
    settles_enumeration_null read.isIn.isDraft7 (ends_of_classified classified)
  | .object c _, _, _, defined, answer, asked => by
    rw [shapeNull?] at asked
    split at asked
    next plain =>
      cases asked
      exact settles_object_null read plain defined
    next => cases asked
  | .array element _, classified, unlimited, _, _, rfl =>
    Validator.settles_array_of_other read.isIn.isDraft7
      (isInner_form element classified unlimited) rfl
  | .fixedArray elements, classified, unlimited, _, _, rfl =>
    Validator.settles_fixedArray_of_other read.isIn.isDraft7
      (isInner_forms elements classified unlimited) rfl
  | .map _ value, classified, unlimited, _, _, rfl =>
    Validator.settles_map_of_other read.isIn.isDraft7
      (isInner_form value classified.2 unlimited) rfl
  | .union options nullable, classified, unlimited, defined, answer, asked => by
    rw [shapeNull?] at asked
    obtain ⟨any, askedAny, rfl⟩ := Option.map_eq_some_iff.mp asked
    obtain ⟨decides, same⟩ := settles_any_null read options classified unlimited defined askedAny
    have settles : Settles (validator.judged (.dict (source.shapeNode source.outline.1.nameOf
        owner [] (.union options nullable))) .null) ((nullable && true) ^^ any) :=
      same ▸ Validator.settles_union read.isIn.isDraft7
        (isInner_forms options classified unlimited) decides
    rwa [Bool.and_true] at settles

theorem settles_any_null (read : source.IsReadBy document validator) :
    ∀ forms : List Form, Form.AllClassified source.catalog.table forms →
    Form.allUnlimited forms = true →
    (∀ d label kind, .reference d label kind ∈ source.formsSteps owner forms →
      source.outline.1.has d = true) →
    ∀ {any}, source.anyNull? owner forms = some any →
      (∀ inner ∈ source.formNodes source.outline.1.nameOf owner [] forms,
        validator.Decides (.dict inner) .null)
      ∧ ((source.formNodes source.outline.1.nameOf owner [] forms).any fun inner =>
        validator.answer (.dict inner) .null) = any
  | [], _, _, _, _, rfl => ⟨fun _ member => absurd member List.not_mem_nil, rfl⟩
  | form :: rest, classified, unlimited, defined, any, asked => by
    obtain ⟨unlimitedHere, unlimitedLater⟩ := (Bool.and_eq_true ..).mp unlimited
    rw [anyNull?] at asked
    obtain ⟨here, askedHere, asked⟩ := Option.bind_eq_some_iff.mp asked
    obtain ⟨later, askedLater, rfl⟩ := Option.map_eq_some_iff.mp asked
    rw [formsSteps] at defined
    have settles := settles_null read form classified.1 unlimitedHere
      (fun d label kind member => defined d label kind (List.mem_append_left _ member)) askedHere
    obtain ⟨decides, same⟩ := settles_any_null read rest classified.2 unlimitedLater
      (fun d label kind member => defined d label kind (List.mem_append_right _ member)) askedLater
    rw [formNodes]
    refine ⟨fun inner member => ?_, ?_⟩
    · rcases List.mem_cons.mp member with rfl | member
      · exact ⟨here, settles⟩
      · exact decides inner member
    · rw [List.any_cons, Validator.answer_eq settles, same]

end

end SchemaSource

end ModelSchema
