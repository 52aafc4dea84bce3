import ModelSchema.Proofs.Agreement.Exclusion
import ModelSchema.Proofs.Agreement.Readable

/-!
What stands beside a reference.

Keywords beside a reference have no effect. The node of an annotation has a reference and nothing else,
or none: limits come around a reference. But a property adds its texts and its mark to the node of its
annotation also when this is a reference.

* `KeepsAlone`: whether nothing stands beside the references in a schema.
* `keepsAlone_form`: so it is in the node of an annotation.
* `SchemaSource.HasProperty`: the properties whose nodes stand in a document.
* `SchemaSource.reference_alone`: nothing stands beside a reference in a document but the texts and the
  mark of a property.
-/

namespace ModelSchema

/-- Whether a node has nothing beside its reference, if it has one. -/
def Node.IsAlone (node : Node) : Prop :=
  ∀ target, node.get? "$ref" = some target → node = single "$ref" target

/-- Whether nothing stands beside the references in a schema. -/
def KeepsAlone (schema : Value) : Prop := ∀ node : Node, Contains schema (.dict node) → node.IsAlone

variable {node : Node} {schema : Value}

theorem contains_iff {part : Value} :
    Contains (.dict node) part
      ↔ part = .dict node ∨ ∃ inner ∈ node.innerSchemas, Contains inner part := by
  constructor
  · intro contains
    cases contains with
    | whole => exact .inl rfl
    | inner member inside => exact .inr ⟨_, member, inside⟩
  · rintro (rfl | ⟨inner, member, inside⟩)
    · exact .whole _
    · exact .inner member inside

theorem Node.isAlone_of_none (noReference : node.get? "$ref" = none) : node.IsAlone := by
  intro target found
  rw [noReference] at found
  cases found

theorem keepsAlone_dict (alone : node.IsAlone)
    (each : ∀ inner ∈ node.innerSchemas, KeepsAlone inner) : KeepsAlone (.dict node) := by
  intro part contains
  rcases contains_iff.mp contains with same | ⟨inner, member, inside⟩
  · cases same
    exact alone
  · exact each inner member part inside

/-- Where nothing refers, nothing stands beside a reference. -/
theorem keepsAlone_of_not_refers (nothing : ∀ reference, ¬ Refers schema reference) :
    KeepsAlone schema :=
  fun _ contains target found => absurd (contains.refers (.here found)) (nothing target)

/-! ### Annotations -/

theorem keepsAlone_reference {target : Value} : KeepsAlone (.dict (Node.single "$ref" target)) := by
  refine keepsAlone_dict (fun other found => ?_) ?_
  · rw [Node.get?_single, if_pos rfl] at found
    rw [Option.some.inj found]
  · rw [innerSchemas_reference]
    exact fun _ member => absurd member List.not_mem_nil

/-- Lists of schemas have no reference of their own. -/
theorem keepsAlone_list {keyword : String} (isList : keyword ∈ Dialect.draft7.listKeywords)
    {nodes : List Node} (each : ∀ node ∈ nodes, KeepsAlone (.dict node)) :
    KeepsAlone (.dict (Node.single keyword (.list (nodes.map .dict)))) := by
  have differs : keyword ≠ "$ref" := by
    rintro rfl
    simp [Dialect.listKeywords] at isList
  refine keepsAlone_dict (Node.isAlone_of_none ?_) ?_
  · rw [Node.get?_single, if_neg differs]
  · rw [innerSchemas_single isList]
    exact List.forall_mem_map.mpr each

theorem keepsAlone_limited {limits : Limits} (alone : KeepsAlone (.dict node)) :
    KeepsAlone (.dict (node.limited limits)) := by
  have inside : ∀ inner ∈ node.innerSchemas, KeepsAlone inner :=
    fun _ member part contains => alone part (.inner member contains)
  unfold Node.limited
  split
  next wrapped =>
    have listed : KeepsAlone (.dict (Node.single "allOf" (.list ([node].map .dict)))) :=
      keepsAlone_list (by decide) fun _ member => List.mem_singleton.mp member ▸ alone
    refine keepsAlone_dict (Node.isAlone_of_none ?_) ?_
    · rw [get?_withLimits List.mem_cons_self, Node.get?_single, if_neg (by decide)]
    · rw [innerSchemas_withLimits]
      exact fun _ member part contains => listed part (.inner member contains)
  next bare =>
    -- either there are no limits, or there is no reference that they could stand beside
    cases limits with
    | nil => exact alone
    | cons limit rest =>
      refine keepsAlone_dict (Node.isAlone_of_none ?_) ?_
      · rw [get?_withLimits List.mem_cons_self]
        cases found : node.get? "$ref" with
        | none => rfl
        | some target => simp [Node.has, found] at bare
      · rw [innerSchemas_withLimits]
        exact inside

theorem keepsAlone_union {options : List Node} {nullable : Bool}
    (each : ∀ node ∈ options, KeepsAlone (.dict node)) :
    KeepsAlone (.dict (unionNode options nullable)) := by
  obtain ⟨inner, made, ofInner⟩ : ∃ inner : Node,
      unionNode options nullable
        = (if nullable then Node.single "oneOf" (.list ([notIncluded, inner].map .dict)) else inner)
      ∧ KeepsAlone (.dict inner) := by
    refine ⟨_, rfl, ?_⟩
    split
    · exact each _ List.mem_cons_self
    · exact keepsAlone_list (by decide) each
  rw [made]
  split
  · refine keepsAlone_list (by decide) fun node member => ?_
    rcases List.mem_pair.mp member with rfl | rfl
    · exact keepsAlone_of_not_refers fun _ => not_refers_notIncluded
    · exact ofInner
  · exact ofInner

namespace SchemaSource

variable {source : SchemaSource} {outline : Outline} {names : ClassRef → String}
  {owner c : ClassRef} {p : Property} {props : List Property}

theorem keepsAlone_branches {classes : List ClassRef} :
    KeepsAlone (.dict (branchesNode (classes.map fun s => definitionReference (names s)))) := by
  refine keepsAlone_list (by decide) fun node member => ?_
  obtain ⟨s, -, rfl⟩ := List.mem_map.mp member
  exact keepsAlone_reference

theorem keepsAlone_object (c : ClassRef) : KeepsAlone (.dict (source.objectNode names c)) := by
  unfold objectNode
  split
  · split <;> exact keepsAlone_reference
  · exact keepsAlone_branches

theorem keepsAlone_leaf (c : ClassRef) : KeepsAlone (.dict (source.leafNode names owner c)) := by
  unfold leafNode
  dsimp only
  split
  · exact keepsAlone_reference
  · split
    · exact keepsAlone_of_not_refers fun _ => not_refers_leaf
    · exact keepsAlone_of_not_refers fun _ => not_refers_empty

theorem keepsAlone_enumeration {values : List Value} {limits : Limits} :
    KeepsAlone (.dict ((enumerationNode values).limited limits)) :=
  keepsAlone_limited (keepsAlone_of_not_refers fun _ => not_refers_enumeration)

mutual

/-- The node of an annotation has nothing beside its references. -/
theorem keepsAlone_form :
    ∀ (form : Form) (limits : Limits), KeepsAlone (.dict (source.formNode names owner limits form))
  | .of _ _ shape, _ => keepsAlone_shape shape _

theorem keepsAlone_shape :
    ∀ (shape : Shape) (limits : Limits),
      KeepsAlone (.dict (source.shapeNode names owner limits shape))
  | .union options _, limits => keepsAlone_union (keepsAlone_forms options limits)
  | .any, _ => keepsAlone_limited (keepsAlone_of_not_refers fun _ => not_refers_empty)
  | .null, _ => by
    refine keepsAlone_limited (keepsAlone_of_not_refers fun _ => not_refers_of_plain ?_)
    exact fun _ member => ⟨"type", congrArg Prod.fst (List.mem_singleton.mp member), by decide⟩
  | .leaf c, _ | .enumeration (some c) [], _ => keepsAlone_limited (keepsAlone_leaf c)
  | .enumeration none [], _ | .enumeration none (_ :: _), _
  | .enumeration (some _) (_ :: _), _ => keepsAlone_enumeration
  | .object c _, _ => keepsAlone_limited (keepsAlone_object c)
  | .array element unique, _ => by
    refine keepsAlone_limited (keepsAlone_dict (Node.isAlone_of_none ?_) ?_)
    · cases unique <;> simp [arrayNode]
    rw [innerSchemas_array]
    exact fun _ member => List.mem_singleton.mp member ▸ keepsAlone_form element []
  | .fixedArray elements, _ => by
    refine keepsAlone_limited (keepsAlone_dict (Node.isAlone_of_none (by simp [fixedArrayNode])) ?_)
    rw [innerSchemas_fixedArray]
    exact List.forall_mem_map.mpr (keepsAlone_forms elements [])
  | .map _ value, _ => by
    refine keepsAlone_limited (keepsAlone_dict (Node.isAlone_of_none (by simp [mapNode])) ?_)
    rw [innerSchemas_map]
    exact fun _ member => List.mem_singleton.mp member ▸ keepsAlone_form value []
  | .unsupported _, _ => keepsAlone_of_not_refers fun _ => not_refers_empty

theorem keepsAlone_forms :
    ∀ (forms : List Form) (limits : Limits),
      ∀ node ∈ source.formNodes names owner limits forms, KeepsAlone (.dict node)
  | [], _ => fun _ member => absurd member List.not_mem_nil
  | form :: rest, limits => by
    intro node member
    rcases List.mem_cons.mp member with rfl | later
    · exact keepsAlone_form form limits
    · exact keepsAlone_forms rest limits node later

end

/-! ### Properties -/

/-- The texts that a property has before the node of its annotation. -/
def propertyTexts (p : Property) : Node :=
  textKeyword "title" p.title ++ textKeyword "description" p.description

/-- The mark behind the node of the annotation, where a property cannot be set. -/
def propertyMark (p : Property) : Node :=
  if p.readOnly then Node.single "readOnly" (.bool true) else []

/-- What a property refers to, if the node of its annotation is a reference. -/
def propertyTarget? (source : SchemaSource) (names : ClassRef → String) (owner : ClassRef)
    (p : Property) : Option Value :=
  (source.formNode names owner p.limits (source.catalog.table.form p.annotation)).get? "$ref"

theorem get?_propertyTexts {keyword : String} (notTitle : "title" ≠ keyword)
    (notDescription : "description" ≠ keyword) : (propertyTexts p).get? keyword = none := by
  unfold propertyTexts
  rw [Node.get?_append, get?_textKeyword notTitle, get?_textKeyword notDescription]
  rfl

theorem get?_propertyNode_reference (plain : p.extra = none) :
    (source.propertyNode names owner p).get? "$ref" = source.propertyTarget? names owner p :=
  get?_propertyNode plain (by decide) (by decide) (by decide)

/-- A property that is a reference has its texts and its mark beside it. -/
theorem propertyNode_of_reference (plain : p.extra = none) {target : Value}
    (found : source.propertyTarget? names owner p = some target) :
    source.propertyNode names owner p
      = propertyTexts p ++ Node.single "$ref" target ++ propertyMark p := by
  have isReference : source.formNode names owner p.limits (source.catalog.table.form p.annotation)
      = Node.single "$ref" target := keepsAlone_form _ _ _ (.whole _) target found
  have updated : Value.assocUpdate (propertyTexts p) (Node.single "$ref" target)
      = propertyTexts p ++ Node.single "$ref" target := by
    refine Node.update_eq_append isRecord_single fun keyword there => ?_
    rw [Node.get?_single] at there
    split at there
    next same =>
      subst same
      exact get?_propertyTexts (by decide) (by decide)
    next => cases there
  have unmarked : (propertyTexts p ++ Node.single "$ref" target).get? "readOnly" = none := by
    rw [Node.get?_append, get?_propertyTexts (by decide) (by decide), Node.get?_single,
      if_neg (by decide), Option.or_none]
  unfold propertyNode propertyMark
  rw [plain]
  dsimp only
  rw [isReference]
  split
  · exact (congrArg (Node.set · "readOnly" (.bool true)) updated).trans (Node.set_eq_append unmarked)
  · exact updated.trans (List.append_nil _).symm

/-- A property puts nothing else beside a reference. -/
theorem alone_or_property (plain : p.extra = none)
    (contains : Contains (.dict (source.propertyNode names owner p)) (.dict node)) :
    node.IsAlone ∨ node = source.propertyNode names owner p := by
  have inner : (source.propertyNode names owner p).innerSchemas
      = (source.formNode names owner p.limits
          (source.catalog.table.form p.annotation)).innerSchemas := by
    refine Node.innerSchemas_congr fun keyword member => ?_
    exact get?_propertyNode plain (ne_of_schemaKeyword _ member (by decide))
      (ne_of_schemaKeyword _ member (by decide)) (ne_of_schemaKeyword _ member (by decide))
  rcases contains_iff.mp contains with same | ⟨schema, member, inside⟩
  · exact .inr (Value.dict.inj same)
  · rw [inner] at member
    exact .inl (keepsAlone_form _ _ _ (.inner member inside))

/-! ### Documents -/

/-- Whether a property stands in the body of a class: under some key, none comes after it. -/
def StandsIn (source : SchemaSource) (c : ClassRef) (p : Property) : Prop :=
  ∃ props key, source.catalog.table.properties c = .ok props
    ∧ standing? (source.bodyProperties c props) key = some p

/-- Whether the node of a property stands in a document: in the body of a class that is written. -/
structure HasProperty (source : SchemaSource) (outline : Outline) (c : ClassRef) (p : Property) :
    Prop where
  written : source.IsWritten outline c
  stands : source.StandsIn c p

theorem StandsIn.plain (fragments : source.catalog.table.HasNoFragments)
    (stands : source.StandsIn c p) : p.extra = none := by
  obtain ⟨props, key, found, stands⟩ := stands
  exact fragments.property found (mem_of_mem_bodyProperties (mem_of_standing? stands).1)

/-- The nodes in a body are those of its discriminator and of the properties that stand there. -/
theorem mem_propertyNodes (found : source.catalog.table.properties c = .ok props) :
    schema ∈ (source.propertyNodes names c props).map (·.2)
      ↔ ((source.discriminator? c).isSome = true
          ∧ schema = .dict (discriminatorNode (source.catalog.typeName c)))
        ∨ ∃ p, source.StandsIn c p ∧ schema = .dict (source.propertyNode names c p) := by
  have isEntry : schema ∈ (source.propertyNodes names c props).map (·.2)
      ↔ ∃ key, Node.get? (source.propertyNodes names c props) key = some schema := by
    obtain ⟨fields, nodup, same⟩ : (source.propertyNodes names c props).IsRecord :=
      isRecord_propertyNodes
    rw [same]
    constructor
    · intro member
      obtain ⟨entry, inside, rfl⟩ := List.mem_map.mp member
      obtain ⟨field, isField, rfl⟩ := List.mem_map.mp inside
      exact ⟨field.1, Node.get?_ofFields_of_mem nodup isField⟩
    · rintro ⟨key, at?⟩
      have isField := Node.mem_of_get?_ofFields at?
      exact List.mem_map.mpr ⟨_, List.mem_map_of_mem isField, rfl⟩
  rw [isEntry]
  constructor
  · rintro ⟨key, at?⟩
    rw [get?_propertyNodes] at at?
    split at at?
    next written =>
      rw [written]
      exact .inl ⟨rfl, (Option.some.inj at?).symm⟩
    next =>
      obtain ⟨p, stands, rfl⟩ := Option.map_eq_some_iff.mp at?
      exact .inr ⟨p, ⟨props, key, found, stands⟩, rfl⟩
  · rintro (⟨written, rfl⟩ | ⟨p, ⟨_, key, again, stands⟩, rfl⟩)
    · obtain ⟨d, written⟩ := Option.isSome_iff_exists.mp written
      exact ⟨d, by rw [get?_propertyNodes, if_pos written]⟩
    · cases found.symm.trans again
      have apart : ¬ source.discriminator? c = some key := by
        intro written
        rw [standing?_discriminator written] at stands
        cases stands
      exact ⟨key, by rw [get?_propertyNodes, if_neg apart, stands, Option.map_some]⟩

/-- Beside the references in a body stands nothing but what its properties put there. -/
theorem alone_or_standing (fragments : source.catalog.table.HasNoFragments)
    (found : source.catalog.table.properties c = .ok props)
    (contains : Contains (.dict (source.bodyNode names c props)) (.dict node)) :
    node.IsAlone ∨ ∃ p, source.StandsIn c p ∧ node = source.propertyNode names c p := by
  rcases contains_iff.mp contains with same | ⟨schema, member, inside⟩
  · cases same
    exact .inl (Node.isAlone_of_none (noReference_body (fragments.config c)))
  · rcases (mem_innerSchemas_body (fragments.config c)).mp member with rfl | member
    · cases inside
    · rcases (mem_propertyNodes found).mp member with ⟨-, rfl⟩ | ⟨p, stands, rfl⟩
      · exact .inl (keepsAlone_of_not_refers (fun _ => not_refers_discriminator) _ inside)
      · exact (alone_or_property (stands.plain fragments) inside).imp_right fun same =>
          ⟨p, stands, same⟩

/-- A root that is a choice has nothing beside its references. -/
theorem keepsAlone_choice {title : Value} {classes : List ClassRef} :
    KeepsAlone (.dict (Node.single "title" title
      ++ branchesNode (classes.map fun s => definitionReference (names s)))) := by
  have kept : ∀ keyword, "title" ≠ keyword → ∀ node : Node,
      (Node.single "title" title ++ node).get? keyword = node.get? keyword := by
    intro keyword differs node
    rw [Node.get?_append, Node.get?_single, if_neg differs, Option.none_or]
  refine keepsAlone_dict (Node.isAlone_of_none ?_) fun schema member part inside => ?_
  · rw [kept _ (by decide), branchesNode, Node.get?_single, if_neg (by decide)]
  · rw [Node.innerSchemas_congr fun keyword isKeyword =>
      kept keyword (ne_of_schemaKeyword _ isKeyword (by decide)) _] at member
    exact keepsAlone_branches part (.inner member inside)

/-- Beside the references in a document stands nothing but what its properties put there. -/
theorem alone_or_hasProperty (fragments : source.catalog.table.HasNoFragments)
    (outlined : source.Outlined outline [])
    (contains : Contains (.dict (source.document outline)) (.dict node)) :
    node.IsAlone ∨ ∃ c p, source.HasProperty outline c p
      ∧ node = source.propertyNode outline.nameOf c p := by
  rcases contains_iff.mp contains with same | ⟨schema, member, inside⟩
  · cases same
    exact .inl (Node.isAlone_of_none (noReference_document fragments))
  · rcases (mem_innerSchemas_document fragments).mp member with atRoot | ⟨d, isDefinition, rfl⟩
    · have inRoot : Contains (.dict (source.rootNode outline.nameOf)) (.dict node) :=
        .inner atRoot inside
      unfold rootNode at inRoot
      split at inRoot
      next noSubTypes =>
        obtain ⟨props, found⟩ := outlined.exists_properties (mem_allSteps_of_root noSubTypes)
        unfold classBody at inRoot
        rw [found] at inRoot
        exact (alone_or_standing fragments found inRoot).imp_right fun ⟨p, stands, same⟩ =>
          ⟨_, p, ⟨.inl ⟨rfl, noSubTypes⟩, stands⟩, same⟩
      next => exact .inl (keepsAlone_choice _ inRoot)
    · obtain ⟨label, requested⟩ := outlined.requested d isDefinition
      unfold definitionNode at inside
      cases kind : d.kind with
      | model =>
        obtain ⟨props, found⟩ :=
          outlined.exists_properties (mem_allSteps_of_body isDefinition kind)
        rw [kind] at inside
        dsimp only at inside
        unfold classBody at inside
        rw [found] at inside
        exact (alone_or_standing fragments found inside).imp_right fun ⟨p, stands, same⟩ =>
          ⟨_, p, ⟨.inr ⟨d, isDefinition, rfl, kind⟩, stands⟩, same⟩
      | fixed schema =>
        rw [kind] at inside requested
        obtain ⟨schema, same, found⟩ := (origin_of_reference requested).resolve_left nofun
        cases same
        exact .inl (keepsAlone_of_not_refers (fun _ => not_refers_objectFormat found) _ inside)

/-- A property that stands in a document does so with its node. -/
theorem HasProperty.contains (has : source.HasProperty outline c p)
    (fragments : source.catalog.table.HasNoFragments) :
    Contains (.dict (source.document outline))
      (.dict (source.propertyNode outline.nameOf c p)) := by
  obtain ⟨props, key, found, stands⟩ := has.stands
  have inBody : .dict (source.propertyNode outline.nameOf c p)
      ∈ (source.classBody outline.nameOf c).innerSchemas := by
    unfold classBody
    rw [found]
    exact (mem_innerSchemas_body (fragments.config c)).mpr
      (.inr ((mem_propertyNodes found).mpr (.inr ⟨p, has.stands, rfl⟩)))
  rcases has.written with ⟨rfl, noSubTypes⟩ | ⟨d, isDefinition, rfl, kind⟩
  · refine .inner ((mem_innerSchemas_document fragments).mpr (.inl ?_)) (.whole _)
    unfold rootNode
    rw [noSubTypes]
    exact inBody
  · refine .inner ((mem_innerSchemas_document fragments).mpr (.inr ⟨d, isDefinition, rfl⟩)) ?_
    unfold definitionNode
    rw [kind]
    exact .inner inBody (.whole _)

/-- Where nothing stands beside a reference, a property that is one has neither texts nor a mark. -/
theorem HasProperty.bare (has : source.HasProperty outline c p)
    (fragments : source.catalog.table.HasNoFragments)
    (isReference : (source.propertyTarget? outline.nameOf c p).isSome = true)
    (alone : KeepsAlone (.dict (source.document outline))) :
    propertyTexts p = [] ∧ propertyMark p = [] := by
  obtain ⟨target, found⟩ := Option.isSome_iff_exists.mp isReference
  have plain := has.stands.plain fragments
  have isWhole := alone _ (has.contains fragments) target
    ((get?_propertyNode_reference plain).trans found)
  rw [propertyNode_of_reference plain found] at isWhole
  have length := congrArg List.length isWhole
  simp only [List.length_append, Node.single, List.length_singleton] at length
  exact ⟨List.length_eq_zero_iff.mp (by omega), List.length_eq_zero_iff.mp (by omega)⟩

/-! ### Main result -/

/-- In a document without injected fragments, a reference has nothing beside it, or it is that of a
property, and what is beside it are the texts of the property and its mark. So nothing stands beside
any reference if and only if no property that is a reference has a title, a description or a mark. -/
theorem reference_alone (fragments : source.catalog.table.HasNoFragments) {notices : List Notice}
    {tree : Value} (made : source.tree = (notices, .ok tree)) :
    (∀ (node : Node) (target : Value), Contains tree (.dict node) → node.get? "$ref" = some target →
      node = Node.single "$ref" target
        ∨ ∃ c p, source.HasProperty source.outline.1 c p
          ∧ node = propertyTexts p ++ Node.single "$ref" target ++ propertyMark p)
    ∧ (KeepsAlone tree ↔ ∀ c p, source.HasProperty source.outline.1 c p →
        (source.propertyTarget? source.outline.1.nameOf c p).isSome = true →
          propertyTexts p = [] ∧ propertyMark p = []) := by
  obtain ⟨document, rfl⟩ : ∃ document : Node, tree = .dict document := by
    unfold SchemaSource.tree at made
    split at made
    · cases made
      exact ⟨_, rfl⟩
    · cases made
  obtain ⟨outlined, rfl⟩ := outlined_of_tree made
  have beside : ∀ (node : Node) (target : Value),
      Contains (.dict (source.document source.outline.1)) (.dict node) →
      node.get? "$ref" = some target → node = Node.single "$ref" target
        ∨ ∃ c p, source.HasProperty source.outline.1 c p
          ∧ source.propertyTarget? source.outline.1.nameOf c p = some target
          ∧ node = propertyTexts p ++ Node.single "$ref" target ++ propertyMark p := by
    intro node target contains found
    rcases alone_or_hasProperty fragments outlined contains with alone | ⟨c, p, has, rfl⟩
    · exact .inl (alone target found)
    · have plain := has.stands.plain fragments
      rw [get?_propertyNode_reference plain] at found
      exact .inr ⟨c, p, has, found, propertyNode_of_reference plain found⟩
  refine ⟨fun node target contains found => ?_,
    fun alone c p has isReference => has.bare fragments isReference alone,
    fun bare node contains target found => ?_⟩
  · exact (beside node target contains found).imp_right fun ⟨c, p, has, _, same⟩ => ⟨c, p, has, same⟩
  · rcases beside node target contains found with alone | ⟨c, p, has, isReference, same⟩
    · exact alone
    · obtain ⟨noTexts, noMark⟩ := bare c p has (isReference ▸ rfl)
      rw [same, noTexts, noMark]
      rfl

end SchemaSource

/-! ### Examples -/

section

open Example

/-- A parcel, which refers to its sender. -/
def parcelSource : SchemaSource := ⟨parcels, [], parcel⟩

theorem hasNoFragments_parcels : parcels.table.HasNoFragments :=
  ClassTable.hasNoFragments_of_declared (by decide)

theorem tree_parcel :
    parcelSource.tree = (parcelSource.outline.1.notices,
      .ok (.dict (parcelSource.document parcelSource.outline.1))) :=
  SchemaSource.tree_of_outline (by cbv)

/-- The properties of senders and parcels have no texts, but for one title. -/
theorem texts_parcels {c : ClassRef} {p : Property} (stands : parcelSource.StandsIn c p) :
    SchemaSource.propertyMark p = []
      ∧ (SchemaSource.propertyTexts p = []
        ∨ SchemaSource.propertyTexts p = Node.single "title" (.str "Sent by")) := by
  obtain ⟨props, key, found, stands⟩ := stands
  have member := SchemaSource.mem_of_mem_bodyProperties (SchemaSource.mem_of_standing? stands).1
  match c with
  | .declared 0 =>
    cases found
    cases List.mem_singleton.mp member
    exact ⟨rfl, .inl rfl⟩
  | .declared 1 =>
    cases found
    cases List.mem_singleton.mp member
    exact ⟨rfl, .inr rfl⟩
  | .declared (n + 2) => cases found
  | .basic b =>
    cases b
    all_goals cases found
    all_goals exact absurd member List.not_mem_nil

/-- The only thing beside a reference in the schema of a parcel is the title of its sender. -/
theorem reference_alone_parcel :
    ∃ notices tree, parcelSource.tree = (notices, .ok tree)
      ∧ ∀ (node : Node) (target : Value), Contains tree (.dict node) →
        node.get? "$ref" = some target → node = Node.single "$ref" target
          ∨ node = Node.single "title" (.str "Sent by") ++ Node.single "$ref" target := by
  refine ⟨_, _, tree_parcel, fun node target contains found => ?_⟩
  have beside := (SchemaSource.reference_alone hasNoFragments_parcels tree_parcel).1
  rcases beside node target contains found with alone | ⟨c, p, has, rfl⟩
  · exact .inl alone
  · obtain ⟨noMark, noTexts | title⟩ := texts_parcels has.stands
    · rw [noTexts, noMark]
      exact .inl rfl
    · rw [title, noMark]
      exact .inr rfl

/-- The title that a parcel gives to its sender stands beside the reference to senders. -/
theorem not_reference_alone_parcel :
    ¬ ∀ (source : SchemaSource) (notices : List Notice) (tree : Value),
      source.catalog.table.HasNoFragments → source.tree = (notices, .ok tree) → KeepsAlone tree := by
  intro alone
  obtain ⟨p, found, stands, titled, isReference⟩ : ∃ p,
      parcels.table.properties parcel = .ok [p]
        ∧ SchemaSource.standing? (parcelSource.bodyProperties parcel [p]) "sender" = some p
        ∧ SchemaSource.propertyTexts p ≠ []
        ∧ (parcelSource.propertyTarget? parcelSource.outline.1.nameOf parcel p).isSome = true :=
    ⟨_, rfl, by cbv, List.cons_ne_nil _ _, by cbv⟩
  have has : parcelSource.HasProperty parcelSource.outline.1 parcel p :=
    ⟨.inl ⟨rfl, by cbv⟩, [p], "sender", found, stands⟩
  have keeps := alone _ _ _ hasNoFragments_parcels tree_parcel
  exact titled (has.bare hasNoFragments_parcels isReference keeps).1

end

end ModelSchema
