import ModelSchema.Proofs.Agreement.Decision
import ModelSchema.Proofs.Agreement.Outlines
import ModelSchema.Proofs.Payload.Discriminator
import ModelSchema.Proofs.Schema.Closed
import ModelSchema.Proofs.Validation.Acceptance

/-!
The branches of a choice exclude one another.

A branch is a reference to the definition of a class. Where it accepts a payload, the payload looks
like one of the class, and the text under its discriminator tells the class from the others.

* `SchemaSource.IsChoice`: the choices between classes in a document; these are all of its choices
  between references (`exists_isChoice`).
* `SchemaSource.LooksLike`: what a payload of a class looks like.
* `looksLike_of_accepts`: a branch accepts only payloads that look like those of its class.
* `branches_exclude`: so no payload is accepted by two branches.
-/

namespace ModelSchema

/-! ### Payloads -/

/-- Whether a value is one of JSON. -/
inductive Value.IsJson : Value → Prop where
  | null : IsJson .null
  | bool (b : Bool) : IsJson (.bool b)
  | int (n : Int) : IsJson (.int n)
  | float (x : Binary64) : IsJson (.float x)
  | str (text : String) : IsJson (.str text)
  | array {items : List Value} : (∀ item ∈ items, IsJson item) → IsJson (.list items)
  | object {fields : List (String × Value)} :
      (∀ field ∈ fields, IsJson field.2) → IsJson (.dict (Node.ofFields fields))

theorem Value.IsJson.exists_fields {entries : Node} (isJson : (Value.dict entries).IsJson) :
    ∃ fields : List (String × Value), entries = Node.ofFields fields
      ∧ ∀ field ∈ fields, field.2.IsJson := by
  cases isJson with
  | object each => exact ⟨_, rfl, each⟩

/-- Only a text is a text in JSON. -/
theorem Value.IsJson.exists_str {value : Value} (isJson : value.IsJson)
    (isText : JsonType.string.holds .draft7 value = true) : ∃ text, value = .str text := by
  cases isJson with
  | str text => exact ⟨text, rfl⟩
  | _ => cases isText

/-! ### Schemas in a document -/

/-- Whether a schema stands in a schema, at whatever depth. -/
inductive Contains : Value → Value → Prop where
  | whole (schema : Value) : Contains schema schema
  | inner {node : Node} {part schema : Value} :
      part ∈ node.innerSchemas → Contains part schema → Contains (.dict node) schema

/-- What a part of a schema refers to, the schema refers to. -/
theorem Contains.refers {schema part reference : Value} (contains : Contains schema part)
    (refers : Refers part reference) : Refers schema reference := by
  induction contains with
  | whole schema => exact refers
  | inner member _ ih => exact .inner member (ih refers)

namespace SchemaSource

variable {source : SchemaSource} {notices : List Notice} {document node : Node}
  {classes : List ClassRef} {c : ClassRef} {d : String} {validator : Validator} {payload : Value}

/-- The branch for a class: a reference to its definition. -/
def branch (source : SchemaSource) (c : ClassRef) : Value :=
  .dict (definitionReference (source.outline.1.nameOf c))

/-- Whether a node in a document is a choice between the definitions of some classes. -/
structure IsChoice (source : SchemaSource) (document node : Node) (classes : List ClassRef) :
    Prop where
  inside : Contains (.dict document) (.dict node)
  branches : node.get? "oneOf" = some (.list (classes.map source.branch))
  defined : ∀ s ∈ classes, source.outline.1.has s = true

/-- What a payload of a class with a discriminator looks like: it has the name of the class, all that
the class requires, and nothing but its properties besides. -/
structure LooksLike (source : SchemaSource) (c : ClassRef) (d : String) (props : List Property)
    (fields : List (String × Value)) : Prop where
  marked : (Node.ofFields fields).get? d = some (.str (source.catalog.typeName c))
  known : ∀ key ∈ fields.map (·.1), key = d ∨ key ∈ props.map (·.publicName)
  complete : ∀ name ∈ source.requiredNames c props, name ∈ fields.map (·.1)

/-! ### The choices of a document -/

section

variable (wellFormed : source.catalog.WellFormed)
  (isOver : source.registry.IsOver source.catalog.table)
  (plain : source.catalog.table.HasNoFragments)
  (made : source.tree = (notices, .ok (.dict document)))
include wellFormed isOver plain made

theorem isClosed_of_tree : source.IsClosed source.outline.1 document := by
  obtain ⟨outlined, rfl⟩ := outlined_of_tree made
  exact isClosed_document wellFormed isOver plain outlined

/-- A choice between references of a document, none of them to the document itself, is a choice
between classes. -/
theorem exists_isChoice {references : List Value} (inside : Contains (.dict document) (.dict node))
    (branches : node.get? "oneOf"
      = some (.list (references.map fun reference => .dict (Node.single "$ref" reference))))
    (noRoot : rootPointer ∉ references) : ∃ classes, source.IsChoice document node classes := by
  have closed := isClosed_of_tree wellFormed isOver plain made
  have target : ∀ reference ∈ references, ∃ c, source.outline.1.has c = true
      ∧ reference = definitionPointer (source.outline.1.nameOf c) := by
    intro reference member
    have refers : Refers (.dict document) reference := by
      refine inside.refers (.inner ?_ (refers_reference.mpr rfl))
      exact Node.mem_innerSchemas.mpr ⟨"oneOf", by decide, _, branches, List.mem_map_of_mem member⟩
    rcases closed.target reference refers with ⟨rfl, -⟩ | ⟨c, label, kind, step, same⟩
    · exact absurd member noRoot
    · exact ⟨c, closed.defined c label kind step, same⟩
  choose! classOf has same using target
  refine ⟨references.map classOf, inside, ?_, fun s member => ?_⟩
  · rw [branches, List.map_map]
    exact congrArg (some ∘ Value.list) (List.map_congr_left fun reference member =>
      congrArg (fun pointer => Value.dict (Node.single "$ref" pointer)) (same reference member))
  · obtain ⟨reference, listed, rfl⟩ := List.mem_map.mp member
    exact has reference listed

/-- Where the root has subtypes, the document is a choice between them. -/
theorem isChoice_root (something : source.subTypes source.root ≠ []) :
    source.IsChoice document document (source.subTypes source.root) := by
  have closed := isClosed_of_tree wellFormed isOver plain made
  obtain ⟨first, rest, subTypes⟩ := List.exists_cons_of_ne_nil something
  obtain ⟨-, rfl⟩ := outlined_of_tree made
  refine ⟨.whole _, ?_, fun s member => ?_⟩
  · rw [get?_document (plain.config _), if_neg (by decide)]
    unfold rootNode branch
    rw [subTypes]
    dsimp only
    rw [Node.get?_append, branchesNode, Node.get?_single, Node.get?_single, if_neg (by decide),
      if_pos rfl, List.map_map]
    rfl
  · refine closed.defined s (source.catalog.table.name s) .model (List.mem_append_left _ ?_)
    unfold rootSteps
    rw [subTypes] at member ⊢
    exact List.mem_map.mpr ⟨s, member, rfl⟩

end

/-- A class that is no instant as well is defined by its body. -/
theorem hasModel_of_noFormat {outline : Outline} (outlined : source.Outlined outline [])
    (defined : outline.has c = true) (noFormat : source.catalog.table.objectFormat? c = none) :
    outline.HasModel c := by
  obtain ⟨definition, member, rfl⟩ := Outline.has_iff.mp defined
  obtain ⟨label, requested⟩ := outlined.requested definition member
  rcases origin_of_reference requested with ⟨isModel, -⟩ | ⟨schema, -, found⟩
  · exact ⟨definition, member, rfl, isModel⟩
  · rw [noFormat] at found
    cases found

/-! ### What branches accept -/

section

variable (plain : source.catalog.table.HasNoFragments)
  (made : source.tree = (notices, .ok (.dict document)))
  (ends : (Value.dict document).isEndless = false) (isIn : validator.IsIn document)
include plain made ends isIn

/-- Where a branch accepts a payload, so does the body of its class. -/
theorem body_accepts (hasModel : source.outline.1.HasModel c)
    (accepts : validator.Accepts (source.branch c) payload) :
    ∃ props, source.catalog.table.properties c = .ok props
      ∧ Node.IsInner (source.bodyNode source.outline.1.nameOf c props)
      ∧ validator.Accepts (.dict (source.bodyNode source.outline.1.nameOf c props)) payload := by
  obtain ⟨outlined, rfl⟩ := outlined_of_tree made
  obtain ⟨definition, member, rfl, isModel⟩ := hasModel
  obtain ⟨props, found⟩ := outlined.exists_properties (mem_allSteps_of_body member isModel)
  have whole : source.definitionNode source.outline.1.nameOf definition
      = .dict (source.bodyNode source.outline.1.nameOf definition.type props) := by
    unfold definitionNode classBody
    rw [isModel, found]
  have isInner : Node.IsInner (source.bodyNode source.outline.1.nameOf definition.type props) :=
    ⟨whole ▸ isEndless_definition_of_mem outlined.names member ends,
      get?_body (plain.config _) (by decide), get?_body (plain.config _) (by decide)⟩
  refine ⟨props, found, isInner, accepts.target isIn.isDraft7 isInner ?_⟩
  rw [isIn.viewpoint]
  exact lookup_document outlined.names member outlined.types
    (isNameChar_of_outline rfl definition member) ends isIn.known whole isInner.noId

/-- A branch accepts only payloads that look like those of its class. -/
theorem looksLike_of_accepts (hasModel : source.outline.1.HasModel c)
    (isDiscriminator : source.discriminator? c = some d) (isJson : payload.IsJson)
    (accepts : validator.Accepts (source.branch c) payload) :
    ∃ props fields, source.catalog.table.properties c = .ok props
      ∧ payload = .dict (Node.ofFields fields) ∧ source.LooksLike c d props fields := by
  obtain ⟨props, found, isInner, accepted⟩ := body_accepts plain made ends isIn hasModel accepts
  rw [bodyNode_eq (plain.config c)] at isInner accepted
  obtain ⟨entries, rfl, required, known, fits⟩ := accepted.closed isIn.isDraft7 isInner
  obtain ⟨fields, rfl, eachJson⟩ := isJson.exists_fields
  have present : ∀ name ∈ source.requiredNames c props, name ∈ fields.map (·.1) := by
    intro name member
    refine Decidable.byContradiction fun absent => ?_
    have isSome := required name member
    rw [Node.get?_ofFields_eq_none.mpr absent] at isSome
    cases isSome
  refine ⟨props, fields, found, rfl, ⟨?_, fun key isKey => ?_, present⟩⟩
  · have isRequired : d ∈ source.requiredNames c props := by
      unfold requiredNames
      rw [isDiscriminator]
      exact List.mem_cons_self
    obtain ⟨part, atKey⟩ := Option.isSome_iff_exists.mp (required d isRequired)
    have marker := Node.mem_of_get? isRecord_propertyNodes
      (get?_propertyNodes_discriminator isDiscriminator source.outline.1.nameOf props)
    have one := (fits d _ part marker isInner_discriminator atKey).eq_true isIn.isDraft7
      isInner_discriminator (settles_discriminator isIn.isDraft7)
    obtain ⟨isText, alike⟩ := (Bool.and_eq_true ..).mp one
    obtain ⟨text, rfl⟩ :=
      (eachJson _ (Node.mem_of_get?_ofFields atKey)).exists_str isText
    rw [Value.alike_str, beq_iff_eq] at alike
    rw [atKey, alike]
  · obtain ⟨field, member, rfl⟩ := List.mem_map.mp isKey
    have inTable : (Node.get? (source.propertyNodes source.outline.1.nameOf c props)
        field.1).isSome = true :=
      known (.str field.1, field.1, field.2)
        (List.mem_filterMap.mpr ⟨_, List.mem_map_of_mem member, rfl⟩)
    rcases mem_keys_of_get?_propertyNodes inTable with isMarker | isProperty
    · rw [isDiscriminator] at isMarker
      exact .inl (Option.some.inj isMarker).symm
    · obtain ⟨p, inBody, same⟩ := List.mem_map.mp isProperty
      exact .inr (same ▸ List.mem_map_of_mem (mem_of_mem_bodyProperties inBody))

/-! ### Main result -/

/-- In a document without injected fragments, the branches of a choice exclude one another when their
classes share a discriminator, have names of their own, and are defined by their bodies: no payload is
accepted by two of them. And a payload that one accepts looks like those of its class. -/
theorem branches_exclude (choice : source.IsChoice document node classes)
    (shared : ∀ s ∈ classes, source.discriminator? s = some d)
    (named : (classes.map source.catalog.typeName).Nodup)
    (bodies : ∀ s ∈ classes, source.outline.1.HasModel s) (isJson : payload.IsJson) :
    (∃ branches, node.get? "oneOf" = some (.list branches) ∧ branches.Pairwise fun first second =>
        ¬ (validator.Accepts first payload ∧ validator.Accepts second payload))
      ∧ ∀ s ∈ classes, validator.Accepts (source.branch s) payload →
        ∃ props fields, source.catalog.table.properties s = .ok props
          ∧ payload = .dict (Node.ofFields fields) ∧ source.LooksLike s d props fields := by
  have looks : ∀ s ∈ classes, validator.Accepts (source.branch s) payload →
      ∃ props fields, source.catalog.table.properties s = .ok props
        ∧ payload = .dict (Node.ofFields fields) ∧ source.LooksLike s d props fields :=
    fun s member => looksLike_of_accepts plain made ends isIn (bodies s member) (shared s member)
      isJson
  refine ⟨⟨_, choice.branches, List.pairwise_map.mpr ?_⟩, looks⟩
  refine (List.pairwise_map.mp named).imp_of_mem fun {s t} hs ht differ both => ?_
  obtain ⟨_, fields, -, rfl, first⟩ := looks s hs both.1
  obtain ⟨_, others, -, same, second⟩ := looks t ht both.2
  have marked := first.marked
  rw [Value.dict.inj same, second.marked] at marked
  exact differ (Value.str.inj (Option.some.inj marked)).symm

end

end SchemaSource

/-! ### Examples -/

section

open Example SchemaSource

/-- What is written for a square is not accepted for a polygon, where there is a choice between both.
-/
theorem branches_exclude_square :
    ∃ (document : Node) (validator : Validator),
      (SchemaSource.mk figures [⟨figure, [polygon, square]⟩] figure).tree.2
          = .ok (.dict document)
        ∧ Validator.ofRoot figures.table false document = .ok validator
        ∧ ¬ validator.Accepts
          ((SchemaSource.mk figures [⟨figure, [polygon, square]⟩] figure).branch polygon)
          (.dict (Node.ofFields [("kind", .str "square"), ("width", .int 1)])) := by
  let source := figuresFor figure
  have isRegular : source.IsRegular := isRegular_figuresFor (by decide)
  have isOver : Registry.IsOver [⟨figure, [polygon, square]⟩] figures.table := by
    unfold Registry.IsOver
    decide
  have made := tree_of_outline (Option.isNone_iff_eq_none.mpr isRegular.finished)
  have ends := isRegular.isReadable.isEndless_document
  have subTypes : source.subTypes source.root = [polygon, square] := (subTypes_figuresFor figure).2.1
  have choice := isChoice_root isRegular.wellFormed isOver hasNoFragments_figures made
    (subTypes ▸ List.cons_ne_nil _ _)
  rw [subTypes] at choice
  have isJson : (Value.dict (Node.ofFields [("kind", .str "square"), ("width", .int 1)])).IsJson := by
    refine .object fun field member => ?_
    rcases List.mem_pair.mp member with rfl | rfl
    · exact .str _
    · exact .int _
  obtain ⟨validator, atRoot, isIn⟩ := Validator.exists_ofRoot false
    (Validator.id?_of_none rfl ends (noId_document (hasNoFragments_figures.config _)))
  refine ⟨_, validator, congrArg Prod.snd made, atRoot, fun accepts => ?_⟩
  have noFormat : ∀ s ∈ [polygon, square], figures.table.objectFormat? s = none := by decide
  have bodies : ∀ s ∈ [polygon, square], source.outline.1.HasModel s := fun s member =>
    hasModel_of_noFormat (outlined_of_tree made).1 (choice.defined s member) (noFormat s member)
  have shared : ∀ s ∈ [polygon, square], source.discriminator? s = some "kind" := by decide
  obtain ⟨-, looks⟩ := branches_exclude hasNoFragments_figures made ends isIn choice shared
    (by decide) bodies isJson
  obtain ⟨props, fields, -, same, looksLike⟩ := looks polygon List.mem_cons_self accepts
  have kind : Node.get? (Node.ofFields [("kind", .str "square"), ("width", .int 1)]) "kind"
      = some (.str "square") := Node.get?_cons.trans (if_pos rfl)
  have marked := looksLike.marked
  rw [← Value.dict.inj same, kind] at marked
  have name : source.catalog.typeName polygon = "square" :=
    (Value.str.inj (Option.some.inj marked)).symm
  exact absurd name (by decide)

/-- The properties of a journal. -/
def journalProperties : Node :=
  Node.ofFields [("first", .dict (definitionReference "Instant")),
    ("latest", .dict (branchesNode [definitionReference "Instant"]))]

/-- The document of a journal, in which the definition of stamps is the schema of instants. -/
def journalDocument : Node :=
  [(.str "$schema", .str dialect), (.str "title", .str "Journal"), (.str "type", .str "object"),
    (.str "additionalProperties", .bool false),
    (.str "properties", .dict journalProperties),
    (.str "required", .strings ["first", "latest"]),
    (.str definitionsKeyword, .dict (Node.ofFields [("Instant", .dict instantNode)]))]

/-- The branch of stamps accepts an instant, which does not look like a stamp. -/
theorem not_branches_exclude_of_format :
    ¬ ∀ (source : SchemaSource) (notices : List Notice) (document node : Node)
      (classes : List ClassRef) (d : String) (validator : Validator) (payload : Value),
      source.catalog.WellFormed → source.registry.IsOver source.catalog.table →
      source.catalog.table.HasNoFragments → source.tree = (notices, .ok (.dict document)) →
      (Value.dict document).isEndless = false → validator.IsIn document →
      source.IsChoice document node classes →
      (∀ s ∈ classes, source.discriminator? s = some d) →
      (classes.map source.catalog.typeName).Nodup → payload.IsJson →
      ∀ s ∈ classes, validator.Accepts (source.branch s) payload →
        ∃ props fields, source.catalog.table.properties s = .ok props
          ∧ payload = .dict (Node.ofFields fields) ∧ source.LooksLike s d props fields := by
  intro exclude
  let source := SchemaSource.mk events [⟨event, [stamp]⟩] journal
  have isOver : Registry.IsOver [⟨event, [stamp]⟩] events.table := by
    unfold Registry.IsOver
    decide
  have plain : events.table.HasNoFragments :=
    ClassTable.hasNoFragments_of_declared (by decide)
  have outline : source.outline = (⟨[⟨stamp, "Instant", .fixed (.dict instantNode)⟩], []⟩, none) := by
    cbv
  have made : source.tree = ([], .ok (.dict journalDocument)) := by cbv
  have noId : Dialect.draft7.id? events.table (.dict journalDocument) = .ok none :=
    Validator.id?_of_none rfl rfl (by simp [journalDocument, definitionsKeyword])
  obtain ⟨validator, -, isIn⟩ := Validator.exists_ofRoot true noId
  have branch : source.branch stamp = .dict (definitionReference "Instant") := by
    unfold branch
    rw [outline]
    rfl
  have inside : Contains (.dict journalDocument)
      (.dict (branchesNode [definitionReference "Instant"])) := by
    refine .inner (Node.mem_innerSchemas.mpr
      ⟨"properties", by decide, .dict journalProperties, ?_, ?_⟩) (.whole _)
    · simp [journalDocument]
    · exact List.mem_cons_of_mem _ List.mem_cons_self
  have choice : source.IsChoice journalDocument (branchesNode [definitionReference "Instant"])
      [stamp] := by
    refine ⟨inside, ?_, ?_⟩
    · rw [List.map_singleton, branch]
      exact Node.get?_single.trans (if_pos rfl)
    · rw [outline]
      decide
  have isJson : (Value.dict (Node.ofFields (Validator.instantFields ⟨1, 2⟩))).IsJson := by
    refine .object fun field member => ?_
    rcases List.mem_pair.mp member with rfl | rfl <;> exact .int _
  have isInner : instantNode.IsInner :=
    ⟨rfl, Validator.get?_closedNode (by decide), Validator.get?_closedNode (by decide)⟩
  have atDefinitions : journalDocument.get? definitionsKeyword
      = some (.dict (Node.ofFields [("Instant", .dict instantNode)])) := by
    simp [journalDocument, definitionsKeyword]
  have atName : Node.get? (Node.ofFields [("Instant", .dict instantNode)]) "Instant"
      = some (.dict instantNode) := Node.get?_cons.trans (if_pos rfl)
  have accepts : validator.Accepts (source.branch stamp)
      (.dict (Node.ofFields (Validator.instantFields ⟨1, 2⟩))) := by
    rw [branch]
    refine Validator.accepts_of_settles isIn.isDraft7 isInner_reference
      (Validator.settles_reference isIn.isDraft7 isEndless_reference
        (Node.get?_single.trans (if_pos rfl)) ?_
        (Validator.keeps_of_isInner isIn.isDraft7 isInner)
        (Validator.settles_instant isIn.isDraft7 ⟨1, 2⟩))
    rw [isIn.viewpoint]
    exact lookup_definition isIn.known rfl atDefinitions atName
      (Validator.id?_of_none rfl isInner.ends isInner.noId) (List.all_eq_true.mp rfl)
  obtain ⟨props, fields, -, same, looksLike⟩ := exclude source [] journalDocument _ [stamp] "kind"
    validator _ (by decide) isOver plain made rfl isIn choice (by decide) (by decide) isJson stamp
    List.mem_cons_self accepts
  have marked := looksLike.marked
  rw [← Value.dict.inj same] at marked
  have absent : "kind" ∉ (Validator.instantFields ⟨1, 2⟩).map (·.1) := by decide
  rw [Node.get?_ofFields_eq_none.mpr absent] at marked
  cases marked

end

end ModelSchema
