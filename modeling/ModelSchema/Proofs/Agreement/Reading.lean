import ModelSchema.Proofs.Agreement.Readable
import ModelSchema.Proofs.Schema.Closed
import ModelSchema.Proofs.Validation.Pointer

/-!
Reading a document.

* `Validator.Leads`: a node that comes to what another node asks for.
* `SchemaSource.Reads`: a validator that comes by references to the bodies of classes.
* `reads_document`: the validator of a document whose outline is readable does so, and what it finds
  wrong with a value at the top level is what it finds wrong by the node of the root.
-/

namespace ModelSchema

namespace Validator

/-- Whether a check by a node settles when the one by another node does, for the same answer. -/
def Leads (validator : Validator) (node target : Node) : Prop :=
  ∀ value valid, Settles (validator.judged (.dict target) value) valid →
    Settles (validator.judged (.dict node) value) valid

end Validator

/-- The parts of instants with their schema. -/
def instantParts : List (String × Value) :=
  ["nanos", "seconds"].map fun name => (name, .dict (LeafFormat.node ⟨"integer", none⟩))

/-- The schema of instants. -/
def instantNode : Node := Validator.closedNode (Node.ofFields instantParts) ["nanos", "seconds"]

namespace SchemaSource

/-- Whether a validator comes by the references of a document to what they stand for. -/
structure Reads (source : SchemaSource) (outline : Outline) (validator : Validator) : Prop where
  isDraft7 : validator.dialect = .draft7
  root : source.subTypes source.root = [] → ∀ props,
    source.catalog.table.properties source.root = .ok props →
      validator.Leads rootReference (source.contentNode outline.nameOf source.root props)
  model : ∀ c, outline.HasModel c → ∀ props, source.catalog.table.properties c = .ok props →
    validator.Leads (definitionReference (outline.nameOf c))
      (source.contentNode outline.nameOf c props)
  instant : outline.has (.basic .instant) = true →
    validator.Leads (definitionReference (outline.nameOf (.basic .instant))) instantNode

variable {source : SchemaSource} {outline : Outline} {names : ClassRef → String}

/-! ### The parts of a document -/

/-- The definitions of a document behind their keyword. -/
def definitionsNode (source : SchemaSource) (outline : Outline) : Node :=
  if outline.definitions = [] then []
  else Node.single definitionsKeyword (.dict (Node.ofFields (source.definitionFields outline)))

/-- A document has its dialect in front of the root, and the definitions behind. -/
theorem document_eq (plain : (source.catalog.table.config source.root).extra.join = none) :
    source.document outline
      = Node.single "$schema" (.str dialect) ++ source.rootNode outline.nameOf
        ++ source.definitionsNode outline := by
  have none : (outline.definitions.mergeSort fun a b => a.name ≤ b.name).isEmpty = true
      ↔ outline.definitions = [] := by
    rw [List.isEmpty_iff, ← List.length_eq_zero_iff, List.length_mergeSort,
      List.length_eq_zero_iff]
  have fresh : ∀ keyword, ((source.rootNode outline.nameOf).get? keyword).isSome = true →
      (Node.single "$schema" (.str dialect)).get? keyword = .none := by
    intro keyword there
    rw [Node.get?_single]
    split
    next same =>
      subst same
      rw [get?_root plain (by decide)] at there
      cases there
    next => rfl
  have unnamed : Node.get? (Node.single "$schema" (.str dialect)
      ++ source.rootNode outline.nameOf) definitionsKeyword = .none := by
    rw [Node.get?_append, get?_root plain (by decide), Node.get?_single, if_neg (by decide)]
    rfl
  unfold document definitionsNode
  dsimp only
  rw [Node.update_eq_append (isRecord_root plain) fresh]
  by_cases nothing : outline.definitions = []
  · rw [if_pos (none.mpr nothing), if_pos nothing, List.append_nil]
  · rw [if_neg (mt none.mp nothing), if_neg nothing]
    exact Node.set_eq_append unnamed

/-- The root has a title in front. -/
def rootContent (source : SchemaSource) (names : ClassRef → String) (props : List Property) :
    Node :=
  match source.subTypes source.root with
  | [] => source.contentNode names source.root props
  | subTypes => branchesNode (subTypes.map fun s => definitionReference (names s))

theorem rootNode_eq (plain : (source.catalog.table.config source.root).extra.join = none)
    {props : List Property}
    (found : source.subTypes source.root = [] →
      source.catalog.table.properties source.root = .ok props) :
    source.rootNode names
      = Node.single "title" (.str (source.catalog.table.title source.root))
        ++ source.rootContent names props := by
  unfold rootNode rootContent
  cases subTypes : source.subTypes source.root with
  | nil =>
    dsimp only
    unfold classBody
    rw [found subTypes]
    exact bodyNode_eq plain
  | cons first rest => rfl

/-- A document ends when its root and its definitions do. -/
theorem isEndless_document (plain : (source.catalog.table.config source.root).extra.join = none)
    {props : List Property}
    (found : source.subTypes source.root = [] →
      source.catalog.table.properties source.root = .ok props)
    (root : (Value.dict (source.rootContent outline.nameOf props)).isEndless = false)
    (each : ∀ d ∈ outline.definitions,
      (source.definitionNode outline.nameOf d).isEndless = false) :
    (Value.dict (source.document outline)).isEndless = false := by
  have definitions : (Value.dict (source.definitionsNode outline)).isEndless = false := by
    unfold definitionsNode
    split
    · rfl
    · have inside : (Value.dict (Node.ofFields (source.definitionFields outline))).isEndless
          = false := by
        refine Value.isEndless_dict.mpr fun entry member => ?_
        obtain ⟨field, isField, rfl⟩ := List.mem_map.mp member
        obtain ⟨d, isDefinition, rfl⟩ := mem_definitionFields.mp isField
        exact each d isDefinition
      simp [Node.single, inside]
  rw [document_eq plain, rootNode_eq plain found, Value.isEndless_append, Value.isEndless_append,
    Value.isEndless_append, definitions, root]
  rfl

theorem isUsual_rootContent {props : List Property} :
    (source.rootContent names props).IsUsual := by
  unfold rootContent
  split
  · exact isUsual_content
  · exact isUsual_branches

theorem isRemark_single {keyword : String} {argument : Value}
    (noKeyword : Keyword.ofName? .draft7 keyword = none) :
    (Node.single keyword argument).IsRemark := by
  intro entry member
  cases List.mem_singleton.mp member
  exact ⟨_, _, rfl, noKeyword⟩

theorem isRemark_definitions : (source.definitionsNode outline).IsRemark := by
  unfold definitionsNode
  split
  · exact Node.isRemark_nil
  · exact isRemark_single rfl

/-! ### The document itself -/

/-- The dialect that documents ask for is written in its plain form. -/
theorem plainUri_dialect {table : ClassTable} :
    Dialect.plainUri table (.str dialect) = .ok Dialect.draft7.uri := by
  have text : (UriReference.ofText? dialect).map (·.text) = some Dialect.draft7.uri := by
    decide +kernel
  obtain ⟨uri, read, same⟩ := Option.map_eq_some_iff.mp text
  unfold Dialect.plainUri
  dsimp only
  rw [read, ← same]

section

variable {validator : Validator} (plain : (source.catalog.table.config source.root).extra.join = none)
  (ends : (Value.dict (source.document outline)).isEndless = false)
  (isDraft7 : validator.dialect = .draft7)
include plain ends isDraft7

/-- The dialect that a document asks for is the one that it is read in. -/
theorem keeps_document : validator.Keeps (.dict (source.document outline)) where
  dialect := by
    have asked : (source.document outline).get? "$schema" = some (.str dialect) := by
      rw [get?_document plain, if_neg (by decide), get?_root plain (by decide)]
      rfl
    have same : validator.dialect.ofSchema validator.table (.dict (source.document outline))
        = .ok validator.dialect := by
      have part : (Value.dict (source.document outline)).partAt validator.table "$schema"
          = .ok (.str dialect) := by
        unfold Value.partAt
        dsimp only
        rw [Value.entryNamed?_eq (Value.isEndless_dict.mp ends), asked]
      rw [isDraft7]
      unfold Dialect.ofSchema
      rw [Value.hasPart_dict, asked, part]
      dsimp only [bind, Except.bind]
      rw [plainUri_dialect]
      rfl
    unfold Validator.forSchema
    rw [same]
    rfl
  viewpoint := by
    unfold Viewpoint.inside
    rw [Validator.id?_of_none isDraft7 ends (noId_document plain)]
    rfl

/-- At the top level a document asks for what its root does. -/
theorem judged_document {props : List Property}
    (found : source.subTypes source.root = [] →
      source.catalog.table.properties source.root = .ok props) {value : Value} :
    validator.judged (.dict (source.document outline)) value
      = validator.judged (.dict (source.rootContent outline.nameOf props)) value := by
  rw [document_eq plain, rootNode_eq plain found, ← List.append_assoc] at ends ⊢
  funext depth
  exact Validator.judged_remarked isDraft7 ends isUsual_rootContent
    (isRemark_append (isRemark_single rfl) (isRemark_single rfl)) isRemark_definitions

end

/-- A definition asks for what the body of its class does. -/
theorem judged_definition {validator : Validator} (isDraft7 : validator.dialect = .draft7)
    {c : ClassRef} {props : List Property} {title : String} {value : Value}
    (ends : (Value.dict (source.contentNode names c props)).isEndless = false) :
    validator.judged (.dict (Node.single "title" (.str title) ++ source.contentNode names c props))
        value
      = validator.judged (.dict (source.contentNode names c props)) value := by
  have endsTitled : (Value.dict (Node.single "title" (.str title)
      ++ source.contentNode names c props ++ [])).isEndless = false := by
    rw [List.append_nil, Value.isEndless_append, ends]
    rfl
  have same : ∀ depth, validator.judged (.dict (Node.single "title" (.str title)
      ++ source.contentNode names c props ++ [])) value depth
      = validator.judged (.dict (source.contentNode names c props)) value depth :=
    fun _ => Validator.judged_remarked isDraft7 endsTitled isUsual_content (isRemark_single rfl)
      Node.isRemark_nil
  rw [List.append_nil] at same
  exact funext same

section

variable (unique : (outline.definitions.map (·.name)).Nodup) {d : Definition}
  (member : d ∈ outline.definitions)
include unique member

/-- The definitions of a document that ends do. -/
theorem isEndless_definition_of_mem
    (ends : (Value.dict (source.document outline)).isEndless = false) :
    (source.definitionNode outline.nameOf d).isEndless = false :=
  Value.isEndless_of_get?
    (Value.isEndless_of_get? ends (get?_definitions (List.ne_nil_of_mem member)))
    (get?_definitionFields unique member)

/-- The pointer of a definition leads to the definition. -/
theorem lookup_document {library : SchemaLibrary}
    (types : (outline.definitions.map (·.type)).Nodup)
    (spelled : ∀ character ∈ d.name.toList, isNameChar character = true)
    (ends : (Value.dict (source.document outline)).isEndless = false)
    (known : library.known.resource? "" = some ⟨.dict (source.document outline), .draft7⟩)
    {target : Node} (isTarget : source.definitionNode outline.nameOf d = .dict target)
    (noId : target.get? "$id" = none) :
    library.lookup rootViewpoint (s!"#/{definitionsKeyword}/{outline.nameOf d.type}")
      = .ok (.dict target, rootViewpoint) := by
  have endsTarget := isEndless_definition_of_mem unique member ends
  have atName : (Node.ofFields (source.definitionFields outline)).get? d.name
      = some (source.definitionNode outline.nameOf d) := get?_definitionFields unique member
  rw [isTarget] at endsTarget atName
  rw [Outline.nameOf_of_mem types member]
  exact lookup_definition known ends (get?_definitions (List.ne_nil_of_mem member)) atName
    (Validator.id?_of_none rfl endsTarget noId) spelled

end

namespace IsReadable

variable (readable : source.IsReadable outline)
include readable

/-- The properties of the root, if its body is the document. -/
theorem exists_rootProperties : ∃ props, source.subTypes source.root = [] →
    source.IsReadableBody outline source.root props := by
  by_cases noSubTypes : source.subTypes source.root = []
  · obtain ⟨props, body⟩ := readable.bodies source.root (.inl ⟨rfl, noSubTypes⟩)
    exact ⟨props, fun _ => body⟩
  · exact ⟨[], fun absurdly => absurd absurdly noSubTypes⟩

/-- The definition of a model is a title and what its body consists of. -/
theorem definitionNode_eq {d : Definition} (member : d ∈ outline.definitions)
    (isModel : d.kind = .model) :
    ∃ props, source.IsReadableBody outline d.type props
      ∧ source.definitionNode names d = .dict (Node.single "title"
        (.str (source.catalog.table.title d.type)) ++ source.contentNode names d.type props) := by
  obtain ⟨props, body⟩ := readable.bodies d.type (.inr ⟨d, member, rfl, isModel⟩)
  refine ⟨props, body, ?_⟩
  unfold definitionNode classBody
  rw [isModel, body.found]
  exact congrArg Value.dict (bodyNode_eq (readable.plain.config _))

theorem isEndless_definition {d : Definition} (member : d ∈ outline.definitions) :
    (source.definitionNode names d).isEndless = false := by
  rcases readable.kinds d member with ⟨-, isModel⟩ | ⟨-, isFixed⟩
  · obtain ⟨props, body, same⟩ : ∃ props, source.IsReadableBody outline d.type props
        ∧ source.definitionNode names d = _ := readable.definitionNode_eq member isModel
    rw [same, Value.isEndless_append, body.isEndless_content readable.wellFormed readable.plain]
    rfl
  · unfold definitionNode
    rw [isFixed]
    rfl

theorem isEndless_rootContent {props : List Property} (body : source.subTypes source.root = [] →
      source.IsReadableBody outline source.root props) :
    (Value.dict (source.rootContent names props)).isEndless = false := by
  unfold rootContent
  split
  next noSubTypes => exact (body noSubTypes).isEndless_content readable.wellFormed readable.plain
  next =>
    refine isEndless_branches fun branch member => ?_
    obtain ⟨s, -, rfl⟩ := List.mem_map.mp member
    exact isInner_reference

theorem isEndless_document : (Value.dict (source.document outline)).isEndless = false := by
  obtain ⟨props, body⟩ := readable.exists_rootProperties
  exact SchemaSource.isEndless_document (readable.plain.config _) (fun none => (body none).found)
    (readable.isEndless_rootContent body) fun _ => readable.isEndless_definition

/-! ### What references lead to -/

variable {validator : Validator}

/-- A reference to a definition settles when the definition does. -/
theorem leads_definition (isDraft7 : validator.dialect = .draft7)
    (known : validator.library.known.resource? ""
      = some ⟨.dict (source.document outline), .draft7⟩)
    (viewpoint : validator.viewpoint = rootViewpoint) {d : Definition}
    (member : d ∈ outline.definitions) {target : Node}
    (isTarget : source.definitionNode outline.nameOf d = .dict target) (isInner : target.IsInner) :
    validator.Leads (definitionReference (outline.nameOf d.type)) target := by
  intro value valid settles
  refine Validator.settles_reference isDraft7 isEndless_reference
    (Node.get?_single.trans (if_pos rfl)) ?_ (Validator.keeps_of_isInner isDraft7 isInner) settles
  rw [viewpoint]
  exact lookup_document readable.names member readable.types (readable.spelled d member)
    readable.isEndless_document known isTarget isInner.noId

/-- The validator of a document comes by its references to what they stand for. -/
theorem reads_document (isDraft7 : validator.dialect = .draft7)
    (known : validator.library.known.resource? ""
      = some ⟨.dict (source.document outline), .draft7⟩)
    (viewpoint : validator.viewpoint = rootViewpoint) : source.Reads outline validator where
  isDraft7 := isDraft7
  root noSubTypes props found value valid settles := by
    refine Validator.settles_reference isDraft7 isEndless_reference
      (Node.get?_single.trans (if_pos rfl)) ?_
      (keeps_document (readable.plain.config _) readable.isEndless_document isDraft7) ?_
    · rw [viewpoint]
      exact lookup_root known
    · rw [judged_document (readable.plain.config _) readable.isEndless_document isDraft7 fun _ => found]
      unfold rootContent
      rw [noSubTypes]
      exact settles
  model c hasModel props found value valid settles := by
    obtain ⟨d, member, rfl, isModel⟩ := hasModel
    obtain ⟨props', body, same⟩ := readable.definitionNode_eq member isModel
    obtain rfl : props' = props := Except.ok.inj (body.found.symm.trans found)
    have isInner : Node.IsInner (Node.single "title" (.str (source.catalog.table.title d.type))
        ++ source.contentNode outline.nameOf d.type props') := by
      have others : ∀ keyword, "title" ≠ keyword → keyword ∉ Node.usedKeywords →
          (Node.single "title" (.str (source.catalog.table.title d.type))
            ++ source.contentNode outline.nameOf d.type props').get? keyword = none := by
        intro keyword notTitle unused
        rw [Node.get?_append, Node.get?_single, if_neg notTitle,
          isUsual_content.get?_eq_none unused]
        rfl
      refine ⟨?_, others _ (by decide) (by decide), others _ (by decide) (by decide)⟩
      rw [← same]
      exact readable.isEndless_definition member
    refine readable.leads_definition isDraft7 known viewpoint member same isInner value valid ?_
    rwa [judged_definition isDraft7 (body.isEndless_content readable.wellFormed readable.plain)]
  instant has := by
    obtain ⟨d, member, isInstant⟩ := Outline.has_iff.mp has
    rw [← isInstant]
    rcases readable.kinds d member with ⟨notInstant, -⟩ | ⟨-, isFixed⟩
    · exact absurd isInstant notInstant
    · have same : source.definitionNode outline.nameOf d = .dict instantNode := by
        unfold definitionNode
        rw [isFixed]
        rfl
      exact readable.leads_definition isDraft7 known viewpoint member same
        ⟨rfl, Validator.get?_closedNode (by decide), Validator.get?_closedNode (by decide)⟩

end IsReadable

end SchemaSource

end ModelSchema
