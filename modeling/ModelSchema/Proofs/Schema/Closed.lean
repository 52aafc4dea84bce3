import Mathlib
import ModelSchema.Example.Figures
import ModelSchema.Proofs.Schema.Definitions
import ModelSchema.Proofs.Schema.Mirroring

/-!
The references in a document are closed and unambiguous.

* `SchemaSource.refers_document`: the references in a document are those of its root and of its
  definitions.
* `SchemaSource.IsClosed`: every reference has a target, which is what it was made for, and no two
  classes share a definition.
* `tree_isClosed`: so it is in every document without injected fragments; and where no two
  properties of a model are written under one name, every definition is referred to.
-/

namespace ModelSchema

/-- The definition with a name in a document. -/
def Node.definition? (document : Node) (name : String) : Option Value :=
  match document.get? definitionsKeyword with
  | some (.dict definitions) => Node.get? definitions name
  | _ => none

/-- Whether a document is a body at its top level, and no choice. -/
def Node.HasBody (document body : Node) : Prop :=
  document.get? "oneOf" = none
    ∧ ∀ keyword value, body.get? keyword = some value → document.get? keyword = some value

namespace SchemaSource

variable {source : SchemaSource} {outline : Outline} {names : ClassRef → String}

/-! ### The parts of a document -/

theorem isRecord_root (plain : (source.catalog.table.config source.root).extra.join = none) :
    (source.rootNode names).IsRecord := by
  unfold rootNode
  split
  · unfold classBody
    split
    · exact isRecord_body plain
    · exact Node.isRecord_nil
  · exact Node.isRecord_cons isRecord_single (by simp [branchesNode])

/-- The root has no keywords of the document. -/
theorem get?_root (plain : (source.catalog.table.config source.root).extra.join = none)
    {keyword : String}
    (member : keyword ∈ ["$schema", "$id", "$ref", definitionsKeyword]) :
    (source.rootNode names).get? keyword = none := by
  have differs : ∀ other, other ∉ ["$schema", "$id", "$ref", definitionsKeyword] →
      other ≠ keyword := by
    rintro _ notKeyword rfl
    exact notKeyword member
  unfold rootNode
  split
  · unfold classBody
    split
    · rw [get?_body plain (differs _ (by decide)), if_neg (differs _ (by decide)),
        if_neg (differs _ (by decide)), if_neg (differs _ (by decide)),
        if_neg (differs _ (by decide))]
    · rfl
  · rw [Node.get?_append, branchesNode, Node.get?_single, Node.get?_single,
      if_neg (differs _ (by decide)), if_neg (differs _ (by decide)), Option.or_none]

/-- The definitions of a document with their names. -/
def definitionFields (source : SchemaSource) (outline : Outline) : List (String × Value) :=
  (outline.definitions.mergeSort fun a b => a.name ≤ b.name).map fun d =>
    (d.name, source.definitionNode outline.nameOf d)

theorem mem_definitionFields {field : String × Value} :
    field ∈ source.definitionFields outline ↔ ∃ d ∈ outline.definitions,
      field = (d.name, source.definitionNode outline.nameOf d) := by
  unfold definitionFields
  rw [List.mem_map]
  exact exists_congr fun d => and_congr List.mem_mergeSort eq_comm

theorem nodup_definitionFields (unique : (outline.definitions.map (·.name)).Nodup) :
    ((source.definitionFields outline).map (·.1)).Nodup := by
  unfold definitionFields
  rw [List.map_map]
  exact ((List.mergeSort_perm _ _).map _).nodup_iff.mpr unique

/-- The keywords of a document are those of its root, which may replace its dialect; but its own
definitions, if it has any, replace those of its root. -/
theorem get?_document_of_record (record : (source.rootNode outline.nameOf).IsRecord)
    {keyword : String} :
    (source.document outline).get? keyword
      = if definitionsKeyword = keyword ∧ outline.definitions ≠ [] then
          some (.dict (Node.ofFields (source.definitionFields outline)))
        else ((source.rootNode outline.nameOf).get? keyword).or
          (if "$schema" = keyword then some (.str dialect) else none) := by
  have none : (outline.definitions.mergeSort fun a b => a.name ≤ b.name).isEmpty = true
      ↔ outline.definitions = [] := by
    rw [List.isEmpty_iff, ← List.length_eq_zero_iff, List.length_mergeSort,
      List.length_eq_zero_iff]
  have node : Node.get? (Value.assocUpdate (Node.single "$schema" (.str dialect))
      (source.rootNode outline.nameOf)) keyword = ((source.rootNode outline.nameOf).get? keyword).or
        (if "$schema" = keyword then some (.str dialect) else .none) := by
    rw [Node.get?_update record, Node.get?_single]
  unfold document
  dsimp only
  split
  next isEmpty =>
    have kept : ¬ (definitionsKeyword = keyword ∧ outline.definitions ≠ []) :=
      fun replaced => replaced.2 (none.mp isEmpty)
    rw [if_neg kept, node]
  next notEmpty =>
    rw [Node.get?_set, node]
    by_cases same : definitionsKeyword = keyword
    · rw [if_pos same, if_pos ⟨same, mt none.mpr notEmpty⟩]
      rfl
    · have kept : ¬ (definitionsKeyword = keyword ∧ outline.definitions ≠ []) :=
        fun replaced => same replaced.1
      rw [if_neg same, if_neg kept]

/-- The keywords of a document are those of its root, its dialect, and its definitions. -/
theorem get?_document (plain : (source.catalog.table.config source.root).extra.join = none)
    {keyword : String} :
    (source.document outline).get? keyword
      = if definitionsKeyword = keyword then
          if outline.definitions = [] then none
          else some (.dict (Node.ofFields (source.definitionFields outline)))
        else ((source.rootNode outline.nameOf).get? keyword).or
          (if "$schema" = keyword then some (.str dialect) else none) := by
  rw [get?_document_of_record (isRecord_root plain)]
  by_cases same : definitionsKeyword = keyword
  · subst same
    rw [get?_root plain (by decide)]
    by_cases nothing : outline.definitions = []
    · simp [nothing, definitionsKeyword]
    · simp [nothing]
  · simp [same]

/-- A document does not name itself. -/
theorem noId_document (plain : (source.catalog.table.config source.root).extra.join = none) :
    (source.document outline).get? "$id" = none := by
  rw [get?_document plain, if_neg (by decide), get?_root plain (by decide)]
  rfl

/-- The definitions of a document, if there are any. -/
theorem get?_definitions (something : outline.definitions ≠ []) :
    (source.document outline).get? definitionsKeyword
      = some (.dict (Node.ofFields (source.definitionFields outline))) := by
  have notEmpty : ¬ (outline.definitions.mergeSort fun a b => a.name ≤ b.name).isEmpty = true := by
    rw [List.isEmpty_iff, ← List.length_eq_zero_iff, List.length_mergeSort,
      List.length_eq_zero_iff]
    exact something
  unfold document
  dsimp only
  rw [if_neg notEmpty, Node.get?_set, if_pos rfl]
  rfl

theorem get?_definitionFields (unique : (outline.definitions.map (·.name)).Nodup) {d : Definition}
    (member : d ∈ outline.definitions) :
    (Node.ofFields (source.definitionFields outline)).get? d.name
      = some (source.definitionNode outline.nameOf d) :=
  Node.get?_ofFields_of_mem (nodup_definitionFields unique) (mem_definitionFields.mpr ⟨d, member, rfl⟩)

/-- The definition of a class is under its name. -/
theorem definition?_of_mem (unique : (outline.definitions.map (·.name)).Nodup) {d : Definition}
    (member : d ∈ outline.definitions) :
    (source.document outline).definition? d.name
      = some (source.definitionNode outline.nameOf d) := by
  unfold Node.definition?
  rw [get?_definitions (List.ne_nil_of_mem member)]
  exact get?_definitionFields unique member

/-- There are no other definitions. -/
theorem exists_of_definition? (plain : source.catalog.table.HasNoFragments) {name : String}
    {entry : Value} (found : (source.document outline).definition? name = some entry) :
    ∃ d ∈ outline.definitions, d.name = name := by
  unfold Node.definition? at found
  rw [get?_document (plain.config _), if_pos rfl] at found
  split at found
  next definitions at? =>
    split at at?
    · cases at?
    · cases at?
      by_cases inside : name ∈ (source.definitionFields outline).map (·.1)
      · obtain ⟨field, member, rfl⟩ := List.mem_map.mp inside
        obtain ⟨d, isDefined, rfl⟩ := mem_definitionFields.mp member
        exact ⟨d, isDefined, rfl⟩
      · rw [Node.get?_ofFields_eq_none.mpr inside] at found
        cases found
  · cases found

theorem noReference_document (plain : source.catalog.table.HasNoFragments) :
    (source.document outline).get? "$ref" = none := by
  rw [get?_document (plain.config _), get?_root (plain.config _) (by decide)]
  rfl

/-- The schemas in a document are those of its root, and its definitions. -/
theorem mem_innerSchemas_document (plain : source.catalog.table.HasNoFragments) {schema : Value} :
    schema ∈ (source.document outline).innerSchemas
      ↔ schema ∈ (source.rootNode outline.nameOf).innerSchemas
        ∨ ∃ d ∈ outline.definitions, schema = source.definitionNode outline.nameOf d := by
  have ofRoot : ∀ keyword ∈ Node.schemaKeywords, keyword ≠ definitionsKeyword →
      (source.document outline).get? keyword
        = (source.rootNode outline.nameOf).get? keyword := by
    intro keyword member differs
    rw [get?_document (plain.config _), if_neg (Ne.symm differs),
      if_neg (ne_of_schemaKeyword "$schema" member (by decide)), Option.or_none]
  rw [Node.mem_innerSchemas, Node.mem_innerSchemas]
  constructor
  · rintro ⟨keyword, isKeyword, value, found, behind⟩
    by_cases differs : keyword = definitionsKeyword
    · subst differs
      rw [get?_document (plain.config _), if_pos rfl] at found
      split at found
      · cases found
      · cases found
        obtain ⟨_, entry, rfl⟩ := List.mem_map.mp behind
        obtain ⟨_, field, rfl⟩ := List.mem_map.mp entry
        obtain ⟨d, member, rfl⟩ := mem_definitionFields.mp field
        exact .inr ⟨d, member, rfl⟩
    · rw [ofRoot keyword isKeyword differs] at found
      exact .inl ⟨keyword, isKeyword, value, found, behind⟩
  · rintro (⟨keyword, isKeyword, value, found, behind⟩ | ⟨d, member, rfl⟩)
    · have differs : keyword ≠ definitionsKeyword := by
        rintro rfl
        rw [get?_root (plain.config _) (by decide)] at found
        cases found
      rw [← ofRoot keyword isKeyword differs] at found
      exact ⟨keyword, isKeyword, value, found, behind⟩
    · have found : (source.document outline).get? definitionsKeyword
          = some (.dict (Node.ofFields (source.definitionFields outline))) := by
        rw [get?_document (plain.config _), if_pos rfl, if_neg (List.ne_nil_of_mem member)]
      refine ⟨_, by decide, _, found, ?_⟩
      exact List.mem_map.mpr ⟨_, List.mem_map_of_mem (mem_definitionFields.mpr ⟨d, member, rfl⟩), rfl⟩

/-- The references in a document are those of its root and of its definitions. -/
theorem refers_document (plain : source.catalog.table.HasNoFragments) {reference : Value} :
    Refers (.dict (source.document outline)) reference
      ↔ Refers (.dict (source.rootNode outline.nameOf)) reference
        ∨ ∃ d ∈ outline.definitions,
          Refers (source.definitionNode outline.nameOf d) reference := by
  rw [refers_iff, refers_iff, noReference_document plain, get?_root (plain.config _) (by decide)]
  constructor
  · rintro (none | ⟨schema, inner, refers⟩)
    · cases none
    · rcases (mem_innerSchemas_document plain).mp inner with atRoot | ⟨d, member, rfl⟩
      · exact .inl (.inr ⟨schema, atRoot, refers⟩)
      · exact .inr ⟨d, member, refers⟩
  · rintro ((none | ⟨schema, inner, refers⟩) | ⟨d, member, refers⟩)
    · cases none
    · exact .inr ⟨schema, (mem_innerSchemas_document plain).mpr (.inl inner), refers⟩
    · exact .inr ⟨_, (mem_innerSchemas_document plain).mpr (.inr ⟨d, member, rfl⟩), refers⟩

/-! ### Closed documents -/

/-- Whether a definition says all there is to say about its class: the whole body, or the fixed
schema of the class. -/
def IsWhole (source : SchemaSource) (names : ClassRef → String) (c : ClassRef) (label : String)
    (entry : Value) : DefinitionKind → Prop
  | .model => ∃ props, source.catalog.table.properties c = .ok props
    ∧ entry = .dict (source.bodyNode names c props)
  | .fixed schema => source.catalog.table.objectFormat? c = some (label, schema) ∧ entry = schema

/-- Whether the references in a document with the definitions of an outline are closed and
unambiguous. -/
structure IsClosed (source : SchemaSource) (outline : Outline) (document : Node) : Prop where
  /-- A reference is to the document itself, which then is the body of the root, or to the
  definition of a class that was asked for. -/
  target : ∀ reference, Refers (.dict document) reference →
    (reference = rootPointer ∧ ∃ props, source.catalog.table.properties source.root = .ok props
        ∧ document.HasBody (source.bodyNode outline.nameOf source.root props))
      ∨ ∃ c label kind, .reference c label kind ∈ source.allSteps outline
        ∧ reference = definitionPointer (outline.nameOf c)
  /-- What a property refers to are the definitions of the classes that it asks for. -/
  property : ∀ c props, source.catalog.table.properties c = .ok props →
    ∀ p ∈ source.bodyProperties c props,
      source.Mirrors outline.nameOf (Refers (.dict (source.propertyNode outline.nameOf c p)))
        (source.propertySteps c p)
  /-- A class that was asked for has a definition. -/
  defined : ∀ c label kind, .reference c label kind ∈ source.allSteps outline →
    outline.has c = true
  /-- The definition of a class is under its name, and it is whole. -/
  entry : ∀ c, outline.has c = true → ∃ label kind entry,
    .reference c label kind ∈ source.allSteps outline
      ∧ document.definition? (outline.nameOf c) = some entry
      ∧ source.IsWhole outline.nameOf c label entry kind
  /-- There are no other definitions. -/
  only : ∀ name entry, document.definition? name = some entry →
    ∃ c, outline.has c = true ∧ outline.nameOf c = name
  /-- No two classes share a definition. -/
  unambiguous : ∀ c d, outline.has c = true → outline.has d = true →
    outline.nameOf c = outline.nameOf d → c = d

/-- The references of a definition are foreseen. -/
theorem sound_definition (plain : source.catalog.table.HasNoFragments)
    (outlined : source.Outlined outline []) {d : Definition} (member : d ∈ outline.definitions)
    {reference : Value} (refers : Refers (source.definitionNode names d) reference) :
    (reference = rootPointer ∧ source.subTypes source.root = [])
      ∨ ∃ c label kind, .reference c label kind ∈ source.allSteps outline
        ∧ reference = definitionPointer (names c) := by
  obtain ⟨label, requested⟩ := outlined.requested d member
  unfold definitionNode at refers
  cases kind : d.kind with
  | model =>
    rw [kind] at refers
    have inside : ∀ step ∈ source.bodySteps d.type, step ∈ source.allSteps outline :=
      mem_allSteps_of_body member kind
    obtain ⟨props, found⟩ := outlined.exists_properties inside
    dsimp only at refers
    unfold classBody at refers
    rw [found] at refers
    rcases sound_body plain found refers with root | ⟨c, label, kind, step, same⟩
    · exact .inl root
    · exact .inr ⟨c, label, kind, inside _ step, same⟩
  | fixed schema =>
    rw [kind] at refers requested
    obtain ⟨schema, same, found⟩ := (origin_of_reference requested).resolve_left nofun
    cases same
    exact absurd refers (not_refers_objectFormat found)

/-- What is asked for in the body of a definition is referred to there. -/
theorem complete_definition (plain : source.catalog.table.HasNoFragments)
    (distinct : ∀ c props, source.catalog.table.properties c = .ok props → HasDistinctKeys props)
    {d : Definition} {c : ClassRef} {label : String} {kind : DefinitionKind}
    (step : .reference c label kind ∈ source.definitionSteps d.type d.kind) :
    Refers (source.definitionNode names d) (definitionPointer (names c)) := by
  unfold definitionNode
  cases isModel : d.kind with
  | model =>
    rw [isModel] at step
    obtain ⟨props, found, -⟩ := origin_of_mem_bodySteps step
    dsimp only
    unfold classBody
    rw [found]
    exact complete_body plain found (distinct _ props found) step
  | fixed schema =>
    rw [isModel] at step
    exact absurd step List.not_mem_nil

/-- A root that is a choice mirrors the steps of its subtypes. -/
theorem mirrors_choice (title : String) (subTypes : List ClassRef) :
    source.Mirrors names
      (Refers (.dict (Node.single "title" (.str title)
        ++ branchesNode (subTypes.map fun s => definitionReference (names s)))))
      (subTypes.map source.modelReference) := by
  have kept : ∀ keyword, "title" ≠ keyword → ∀ node : Node,
      (Node.single "title" (.str title) ++ node).get? keyword = node.get? keyword := by
    intro keyword differs node
    rw [Node.get?_append, Node.get?_single, if_neg differs, Option.none_or]
  refine (mirrors_branches subTypes).congr fun _ => refers_congr (kept _ (by decide) _) ?_
  exact fun keyword member => kept _ (ne_of_schemaKeyword "title" member (by decide)) _

theorem sound_root (plain : source.catalog.table.HasNoFragments) (outlined : source.Outlined outline [])
    {reference : Value} (refers : Refers (.dict (source.rootNode names)) reference) :
    (reference = rootPointer ∧ source.subTypes source.root = [])
      ∨ ∃ c label kind, .reference c label kind ∈ source.allSteps outline
        ∧ reference = definitionPointer (names c) := by
  have inside : ∀ step ∈ source.rootSteps, step ∈ source.allSteps outline :=
    fun _ member => List.mem_append_left _ member
  have found : (reference = rootPointer ∧ source.subTypes source.root = [])
      ∨ ∃ c label kind, .reference c label kind ∈ source.rootSteps
        ∧ reference = definitionPointer (names c) := by
    unfold rootNode at refers
    unfold rootSteps at inside ⊢
    cases subTypes : source.subTypes source.root with
    | nil =>
      rw [subTypes] at refers inside
      obtain ⟨props, found⟩ := outlined.exists_properties inside
      dsimp only at refers
      unfold classBody at refers
      rw [found] at refers
      exact (sound_body plain found refers).imp_left fun root => ⟨root.1, rfl⟩
    | cons first rest =>
      rw [subTypes] at refers
      refine ((mirrors_choice _ (first :: rest)).sound reference refers).imp_left fun root => ?_
      rw [subTypes] at root
      cases root.2
  exact found.imp_right fun ⟨c, label, kind, step, same⟩ => ⟨c, label, kind, inside _ step, same⟩

theorem complete_root (plain : source.catalog.table.HasNoFragments)
    (distinct : ∀ c props, source.catalog.table.properties c = .ok props → HasDistinctKeys props)
    {c : ClassRef} {label : String} {kind : DefinitionKind}
    (step : .reference c label kind ∈ source.rootSteps) :
    Refers (.dict (source.rootNode names)) (definitionPointer (names c)) := by
  unfold rootSteps at step
  unfold rootNode
  cases subTypes : source.subTypes source.root with
  | nil =>
    rw [subTypes] at step
    obtain ⟨props, found, -⟩ := origin_of_mem_bodySteps step
    dsimp only
    unfold classBody
    rw [found]
    exact complete_body plain found (distinct _ props found) step
  | cons first rest =>
    rw [subTypes] at step
    exact (mirrors_choice _ (first :: rest)).complete c label kind step

/-- Without subtypes the top level of the document is the body of the root. -/
theorem hasBody_document (plain : source.catalog.table.HasNoFragments) {props : List Property}
    (noSubTypes : source.subTypes source.root = [])
    (found : source.catalog.table.properties source.root = .ok props) :
    (source.document outline).HasBody (source.bodyNode outline.nameOf source.root props) := by
  have root : source.rootNode outline.nameOf
      = source.bodyNode outline.nameOf source.root props := by
    unfold rootNode classBody
    rw [noSubTypes, found]
  constructor
  · rw [get?_document (plain.config _), if_neg (by decide), root,
      get?_body (plain.config _) (by decide)]
    rfl
  · intro keyword value at?
    have differs : definitionsKeyword ≠ keyword := by
      rintro rfl
      rw [← root, get?_root (plain.config _) (by decide)] at at?
      cases at?
    rw [get?_document (plain.config _), if_neg differs, root, at?, Option.some_or]

/-! ### Main result -/

theorem isClosed_document (wellFormed : source.catalog.WellFormed)
    (isOver : source.registry.IsOver source.catalog.table) (plain : source.catalog.table.HasNoFragments)
    (outlined : source.Outlined outline []) : source.IsClosed outline (source.document outline) := by
  refine ⟨?_, ?_, ?_, ?_, ?_, ?_⟩
  · intro reference refers
    have foreseen : (reference = rootPointer ∧ source.subTypes source.root = [])
        ∨ ∃ c label kind, .reference c label kind ∈ source.allSteps outline
          ∧ reference = definitionPointer (outline.nameOf c) := by
      rcases (refers_document plain).mp refers with atRoot | ⟨d, member, inDefinition⟩
      · exact sound_root plain outlined atRoot
      · exact sound_definition plain outlined member inDefinition
    refine foreseen.imp_left fun ⟨same, noSubTypes⟩ => ⟨same, ?_⟩
    obtain ⟨props, found⟩ := outlined.exists_properties (mem_allSteps_of_root noSubTypes)
    exact ⟨props, found, hasBody_document plain noSubTypes found⟩
  · intro c props found p hp
    exact mirrors_property (plain.property found (mem_of_mem_bodyProperties hp))
  · intro c label kind step
    exact outlined.has_of_reference wellFormed isOver step
  · intro c has
    obtain ⟨d, member, rfl⟩ := Outline.has_iff.mp has
    obtain ⟨label, requested⟩ := outlined.requested d member
    refine ⟨label, d.kind, source.definitionNode outline.nameOf d, requested, ?_, ?_⟩
    · rw [Outline.nameOf_of_mem outlined.types member]
      exact definition?_of_mem outlined.names member
    · unfold definitionNode
      cases kind : d.kind with
      | model =>
        obtain ⟨props, found⟩ :=
          outlined.exists_properties (mem_allSteps_of_body member kind)
        refine ⟨props, found, ?_⟩
        dsimp only
        unfold classBody
        rw [found]
      | fixed schema =>
        rw [kind] at requested
        obtain ⟨schema, same, found⟩ := (origin_of_reference requested).resolve_left nofun
        cases same
        exact ⟨found, rfl⟩
  · intro name entry found
    obtain ⟨d, member, rfl⟩ := exists_of_definition? plain found
    exact ⟨d.type, Outline.has_iff.mpr ⟨d, member, rfl⟩,
      Outline.nameOf_of_mem outlined.types member⟩
  · intro c d here there same
    exact Outline.nameOf_injective outlined.types outlined.names here there same

/-- The tree is the document of its outline, unless a step has failed. -/
theorem tree_of_outline (finished : source.outline.2.isNone = true) :
    source.tree = (source.outline.1.notices, .ok (.dict (source.document source.outline.1))) := by
  unfold SchemaSource.tree
  split
  next found => rw [found]
  next found =>
    rw [found] at finished
    cases finished

/-- A document is that of its outline. -/
theorem outlined_of_tree {notices : List Notice} {document : Node}
    (made : source.tree = (notices, .ok (.dict document))) :
    source.Outlined source.outline.1 [] ∧ document = source.document source.outline.1 := by
  unfold tree at made
  split at made
  next outline found =>
    cases made
    rw [found]
    exact ⟨outlined_of_outline found, rfl⟩
  next => cases made

/-- A document is a choice just when its root has subtypes. -/
theorem isSome_choice_of_tree (plain : (source.catalog.table.config source.root).extra.join = none)
    {notices : List Notice} {document : Node} (made : source.tree = (notices, .ok (.dict document))) :
    (document.get? "oneOf").isSome = !(source.subTypes source.root).isEmpty := by
  obtain ⟨-, rfl⟩ := outlined_of_tree made
  rw [get?_document plain, if_neg (by decide)]
  unfold rootNode
  cases source.subTypes source.root with
  | nil =>
    have body : (source.classBody source.outline.1.nameOf source.root).get? "oneOf" = none := by
      unfold classBody
      split
      · exact (get?_body plain (by decide)).trans rfl
      · rfl
    dsimp only
    rw [body]
    rfl
  | cons first rest =>
    dsimp only
    rw [Node.get?_append, Node.get?_single, branchesNode, Node.get?_single]
    rfl

/-- The references in a document without injected fragments are closed and unambiguous. Where no two
properties of a model are written under one name, there is a reference to every definition. -/
theorem tree_isClosed (wellFormed : source.catalog.WellFormed)
    (isOver : source.registry.IsOver source.catalog.table) (plain : source.catalog.table.HasNoFragments)
    {notices : List Notice} {tree : Value} (made : source.tree = (notices, .ok tree)) :
    ∃ (outline : Outline) (document : Node), source.outline = (outline, none) ∧ tree = .dict document
      ∧ source.IsClosed outline document
      ∧ ((∀ c props, source.catalog.table.properties c = .ok props → HasDistinctKeys props) →
        ∀ name entry, document.definition? name = some entry →
          Refers tree (definitionPointer name)) := by
  unfold SchemaSource.tree at made
  split at made
  next outline found =>
    cases made
    have outlined := outlined_of_outline found
    refine ⟨outline, _, found, rfl, isClosed_document wellFormed isOver plain outlined, ?_⟩
    intro distinct name entry present
    obtain ⟨d, member, rfl⟩ := exists_of_definition? plain present
    obtain ⟨label, requested⟩ := outlined.requested d member
    rw [← Outline.nameOf_of_mem outlined.types member]
    refine (refers_document plain).mpr ?_
    rcases List.mem_append.mp requested with atRoot | inDefinition
    · exact .inl (complete_root plain distinct atRoot)
    · obtain ⟨e, memberElse, step⟩ := List.mem_flatMap.mp inDefinition
      exact .inr ⟨e, memberElse, complete_definition plain distinct step⟩
  next => cases made

end SchemaSource

/-! ### An example -/

section

open Example

/-- The models of the figures have no fragments. -/
theorem hasNoFragments_figures : figures.table.HasNoFragments :=
  ClassTable.hasNoFragments_of_declared (by decide)

/-- The properties of the figures have names of their own. -/
theorem hasDistinctKeys_figures (c : ClassRef) (props : List Property)
    (found : figures.table.properties c = .ok props) : HasDistinctKeys props := by
  have parts := (ClassTable.properties_eq_ok found).2
  match c with
  | .basic b =>
    cases b
    case model =>
      obtain ⟨_, none, rfl⟩ := parts
      cases none
      exact List.nodup_nil
    all_goals
      have nothing : props = [] := parts
      exact nothing ▸ List.nodup_nil
  | .declared 0 | .declared 1 | .declared 2 | .declared 3 =>
    cases found
    unfold HasDistinctKeys
    decide
  | .declared (n + 4) =>
    have nothing : props = [] := parts
    exact nothing ▸ List.nodup_nil

/-- The choice among polygons and squares refers to both. -/
theorem tree_isClosed_figure :
    ∃ (outline : Outline) (document : Node),
      (SchemaSource.mk figures [⟨figure, [polygon, square]⟩] figure).outline = (outline, none)
        ∧ (SchemaSource.mk figures [⟨figure, [polygon, square]⟩] figure).IsClosed outline document
        ∧ ∀ name entry, document.definition? name = some entry →
          Refers (.dict document) (definitionPointer name) := by
  have wellFormed : figures.WellFormed := by decide
  have isOver : Registry.IsOver [⟨figure, [polygon, square]⟩] figures.table := by
    unfold Registry.IsOver
    decide
  have finished : (SchemaSource.mk figures [⟨figure, [polygon, square]⟩] figure).outline.2.isNone
      = true := by cbv
  obtain ⟨outline, document, found, same, closed, complete⟩ :=
    SchemaSource.tree_isClosed wellFormed isOver hasNoFragments_figures
      (SchemaSource.tree_of_outline finished)
  exact ⟨outline, document, found, closed, same ▸ complete hasDistinctKeys_figures⟩

end

end ModelSchema
