import ModelSchema.Proofs.Schema.Node
import ModelSchema.Validation.Dialect

/-!
The references in a schema.

A `$ref` is a reference where a schema stands, and not where a schema lists properties, values or
definitions by names of their own.

* `Node.innerSchemas`: the schemas directly inside of a node.
* `Refers`: whether a schema, or one inside of it at whatever depth, has a reference.
-/

namespace ModelSchema

namespace Node

/-! ### Schemas inside of schemas -/

/-- The keywords behind which there are schemas. -/
def schemaKeywords : List String :=
  "items" :: (Dialect.draft7.schemaKeywords ++ Dialect.draft7.listKeywords
    ++ Dialect.draft7.tableKeywords)

/-- The schemas behind a keyword: what is there, or each part of it. -/
def schemasBehind (keyword : String) (value : Value) : List Value :=
  if Dialect.draft7.schemaKeywords.contains keyword then [value]
  else
    match keyword, value with
    | _, .collection _ items => items
    | "items", schema => [schema]
    | _, value => value.children

/-- The schemas directly inside of a node. -/
def innerSchemas (node : Node) : List Value :=
  schemaKeywords.flatMap fun keyword => ((node.get? keyword).map (schemasBehind keyword)).getD []

theorem mem_innerSchemas {node : Node} {schema : Value} :
    schema ∈ node.innerSchemas ↔ ∃ keyword ∈ schemaKeywords, ∃ value,
      node.get? keyword = some value ∧ schema ∈ schemasBehind keyword value := by
  unfold innerSchemas
  rw [List.mem_flatMap]
  refine exists_congr fun keyword => and_congr_right fun _ => ?_
  cases node.get? keyword <;> simp

/-- Nodes with the same keywords of schemas have the same schemas inside. -/
theorem innerSchemas_congr {node other : Node}
    (same : ∀ keyword ∈ schemaKeywords, node.get? keyword = other.get? keyword) :
    node.innerSchemas = other.innerSchemas :=
  List.flatMap_congr fun keyword member => by rw [same keyword member]

/-- What is behind the only keyword of schemas that a node has. -/
theorem innerSchemas_of_one {node : Node} {keyword : String} {value : Value}
    (isKeyword : keyword ∈ schemaKeywords) (found : node.get? keyword = some value)
    (others : ∀ other ∈ schemaKeywords, other ≠ keyword → node.get? other = none) :
    node.innerSchemas = schemasBehind keyword value := by
  have nodup : schemaKeywords.Nodup := by decide
  unfold innerSchemas
  obtain ⟨before, after, split⟩ := List.append_of_mem isKeyword
  rw [split] at others nodup ⊢
  have nothing : ∀ part : List String, (∀ other ∈ part, node.get? other = none) →
      part.flatMap (fun other => ((node.get? other).map (schemasBehind other)).getD []) = [] := by
    intro part none
    rw [List.flatMap_eq_nil_iff]
    intro other member
    rw [none other member]
    rfl
  rw [List.nodup_append, List.nodup_cons] at nodup
  rw [List.flatMap_append, List.flatMap_cons, found, nothing before, nothing after,
    List.nil_append, List.append_nil]
  · rfl
  · intro other member
    refine others other (List.mem_append_right _ (List.mem_cons_of_mem _ member)) ?_
    rintro rfl
    exact nodup.2.1.1 member
  · intro other member
    exact others other (List.mem_append_left _ member)
      (nodup.2.2 other member keyword List.mem_cons_self)

end Node

/-! ### References -/

/-- Whether a schema has a reference, itself or inside. -/
inductive Refers : Value → Value → Prop where
  | here {node : Node} {reference : Value} :
      node.get? "$ref" = some reference → Refers (.dict node) reference
  | inner {node : Node} {schema reference : Value} :
      schema ∈ node.innerSchemas → Refers schema reference → Refers (.dict node) reference

variable {node other : Node} {reference : Value}

theorem refers_iff :
    Refers (.dict node) reference
      ↔ node.get? "$ref" = some reference ∨ ∃ schema ∈ node.innerSchemas, Refers schema reference := by
  constructor
  · intro h
    cases h with
    | here found => exact .inl found
    | inner member inside => exact .inr ⟨_, member, inside⟩
  · rintro (found | ⟨schema, member, inside⟩)
    · exact .here found
    · exact .inner member inside

theorem not_refers_bool {b : Bool} : ¬ Refers (.bool b) reference := nofun

/-- Keywords that hold no schema do not count. -/
theorem refers_congr (sameReference : node.get? "$ref" = other.get? "$ref")
    (same : ∀ keyword ∈ Node.schemaKeywords, node.get? keyword = other.get? keyword) :
    Refers (.dict node) reference ↔ Refers (.dict other) reference := by
  rw [refers_iff, refers_iff, sameReference, Node.innerSchemas_congr same]

/-- A node without schemas and without a reference. -/
theorem not_refers_of_none (noReference : node.get? "$ref" = none)
    (nothing : ∀ keyword ∈ Node.schemaKeywords, node.get? keyword = none) :
    ¬ Refers (.dict node) reference := by
  have inner : node.innerSchemas = [] := by
    rw [Node.innerSchemas, List.flatMap_eq_nil_iff]
    intro keyword member
    rw [nothing keyword member]
    rfl
  rw [refers_iff, noReference, inner]
  simp

/-! ### The nodes of shapes -/

/-- The only schemas of a node with one list of schemas are those in the list. -/
theorem innerSchemas_single {keyword : String} (isList : keyword ∈ Dialect.draft7.listKeywords)
    {items : List Value} : (Node.single keyword (.list items)).innerSchemas = items := by
  have notOne : ∀ keyword ∈ Dialect.draft7.listKeywords,
      Dialect.draft7.schemaKeywords.contains keyword = false := by decide
  have isKeyword : keyword ∈ Node.schemaKeywords :=
    List.mem_cons_of_mem _ (List.mem_append_left _ (List.mem_append_right _ isList))
  rw [Node.innerSchemas_of_one isKeyword (by rw [Node.get?_single, if_pos rfl])]
  · rw [Node.schemasBehind, notOne keyword isList, if_neg Bool.false_ne_true]
  · intro other _ differs
    rw [Node.get?_single, if_neg (Ne.symm differs)]

theorem refers_list {keyword : String} (isList : keyword ∈ Dialect.draft7.listKeywords)
    {nodes : List Node} :
    Refers (.dict (Node.single keyword (.list (nodes.map .dict)))) reference
      ↔ ∃ node ∈ nodes, Refers (.dict node) reference := by
  have noReference : (Node.single keyword (.list (nodes.map .dict))).get? "$ref" = none := by
    rw [Node.get?_single, if_neg]
    rintro rfl
    simp [Dialect.listKeywords] at isList
  rw [refers_iff, innerSchemas_single isList, noReference]
  simp

/-- A node whose keywords hold no schemas and no reference. -/
theorem not_refers_of_plain (plain : ∀ entry ∈ node, ∃ keyword,
    entry.1 = .str keyword ∧ keyword ∉ "$ref" :: Node.schemaKeywords) :
    ¬ Refers (.dict node) reference := by
  have absent : ∀ keyword ∈ "$ref" :: Node.schemaKeywords, node.get? keyword = none := by
    intro keyword member
    rw [Node.get?_eq, Option.map_eq_none_iff, List.find?_eq_none]
    intro entry inside same
    obtain ⟨own, key, notSchema⟩ := plain entry inside
    rw [key, beq_iff_eq] at same
    cases same
    exact notSchema member
  exact not_refers_of_none (absent _ List.mem_cons_self)
    fun keyword member => absent keyword (List.mem_cons_of_mem _ member)

theorem innerSchemas_reference {target : Value} : (Node.single "$ref" target).innerSchemas = [] := by
  simp [Node.innerSchemas, Node.schemaKeywords, Dialect.schemaKeywords, Dialect.listKeywords,
    Dialect.tableKeywords]

theorem refers_reference {target : Value} :
    Refers (.dict (Node.single "$ref" target)) reference ↔ reference = target := by
  rw [refers_iff, innerSchemas_reference]
  simp [eq_comm]

theorem refers_branches {branches : List Node} :
    Refers (.dict (branchesNode branches)) reference
      ↔ ∃ node ∈ branches, Refers (.dict node) reference :=
  refers_list (by decide)

theorem not_refers_notIncluded : ¬ Refers (.dict notIncluded) reference := by
  refine not_refers_of_plain fun entry member => ?_
  rcases List.mem_pair.mp member with rfl | rfl
  · exact ⟨"type", rfl, by decide⟩
  · exact ⟨"title", rfl, by decide⟩

theorem refers_union {options : List Node} {nullable : Bool} :
    Refers (.dict (unionNode options nullable)) reference
      ↔ ∃ node ∈ options, Refers (.dict node) reference := by
  obtain ⟨inner, made, ofInner⟩ : ∃ inner : Node,
      unionNode options nullable
        = (if nullable then Node.single "oneOf" (.list ([notIncluded, inner].map .dict)) else inner)
      ∧ (Refers (.dict inner) reference ↔ ∃ node ∈ options, Refers (.dict node) reference) := by
    refine ⟨_, rfl, ?_⟩
    split
    · simp
    · exact refers_list (by decide)
  rw [made]
  split
  · rw [refers_list (by decide), ← ofInner]
    simp [not_refers_notIncluded]
  · exact ofInner

/-- A keyword of schemas is none that holds something else. -/
theorem ne_of_schemaKeyword (plain : String) {keyword : String}
    (isKeyword : keyword ∈ Node.schemaKeywords) (notKeyword : plain ∉ Node.schemaKeywords) :
    plain ≠ keyword := by
  rintro rfl
  exact notKeyword isKeyword

theorem innerSchemas_array {element : Node} {unique : Bool} :
    (arrayNode element unique).innerSchemas = [.dict element] := by
  have found : (arrayNode element unique).get? "items" = some (.dict element) := by
    cases unique <;> simp [arrayNode]
  rw [Node.innerSchemas_of_one (by decide) found]
  · rfl
  · intro other member differs
    have type := ne_of_schemaKeyword "type" member (by decide)
    have uniqueItems := ne_of_schemaKeyword "uniqueItems" member (by decide)
    cases unique <;> simp [arrayNode, type, uniqueItems, Ne.symm differs]

theorem refers_array {element : Node} {unique : Bool} :
    Refers (.dict (arrayNode element unique)) reference ↔ Refers (.dict element) reference := by
  rw [refers_iff, innerSchemas_array]
  cases unique <;> simp [arrayNode]

theorem innerSchemas_fixedArray {elements : List Node} :
    (fixedArrayNode elements).innerSchemas = elements.map .dict := by
  have found : (fixedArrayNode elements).get? "items" = some (.list (elements.map .dict)) := by
    simp [fixedArrayNode]
  rw [Node.innerSchemas_of_one (by decide) found]
  · rfl
  · intro other member differs
    have type := ne_of_schemaKeyword "type" member (by decide)
    have minItems := ne_of_schemaKeyword "minItems" member (by decide)
    have maxItems := ne_of_schemaKeyword "maxItems" member (by decide)
    simp [fixedArrayNode, type, minItems, maxItems, Ne.symm differs]

theorem refers_fixedArray {elements : List Node} :
    Refers (.dict (fixedArrayNode elements)) reference
      ↔ ∃ node ∈ elements, Refers (.dict node) reference := by
  rw [refers_iff, innerSchemas_fixedArray]
  simp [fixedArrayNode]

theorem innerSchemas_map {value : Node} : (mapNode value).innerSchemas = [.dict value] := by
  have found : (mapNode value).get? "additionalProperties" = some (.dict value) := by
    simp [mapNode]
  rw [Node.innerSchemas_of_one (by decide) found]
  · rfl
  · intro other member differs
    have type := ne_of_schemaKeyword "type" member (by decide)
    simp [mapNode, type, Ne.symm differs]

theorem refers_map {value : Node} :
    Refers (.dict (mapNode value)) reference ↔ Refers (.dict value) reference := by
  rw [refers_iff, innerSchemas_map]
  simp [mapNode]

theorem not_refers_enumeration {values : List Value} :
    ¬ Refers (.dict (enumerationNode values)) reference := by
  refine not_refers_of_plain fun entry member => ?_
  rcases List.mem_append.mp member with inType | inEnum
  · split at inType
    · cases List.mem_singleton.mp inType
      exact ⟨"type", rfl, by decide⟩
    · exact absurd inType List.not_mem_nil
  · cases List.mem_singleton.mp inEnum
    exact ⟨"enum", rfl, by decide⟩

theorem not_refers_leaf {leaf : LeafFormat} : ¬ Refers (.dict leaf.node) reference := by
  refine not_refers_of_plain fun entry member => ?_
  rcases List.mem_cons.mp member with rfl | inFormat
  · exact ⟨"type", rfl, by decide⟩
  · split at inFormat
    · cases List.mem_singleton.mp inFormat
      exact ⟨"format", rfl, by decide⟩
    · exact absurd inFormat List.not_mem_nil

/-- Only instants are written as objects of their own. -/
theorem eq_instantFormat {table : ClassTable} {c : ClassRef} {format : String × Value}
    (found : table.objectFormat? c = some format) : format = instantFormat := by
  obtain ⟨ancestor, -, found⟩ := List.exists_of_findSome?_eq_some found
  cases ancestor with
  | basic b => cases b <;> first | exact (Option.some.inj found).symm | cases found
  | declared _ => cases found

/-- The schema of an instant. -/
theorem not_refers_objectFormat {table : ClassTable} {c : ClassRef} {label : String}
    {schema : Value} (found : table.objectFormat? c = some (label, schema)) :
    ¬ Refers schema reference := by
  cases eq_instantFormat found
  have integer : ¬ Refers (.record [("type", .str "integer")]) reference := by
    refine not_refers_of_plain fun entry member => ?_
    cases List.mem_singleton.mp member
    exact ⟨"type", rfl, by decide⟩
  have inner : Node.innerSchemas [(.str "type", .str "object"),
      (.str "additionalProperties", .bool false),
      (.str "properties", .record
        [("nanos", .record [("type", .str "integer")]),
          ("seconds", .record [("type", .str "integer")])]),
      (.str "required", .strings ["nanos", "seconds"])]
      = [.bool false, .record [("type", .str "integer")], .record [("type", .str "integer")]] := by
    simp [Node.innerSchemas, Node.schemaKeywords, Node.schemasBehind, Dialect.schemaKeywords,
      Dialect.listKeywords, Dialect.tableKeywords, Value.record, Value.children]
  intro refers
  rcases refers_iff.mp refers with found | ⟨schema, member, inside⟩
  · simp at found
  · have member := (congrArg (schema ∈ ·) inner).mp member
    simp only [List.mem_cons, List.not_mem_nil, or_false] at member
    rcases member with rfl | rfl | rfl
    · exact not_refers_bool inside
    · exact integer inside
    · exact integer inside

/-! ### Limits -/

/-- Limits set no keyword of schemas, and no reference. -/
theorem keyword_ne {key : LimitKey} {type : Option String} {keyword : String}
    (member : keyword ∈ "$ref" :: Node.schemaKeywords) : key.keyword type ≠ keyword := by
  have unit : LimitKey.lengthUnit type = "Items" ∨ LimitKey.lengthUnit type = "Properties"
      ∨ LimitKey.lengthUnit type = "Length" := by
    unfold LimitKey.lengthUnit
    split
    · exact .inl rfl
    · split
      · exact .inr (.inl rfl)
      · exact .inr (.inr rfl)
  rintro rfl
  cases key <;> rcases unit with unit | unit | unit <;>
    simp [LimitKey.keyword, LimitKey.name, unit, Node.schemaKeywords, Dialect.schemaKeywords,
      Dialect.listKeywords, Dialect.tableKeywords] at member

theorem get?_withLimits {limits : Limits} {type : Option String} {keyword : String}
    (member : keyword ∈ "$ref" :: Node.schemaKeywords) :
    Node.get? (withLimits node limits type) keyword = node.get? keyword := by
  unfold withLimits
  dsimp only
  generalize (type.orElse fun _ => typeKeyword? node) = type
  induction limits generalizing node with
  | nil => rfl
  | cons limit rest ih =>
    rw [List.foldl_cons, ih]
    exact Node.get?_set.trans (if_neg (keyword_ne member))

theorem innerSchemas_withLimits {limits : Limits} {type : Option String} :
    Node.innerSchemas (withLimits node limits type) = node.innerSchemas :=
  Node.innerSchemas_congr fun _ member => get?_withLimits (List.mem_cons_of_mem _ member)

/-- A node refers to what it refers to without limits. -/
theorem refers_limited {limits : Limits} :
    Refers (.dict (node.limited limits)) reference ↔ Refers (.dict node) reference := by
  have kept : ∀ (node : Node) (type : Option String),
      Refers (.dict (withLimits node limits type)) reference ↔ Refers (.dict node) reference := by
    intro node type
    rw [refers_iff, refers_iff, get?_withLimits List.mem_cons_self, innerSchemas_withLimits]
  unfold Node.limited
  split
  · rw [kept]
    have listed : Refers (.dict (Node.single "allOf" (.list ([node].map .dict)))) reference
        ↔ ∃ inner ∈ [node], Refers (.dict inner) reference := refers_list (by decide)
    refine listed.trans ?_
    simp
  · exact kept node none

end ModelSchema
