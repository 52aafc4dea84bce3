import ModelSchema.Proofs.Property
import ModelSchema.Proofs.Schema.Node
import ModelSchema.Schema.Tree

/-!
The nodes of a schema are records, and what their keywords are.

* `SchemaSource.isRecord_form`: the node of an annotation is a record.
* `SchemaSource.get?_propertyNode`: a property adds texts to that node and a mark, and nothing else.
* `SchemaSource.standing?`: the property whose node is under a key in the end.
* `SchemaSource.get?_propertyNodes`: under a key, a body has its discriminator or that property.
* `SchemaSource.plainBody`: a body before a fragment is injected; the whole body, if none is.
-/

namespace ModelSchema.SchemaSource

variable {source : SchemaSource} {names : ClassRef → String} {owner : ClassRef}

/-! ### Annotations -/

theorem isRecord_single {keyword : String} {value : Value} :
    (Node.single keyword value).IsRecord :=
  Node.isRecord_cons Node.isRecord_nil rfl

theorem isRecord_limited {node : Node} {limits : Limits} (record : node.IsRecord) :
    (node.limited limits).IsRecord := by
  have kept : ∀ (node : Node) (type : Option String), node.IsRecord →
      Node.IsRecord (withLimits node limits type) := by
    intro node type record
    unfold withLimits
    dsimp only
    generalize (type.orElse fun _ => typeKeyword? node) = type
    induction limits generalizing node with
    | nil => exact record
    | cons limit rest ih => exact ih _ (Node.isRecord_set record)
  unfold Node.limited
  split
  · exact kept _ _ isRecord_single
  · exact kept _ _ record

theorem isRecord_enumeration {values : List Value} : (enumerationNode values).IsRecord := by
  unfold enumerationNode
  split
  · exact Node.isRecord_cons isRecord_single (by simp)
  · exact isRecord_single

theorem isRecord_leafFormat {leaf : LeafFormat} : Node.IsRecord leaf.node := by
  unfold LeafFormat.node
  split
  · exact Node.isRecord_cons isRecord_single (by simp)
  · exact Node.isRecord_cons Node.isRecord_nil rfl

theorem isRecord_leaf (c : ClassRef) : (source.leafNode names owner c).IsRecord := by
  unfold leafNode
  dsimp only
  split
  · exact isRecord_single
  · split
    · exact isRecord_leafFormat
    · exact Node.isRecord_nil

theorem isRecord_object (c : ClassRef) : (source.objectNode names c).IsRecord := by
  unfold objectNode
  split
  · split <;> exact isRecord_single
  · exact isRecord_single

theorem isRecord_array {element : Node} {unique : Bool} : (arrayNode element unique).IsRecord := by
  unfold arrayNode
  cases unique
  · exact Node.isRecord_cons (Node.isRecord_cons Node.isRecord_nil rfl) (by simp)
  · exact Node.isRecord_cons (Node.isRecord_cons isRecord_single (by simp)) (by simp)

theorem isRecord_fixedArray {elements : List Node} : (fixedArrayNode elements).IsRecord :=
  Node.isRecord_cons (Node.isRecord_cons (Node.isRecord_cons
    (Node.isRecord_cons Node.isRecord_nil rfl) (by simp)) (by simp)) (by simp)

theorem isRecord_map {value : Node} : (mapNode value).IsRecord :=
  Node.isRecord_cons (Node.isRecord_cons Node.isRecord_nil rfl) (by simp)

theorem isRecord_union {options : List Node} {nullable : Bool}
    (records : ∀ node ∈ options, node.IsRecord) : (unionNode options nullable).IsRecord := by
  unfold unionNode
  dsimp only
  split
  · exact isRecord_single
  · split
    · exact records _ List.mem_cons_self
    · exact isRecord_single

mutual

theorem isRecord_form :
    ∀ (form : Form) (limits : Limits), (source.formNode names owner limits form).IsRecord
  | .of _ _ shape, _ => isRecord_shape shape _

theorem isRecord_shape :
    ∀ (shape : Shape) (limits : Limits), (source.shapeNode names owner limits shape).IsRecord
  | .union options _, limits => isRecord_union (isRecord_forms options limits)
  | .any, _ => isRecord_limited Node.isRecord_nil
  | .null, _ => isRecord_limited isRecord_single
  | .leaf c, _ | .enumeration (some c) [], _ => isRecord_limited (isRecord_leaf c)
  | .enumeration none [], _ | .enumeration none (_ :: _), _
  | .enumeration (some _) (_ :: _), _ => isRecord_limited isRecord_enumeration
  | .object c _, _ => isRecord_limited (isRecord_object c)
  | .array _ _, _ => isRecord_limited isRecord_array
  | .fixedArray _, _ => isRecord_limited isRecord_fixedArray
  | .map _ _, _ => isRecord_limited isRecord_map
  | .unsupported _, _ => Node.isRecord_nil

theorem isRecord_forms :
    ∀ (forms : List Form) (limits : Limits),
      ∀ node ∈ source.formNodes names owner limits forms, node.IsRecord
  | [], _ => fun _ member => absurd member List.not_mem_nil
  | form :: rest, limits => by
    intro node member
    rw [formNodes] at member
    rcases List.mem_cons.mp member with rfl | later
    · exact isRecord_form form limits
    · exact isRecord_forms rest limits node later

end

/-! ### Properties -/

theorem get?_textKeyword {keyword other : String} {text : Option String} (differs : keyword ≠ other) :
    (textKeyword keyword text).get? other = none := by
  unfold textKeyword
  split
  · rw [Node.get?_single, if_neg differs]
  · rfl

/-- Other keywords of a property are those of its annotation. -/
theorem get?_propertyNode {p : Property} {keyword : String} (plain : p.extra = none)
    (notTitle : "title" ≠ keyword) (notDescription : "description" ≠ keyword)
    (notMark : "readOnly" ≠ keyword) :
    (source.propertyNode names owner p).get? keyword
      = (source.formNode names owner p.limits (source.catalog.table.form p.annotation)).get?
          keyword := by
  have record : (source.formNode names owner p.limits
      (source.catalog.table.form p.annotation)).IsRecord := isRecord_form _ _
  have updated : Node.get? (Value.assocUpdate (textKeyword "title" p.title
      ++ textKeyword "description" p.description) (source.formNode names owner p.limits
        (source.catalog.table.form p.annotation))) keyword
      = (source.formNode names owner p.limits (source.catalog.table.form p.annotation)).get?
          keyword := by
    rw [Node.get?_update record, Node.get?_append, get?_textKeyword notTitle,
      get?_textKeyword notDescription, Option.or_none, Option.or_none]
  unfold propertyNode
  rw [plain]
  dsimp only
  split
  · rw [Node.get?_set, if_neg notMark, updated]
  · exact updated

/-- The nodes of properties, one set after the other. -/
theorem mem_foldl_set {nodeOf : Property → Value} {schema : Value} :
    ∀ {props : List Property} {start : Node},
      schema ∈ (props.foldl (fun nodes p => Node.set nodes p.publicName (nodeOf p)) start).map (·.2) →
      schema ∈ start.map (·.2) ∨ ∃ p ∈ props, schema = nodeOf p
  | [], _, member => .inl member
  | p :: rest, start, member => by
    rw [List.foldl_cons] at member
    rcases mem_foldl_set member with set | ⟨q, hq, same⟩
    · unfold Node.set Value.assocSet at set
      split at set
      · rw [List.map_map] at set
        obtain ⟨entry, inside, same⟩ := List.mem_map.mp set
        dsimp only [Function.comp] at same
        split at same
        · exact .inr ⟨p, List.mem_cons_self, same.symm⟩
        · exact .inl (List.mem_map.mpr ⟨entry, inside, same⟩)
      · rw [List.map_append] at set
        rcases List.mem_append.mp set with old | new
        · exact .inl old
        · exact .inr ⟨p, List.mem_cons_self, List.mem_singleton.mp new⟩
    · exact .inr ⟨q, List.mem_cons_of_mem _ hq, same⟩

/-- The property that stands under a key where the nodes of properties are set one after the other:
the last one that is written under it. -/
def standing? : List Property → String → Option Property
  | [], _ => none
  | p :: rest, key => (standing? rest key).or (if p.publicName = key then some p else none)

theorem standing?_cons (p : Property) (rest : List Property) (key : String) :
    standing? (p :: rest) key
      = (standing? rest key).or (if p.publicName = key then some p else none) := rfl

theorem mem_of_standing? {p : Property} {key : String} {props : List Property}
    (stands : standing? props key = some p) : p ∈ props ∧ p.publicName = key := by
  induction props with
  | nil => cases stands
  | cons q rest ih =>
    rw [standing?_cons] at stands
    rcases Option.or_eq_some_iff.mp stands with later | ⟨-, here⟩
    · obtain ⟨member, keyed⟩ := ih later
      exact ⟨List.mem_cons_of_mem _ member, keyed⟩
    · obtain ⟨keyed, same⟩ := Option.ite_none_right_eq_some.mp here
      cases same
      exact ⟨List.mem_cons_self, keyed⟩

theorem standing?_eq_none {key : String} {props : List Property} :
    standing? props key = none ↔ key ∉ props.map (·.publicName) := by
  induction props with
  | nil => exact iff_of_true rfl List.not_mem_nil
  | cons p rest ih =>
    rw [standing?_cons, Option.or_eq_none_iff, ih, List.map_cons, List.mem_cons, not_or, eq_comm (a := key)]
    simp [and_comm]

/-- Where names are apart, every property stands under its own. -/
theorem standing?_of_mem {p : Property} {props : List Property}
    (distinct : HasDistinctKeys props) (member : p ∈ props) :
    standing? props p.publicName = some p := by
  obtain ⟨q, stands⟩ : ∃ q, standing? props p.publicName = some q := by
    rw [← Option.ne_none_iff_exists', Ne, standing?_eq_none, not_not]
    exact List.mem_map_of_mem member
  obtain ⟨inside, keyed⟩ := mem_of_standing? stands
  rw [stands, List.inj_on_of_nodup_map distinct inside member keyed]

/-- What is behind a key is the node of the property that stands under it, else what it was. -/
theorem get?_foldl_set {nodeOf : Property → Value} {key : String} {props : List Property}
    {start : Node} :
    Node.get? (props.foldl (fun nodes p => Node.set nodes p.publicName (nodeOf p)) start) key
      = ((standing? props key).map nodeOf).or (start.get? key) := by
  induction props generalizing start with
  | nil => rfl
  | cons p rest ih =>
    rw [List.foldl_cons, ih, Node.get?_set, standing?_cons, Option.map_or, Option.or_assoc]
    by_cases keyed : p.publicName = key <;> simp [keyed]

theorem isRecord_foldl_set {nodeOf : Property → Value} :
    ∀ {props : List Property} {start : Node}, start.IsRecord →
      Node.IsRecord (props.foldl (fun nodes p => Node.set nodes p.publicName (nodeOf p)) start)
  | [], _, record => record
  | p :: rest, _, record => by
    rw [List.foldl_cons]
    exact isRecord_foldl_set (Node.isRecord_set record)

/-! ### Bodies -/

/-- A body keeps the names of its properties apart. -/
theorem hasDistinctKeys_bodyProperties {c : ClassRef} {props : List Property}
    (distinct : HasDistinctKeys props) : HasDistinctKeys (source.bodyProperties c props) :=
  (hasDistinctKeys_orderProperties distinct).sublist (List.filter_sublist.map _)

theorem isRecord_propertyNodes {c : ClassRef} {props : List Property} :
    (source.propertyNodes names c props).IsRecord := by
  unfold propertyNodes
  refine isRecord_foldl_set ?_
  split
  · exact isRecord_single
  · exact Node.isRecord_nil

/-- A property that would be written under the discriminator of a class stands nowhere in its body. -/
theorem standing?_discriminator {c : ClassRef} {props : List Property} {d : String}
    (written : source.discriminator? c = some d) :
    standing? (source.bodyProperties c props) d = none := by
  rw [standing?_eq_none]
  intro member
  obtain ⟨p, inside, same⟩ := List.mem_map.mp member
  have apart := (List.mem_filter.mp inside).2
  simp [written, same] at apart

/-- Under a key, the body of a class has the node of its discriminator, or of the property that stands
there. -/
theorem get?_propertyNodes {c : ClassRef} {props : List Property} {key : String} :
    Node.get? (source.propertyNodes names c props) key
      = if source.discriminator? c = some key then
          some (.dict (discriminatorNode (source.catalog.typeName c)))
        else (standing? (source.bodyProperties c props) key).map fun p =>
          .dict (source.propertyNode names c p) := by
  unfold propertyNodes
  dsimp only
  rw [get?_foldl_set]
  split
  next d written =>
    rw [Node.get?_single]
    by_cases keyed : d = key
    · subst keyed
      rw [standing?_discriminator written, if_pos written, if_pos rfl]
      rfl
    · have apart : ¬ source.discriminator? c = some key := by
        rw [written]
        exact fun same => keyed (Option.some.inj same)
      rw [if_neg keyed, if_neg apart, Option.or_none]
  next unmarked =>
    rw [unmarked, if_neg (Option.some_ne_none key).symm, Node.get?_nil, Option.or_none]

/-- The keys of a body are its discriminator and its properties. -/
theorem mem_keys_of_get?_propertyNodes {c : ClassRef} {props : List Property} {key : String}
    (found : (Node.get? (source.propertyNodes names c props) key).isSome = true) :
    source.discriminator? c = some key
      ∨ key ∈ (source.bodyProperties c props).map (·.publicName) := by
  refine or_iff_not_imp_right.mpr fun absent => ?_
  by_contra unmarked
  rw [get?_propertyNodes, if_neg unmarked, standing?_eq_none.mpr absent] at found
  cases found

/-- The body of a class before a fragment is injected into it. -/
def plainBody (source : SchemaSource) (names : ClassRef → String) (c : ClassRef)
    (props : List Property) : Node :=
  let required := source.requiredNames c props
  [(.str "title", .str (source.catalog.table.title c)), (.str "type", .str "object"),
    (.str "additionalProperties", .bool false),
    (.str "properties", .dict (source.propertyNodes names c props))]
    ++ if required.isEmpty then [] else Node.single "required" (.strings required)

/-- A fragment is injected behind everything else, and then the keywords are put in order. -/
theorem bodyNode_eq_edited {c : ClassRef} {props : List Property} :
    source.bodyNode names c props
      = match (source.catalog.table.config c).extra.join with
        | some fragment =>
          if fragment.isEmpty then source.plainBody names c props
          else Node.reorder (fragment.edited (source.plainBody names c props)
            (source.catalog.table.name c)) bodyKeywords
        | none => source.plainBody names c props := rfl

theorem bodyNode_of_plain {c : ClassRef} {props : List Property}
    (plain : (source.catalog.table.config c).extra.join = none) :
    source.bodyNode names c props = source.plainBody names c props := by
  rw [bodyNode_eq_edited, plain]

theorem get?_plainBody {c : ClassRef} {props : List Property} {keyword : String} :
    (source.plainBody names c props).get? keyword
      = if "title" = keyword then some (.str (source.catalog.table.title c))
        else if "type" = keyword then some (.str "object")
        else if "additionalProperties" = keyword then some (.bool false)
        else if "properties" = keyword then some (.dict (source.propertyNodes names c props))
        else if "required" = keyword ∧ source.requiredNames c props ≠ [] then
          some (.strings (source.requiredNames c props))
        else none := by
  have required : Node.get? (if (source.requiredNames c props).isEmpty = true then []
      else Node.single "required" (.strings (source.requiredNames c props))) keyword
      = if "required" = keyword ∧ source.requiredNames c props ≠ [] then
          some (.strings (source.requiredNames c props))
        else none := by
    cases source.requiredNames c props <;> simp
  unfold plainBody
  dsimp only
  rw [Node.get?_append, required, Node.get?_cons, Node.get?_cons, Node.get?_cons, Node.get?_cons,
    Node.get?_nil]
  by_cases isTitle : "title" = keyword
  · simp [isTitle]
  by_cases isType : "type" = keyword
  · simp [isTitle, isType]
  by_cases isAdditional : "additionalProperties" = keyword
  · simp [isTitle, isType, isAdditional]
  by_cases isProperties : "properties" = keyword
  · simp [isTitle, isType, isAdditional, isProperties]
  · simp [isTitle, isType, isAdditional, isProperties]

theorem isRecord_plainBody {c : ClassRef} {props : List Property} :
    (source.plainBody names c props).IsRecord := by
  have required : Node.IsRecord (if (source.requiredNames c props).isEmpty = true then []
      else Node.single "required" (.strings (source.requiredNames c props))) := by
    split
    · exact Node.isRecord_nil
    · exact isRecord_single
  refine Node.isRecord_cons (Node.isRecord_cons (Node.isRecord_cons (Node.isRecord_cons required
    ?_) ?_) ?_) ?_
  all_goals split <;> simp

/-- The keywords of a body without a fragment. -/
theorem get?_body {c : ClassRef} {props : List Property} {keyword : String}
    (plain : (source.catalog.table.config c).extra.join = none) (notRequired : "required" ≠ keyword) :
    (source.bodyNode names c props).get? keyword
      = if "title" = keyword then some (.str (source.catalog.table.title c))
        else if "type" = keyword then some (.str "object")
        else if "additionalProperties" = keyword then some (.bool false)
        else if "properties" = keyword then some (.dict (source.propertyNodes names c props))
        else none := by
  rw [bodyNode_of_plain plain, get?_plainBody]
  simp only [notRequired, false_and, if_false]

theorem isRecord_body {c : ClassRef} {props : List Property}
    (plain : (source.catalog.table.config c).extra.join = none) :
    (source.bodyNode names c props).IsRecord := by
  rw [bodyNode_of_plain plain]
  exact isRecord_plainBody

end ModelSchema.SchemaSource
