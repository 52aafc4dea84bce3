import ModelSchema.Proofs.Agreement.Annotations
import ModelSchema.Proofs.Schema.Mirroring

/-!
The bodies of models, as the validator reads them.

A body is a title and an object without other properties (`bodyNode_eq`). Its properties are the
nodes of annotations with texts in front and a mark behind (`propertyNode_eq`), and neither texts nor
marks change what is found wrong with a value (`judged_property`).

* `isUsual_content`: besides its title, a body has the keywords that the validator is described for.
* `settles_discriminator`: a discriminator asks for its text.
-/

namespace ModelSchema

theorem Value.alike_str {likeness : Likeness} {text other : String} :
    (Value.str text).alike likeness (.str other) = (text == other) := by
  change (Value.str text).same (.str other) = _
  rw [Value.same_str, Value.text?_str]
  rfl

namespace SchemaSource

variable {source : SchemaSource} {names : ClassRef → String} {c : ClassRef} {p : Property}
  {props : List Property} {validator : Validator} {value : Value}

/-! ### Properties -/

/-- The node of the annotation of a property. -/
def innerNode (source : SchemaSource) (names : ClassRef → String) (c : ClassRef) (p : Property) :
    Node :=
  source.formNode names c p.limits (source.catalog.table.form p.annotation)

theorem isRemark_textKeyword {keyword : String} {text : Option String}
    (noKeyword : Keyword.ofName? .draft7 keyword = none) : (textKeyword keyword text).IsRemark := by
  unfold textKeyword
  split
  · intro entry member
    cases List.mem_singleton.mp member
    exact ⟨_, _, rfl, noKeyword⟩
  · exact Node.isRemark_nil

theorem isRemark_append {node other : Node} (remark : node.IsRemark) (remarkElse : other.IsRemark) :
    Node.IsRemark (node ++ other) := by
  intro entry member
  rcases List.mem_append.mp member with here | there
  · exact remark entry here
  · exact remarkElse entry there

theorem isEndless_textKeyword {keyword : String} {text : Option String} :
    (Value.dict (textKeyword keyword text)).isEndless = false := by
  unfold textKeyword
  split <;> rfl

/-- The mark of a property that is only read. -/
def markOf (p : Property) : Node :=
  if p.readOnly then Node.single "readOnly" (.bool true) else []

/-- A property has the node of its annotation between texts and a mark. -/
theorem propertyNode_eq (plain : p.extra = none) (usual : (source.innerNode names c p).IsUsual) :
    source.propertyNode names c p
      = textKeyword "title" p.title ++ textKeyword "description" p.description
        ++ source.innerNode names c p ++ markOf p := by
  have absent : ∀ keyword, keyword ∉ Node.usedKeywords →
      (source.innerNode names c p).get? keyword = none := fun _ => usual.get?_eq_none
  have fresh : ∀ keyword, ((source.innerNode names c p).get? keyword).isSome = true →
      Node.get? (textKeyword "title" p.title ++ textKeyword "description" p.description) keyword
        = none := by
    intro keyword there
    have notTitle : "title" ≠ keyword := by
      rintro rfl
      rw [absent _ (by decide)] at there
      cases there
    have notDescription : "description" ≠ keyword := by
      rintro rfl
      rw [absent _ (by decide)] at there
      cases there
    rw [Node.get?_append, get?_textKeyword notTitle, get?_textKeyword notDescription]
    rfl
  have updated := Node.update_eq_append (isRecord_form _ _) fresh
  have unmarked : Node.get? (textKeyword "title" p.title
      ++ textKeyword "description" p.description ++ source.innerNode names c p) "readOnly"
      = none := by
    rw [Node.get?_append, Node.get?_append, get?_textKeyword (by decide),
      get?_textKeyword (by decide), absent _ (by decide)]
    rfl
  unfold propertyNode markOf
  rw [plain]
  dsimp only
  rw [show Value.assocUpdate (textKeyword "title" p.title ++ textKeyword "description" p.description)
    (source.formNode names c p.limits (source.catalog.table.form p.annotation)) = _ from updated]
  split
  · exact Node.set_eq_append unmarked
  · exact (List.append_nil _).symm

theorem isInner_property (plain : p.extra = none) (usual : (source.innerNode names c p).IsUsual)
    (ends : (Value.dict (source.innerNode names c p)).isEndless = false) :
    (source.propertyNode names c p).IsInner := by
  have others : ∀ keyword, keyword ∉ Node.usedKeywords → "title" ≠ keyword →
      "description" ≠ keyword → "readOnly" ≠ keyword →
      (source.propertyNode names c p).get? keyword = none := by
    intro keyword unused notTitle notDescription notMark
    rw [get?_propertyNode plain notTitle notDescription notMark]
    exact usual.get?_eq_none unused
  refine ⟨?_, others _ (by decide) (by decide) (by decide) (by decide),
    others _ (by decide) (by decide) (by decide) (by decide)⟩
  have mark : (Value.dict (markOf p)).isEndless = false := by
    unfold markOf
    split <;> rfl
  rw [propertyNode_eq plain usual, Value.isEndless_append, Value.isEndless_append,
    Value.isEndless_append, isEndless_textKeyword, isEndless_textKeyword, ends, mark]
  rfl

/-- The texts and the mark of a property change nothing. -/
theorem judged_property (isDraft7 : validator.dialect = .draft7) (plain : p.extra = none)
    (usual : (source.innerNode names c p).IsUsual)
    (ends : (Value.dict (source.innerNode names c p)).isEndless = false) :
    validator.judged (.dict (source.propertyNode names c p)) value
      = validator.judged (.dict (source.innerNode names c p)) value := by
  have endsAll := (isInner_property plain usual ends).ends
  have mark : (markOf p).IsRemark := by
    unfold markOf
    split
    · intro entry member
      cases List.mem_singleton.mp member
      exact ⟨_, _, rfl, rfl⟩
    · exact Node.isRemark_nil
  rw [propertyNode_eq plain usual] at endsAll ⊢
  funext depth
  exact Validator.judged_remarked isDraft7 endsAll usual
    (isRemark_append (isRemark_textKeyword rfl) (isRemark_textKeyword rfl)) mark

/-! ### Discriminators -/

theorem isInner_discriminator {name : String} : (discriminatorNode name).IsInner :=
  ⟨rfl, by simp [discriminatorNode], by simp [discriminatorNode]⟩

/-- A discriminator asks for its text. -/
theorem settles_discriminator (isDraft7 : validator.dialect = .draft7) {name : String} :
    Settles (validator.judged (.dict (discriminatorNode name)) value)
      (JsonType.string.holds .draft7 value
        && (Value.str name).alike Assertion.listedLikeness value) := by
  have all : [JsonType.string.holds .draft7 value,
      [Value.str name].any fun each => each.alike Assertion.listedLikeness value, true].all id
      = (JsonType.string.holds .draft7 value
        && (Value.str name).alike Assertion.listedLikeness value) := by simp
  rw [← all]
  refine Validator.settles_entries isDraft7 rfl (by simp [discriminatorNode])
    (.cons ?_ (.cons ?_ (.cons ?_ .nil)))
  · exact Validator.settles_type isDraft7
      (show JsonType.ofName? .draft7 "string" = some .string from rfl)
  · exact Validator.settles_enum isDraft7 rfl
  · exact Validator.settles_ignored isDraft7 rfl

theorem answer_discriminator (isDraft7 : validator.dialect = .draft7) {name text : String} :
    validator.answer (.dict (discriminatorNode name)) (.str text) = (name == text) := by
  rw [Validator.answer_eq (settles_discriminator isDraft7), Value.alike_str]
  exact Bool.true_and _

/-! ### Objects -/

/-- The discriminator of a body with its node. -/
def markerFields (source : SchemaSource) (c : ClassRef) : List (String × Value) :=
  (source.discriminator? c).toList.map fun d =>
    (d, .dict (discriminatorNode (source.catalog.typeName c)))

/-- The properties of a body with their nodes. -/
def propertyFields (source : SchemaSource) (names : ClassRef → String) (c : ClassRef)
    (props : List Property) : List (String × Value) :=
  (source.bodyProperties c props).map fun p =>
    (p.publicName, .dict (source.propertyNode names c p))

theorem keys_markerFields : (source.markerFields c).map (·.1) = (source.discriminator? c).toList := by
  simp [markerFields, Function.comp_def]

theorem keys_propertyFields : (source.propertyFields names c props).map (·.1)
    = (source.bodyProperties c props).map (·.publicName) := by
  simp [propertyFields, Function.comp_def]

/-- No property in a body has the name of the discriminator. -/
theorem notMem_keys_propertyFields {d : String} (isDiscriminator : source.discriminator? c = some d) :
    d ∉ (source.propertyFields names c props).map (·.1) := by
  rw [keys_propertyFields]
  intro isKey
  obtain ⟨p, member, same⟩ := List.mem_map.mp isKey
  have differs := (List.mem_filter.mp member).2
  rw [same, isDiscriminator] at differs
  simp at differs

theorem nodup_keys_propertyFields (distinct : HasDistinctKeys props) :
    ((source.propertyFields names c props).map (·.1)).Nodup := by
  rw [keys_propertyFields]
  exact hasDistinctKeys_bodyProperties distinct

/-- The nodes of the properties stand behind that of the discriminator. -/
theorem propertyNodes_eq (distinct : HasDistinctKeys props) :
    source.propertyNodes names c props
      = Node.ofFields (source.markerFields c ++ source.propertyFields names c props) := by
  have record : (Node.ofFields (source.propertyFields names c props)).IsRecord :=
    ⟨_, nodup_keys_propertyFields distinct, rfl⟩
  have folded : ∀ first : Node, (source.bodyProperties c props).foldl (fun nodes p =>
      Node.set nodes p.publicName (.dict (source.propertyNode names c p))) first
      = Value.assocUpdate first (Node.ofFields (source.propertyFields names c props)) := by
    intro first
    unfold Value.assocUpdate Node.ofFields propertyFields
    rw [List.map_map, List.foldl_map]
    rfl
  have apart : ∀ d, source.discriminator? c = some d →
      (Node.ofFields (source.propertyFields names c props)).get? d = none :=
    fun d isDiscriminator => Node.get?_ofFields_eq_none.mpr
      (notMem_keys_propertyFields isDiscriminator)
  unfold propertyNodes markerFields
  dsimp only
  rw [folded]
  cases isDiscriminator : source.discriminator? c with
  | none => exact Node.update_nil record
  | some d =>
    refine Node.update_eq_append record fun keyword there => ?_
    change (Node.single d _).get? keyword = none
    rw [Node.get?_single]
    split
    next same =>
      subst same
      rw [apart d isDiscriminator] at there
      cases there
    next => rfl

/-- What a body consists of besides its title. -/
def contentNode (source : SchemaSource) (names : ClassRef → String) (c : ClassRef)
    (props : List Property) : Node :=
  Validator.closedNode (source.propertyNodes names c props) (source.requiredNames c props)

theorem bodyNode_eq (plain : (source.catalog.table.config c).extra.join = none) :
    source.bodyNode names c props
      = Node.single "title" (.str (source.catalog.table.title c))
        ++ source.contentNode names c props :=
  bodyNode_of_plain plain

theorem isUsual_content : (source.contentNode names c props).IsUsual := by
  unfold contentNode Validator.closedNode
  have any : ∀ {keyword argument}, keyword ∈ Node.usedKeywords → keyword ≠ "type" →
      keyword ≠ "$ref" → Node.IsArgument keyword argument := Node.isArgument_of_ne
  refine Node.isUsual_append (Node.isUsual_cons (Node.isArgument_type rfl)
    (Node.isUsual_cons (any (by decide) (by decide) (by decide))
      (Node.isUsual_cons (any (by decide) (by decide) (by decide)) Node.isUsual_nil))) ?_
  split
  · exact Node.isUsual_nil
  · exact Node.isUsual_cons (any (by decide) (by decide) (by decide)) Node.isUsual_nil

end SchemaSource

end ModelSchema
