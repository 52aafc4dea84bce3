import ModelSchema.Proofs.Agreement.Reading

/-!
A document comes to an answer about every value.

References in a document can go around in circles, but not without a step into the value: what a body
asks for is asked of the properties of an object. So the bodies decide on a value because all
annotations decide on the smaller values in it, and annotations do when bodies do.

* `settles_choice`: the answer for a class with subtypes, in terms of the answers of their bodies.
* `decides_annotation`: an annotation decides on a value when bodies do on the values in it.
* `bodiesDecide`: bodies decide on all values.
* `answer_content`: what a body asks of an object.
-/

namespace ModelSchema

/-! ### Parts of values are smaller -/

namespace Value

theorem sizeOf_lt_of_mem_list {item : Value} {items : List Value} (member : item ∈ items) :
    sizeOf item < sizeOf (Value.list items) := by
  have smaller := List.sizeOf_lt_of_mem member
  simp only [Value.list, Value.collection.sizeOf_spec]
  omega

theorem sizeOf_lt_of_mem_dict {entry : Value × Value} {entries : List (Value × Value)}
    (member : entry ∈ entries) : sizeOf entry.2 < sizeOf (Value.dict entries) := by
  have smaller := List.sizeOf_lt_of_mem member
  have part : sizeOf entry.2 < sizeOf entry := by
    obtain ⟨key, value⟩ := entry
    simp only [Prod.mk.sizeOf_spec]
    omega
  simp only [Value.dict.sizeOf_spec]
  omega

theorem sizeOf_lt_of_get? {entries : Node} {name : String} {part : Value}
    (found : entries.get? name = some part) : sizeOf part < sizeOf (Value.dict entries) := by
  rw [Node.get?_eq] at found
  obtain ⟨entry, at?, rfl⟩ := Option.map_eq_some_iff.mp found
  exact sizeOf_lt_of_mem_dict (List.mem_of_find?_eq_some at?)

theorem sizeOf_lt_of_mem_keyed {entries : Node} {triple : Value × String × Value}
    (member : triple ∈ keyed (.dict entries)) :
    sizeOf triple.2.2 < sizeOf (Value.dict entries) :=
  sizeOf_lt_of_mem_dict (Validator.mem_of_mem_keyed member)

end Value

namespace Validator

variable {validator : Validator} {node target : Node} {value : Value}

theorem Leads.decides (leads : validator.Leads node target)
    (decides : validator.Decides (.dict target) value) : validator.Decides (.dict node) value :=
  ⟨_, leads value _ decides.settles⟩

theorem Leads.answer_eq (leads : validator.Leads node target)
    (decides : validator.Decides (.dict target) value) :
    validator.answer (.dict node) value = validator.answer (.dict target) value :=
  Validator.answer_eq (leads value _ decides.settles)

/-- The schema of an object decides on a value when its properties decide on the parts of it. -/
theorem decides_closed (isDraft7 : validator.dialect = .draft7) {table : Node}
    {required : List String}
    (each : ∀ entry ∈ table, ∃ (name : String) (inner : Node), entry = (.str name, .dict inner)
      ∧ inner.IsInner
      ∧ ∀ part, sizeOf part < sizeOf value → validator.Decides (.dict inner) part) :
    validator.Decides (.dict (closedNode table required)) value := by
  cases isObject : JsonType.object.holds .draft7 value with
  | true =>
    obtain ⟨entries, rfl⟩ := exists_of_isObject isObject
    refine ⟨_, settles_closed isDraft7 fun entry member => ?_⟩
    obtain ⟨name, inner, same, isInner, decides⟩ := each entry member
    exact ⟨name, inner, same, isInner,
      fun part found => decides part (Value.sizeOf_lt_of_get? found)⟩
  | false =>
    refine ⟨false, settles_closed_of_other isDraft7 (Value.isEndless_dict.mpr fun entry member => ?_)
      isObject⟩
    obtain ⟨name, inner, rfl, isInner, -⟩ := each entry member
    exact isInner.ends

/-! ### Unions -/

theorem settles_notIncluded (isDraft7 : validator.dialect = .draft7) :
    Settles (validator.judged (.dict notIncluded) value) (JsonType.null.holds .draft7 value) := by
  have all : [JsonType.null.holds .draft7 value, true].all id
      = JsonType.null.holds .draft7 value := by simp
  rw [← all]
  refine settles_entries isDraft7 rfl (by simp [notIncluded]) (.cons ?_ (.cons ?_ .nil))
  · exact settles_type isDraft7 (show JsonType.ofName? .draft7 "null" = some .null from rfl)
  · exact settles_ignored isDraft7 rfl

variable {options : List Node}

/-- A single option is asked for as it is. -/
theorem settles_options (isDraft7 : validator.dialect = .draft7)
    (isInner : ∀ option ∈ options, option.IsInner)
    (decides : ∀ option ∈ options, validator.Decides (.dict option) value) :
    Settles (validator.judged (.dict (SchemaSource.alternativesNode options)) value)
      (options.any fun option => validator.answer (.dict option) value) := by
  unfold SchemaSource.alternativesNode
  split
  next option =>
    rw [List.any_cons, List.any_nil, Bool.or_false]
    exact (decides option List.mem_cons_self).settles
  next =>
    have settles := settles_alternatives isDraft7 isInner decides
    rwa [List.any_map] at settles

/-- A union asks for one of its options, or for null if it is nullable, but not for both. -/
theorem settles_union (isDraft7 : validator.dialect = .draft7) {nullable : Bool}
    (isInner : ∀ option ∈ options, option.IsInner)
    (decides : ∀ option ∈ options, validator.Decides (.dict option) value) :
    Settles (validator.judged (.dict (unionNode options nullable)) value)
      ((nullable && JsonType.null.holds .draft7 value)
        ^^ options.any fun option => validator.answer (.dict option) value) := by
  have settles := settles_options isDraft7 isInner decides
  rw [SchemaSource.unionNode_eq]
  cases nullable with
  | false => simpa using settles
  | true =>
    have isInnerBoth := SchemaSource.isInner_nullable (SchemaSource.isInner_alternatives isInner)
    have decidesBoth : ∀ branch ∈ [notIncluded, SchemaSource.alternativesNode options],
        validator.Decides (.dict branch) value := by
      intro branch member
      rcases List.mem_cons.mp member with rfl | other
      · exact ⟨_, settles_notIncluded isDraft7⟩
      · cases List.mem_singleton.mp other
        exact ⟨_, settles⟩
    have one := settles_branches isDraft7 isInnerBoth decidesBoth
    simp only [List.map_cons, List.map_nil, List.filter_cons, List.filter_nil,
      answer_eq (settles_notIncluded isDraft7), answer_eq settles] at one
    rw [if_pos rfl, Bool.true_and]
    convert one using 1
    cases JsonType.null.holds .draft7 value <;>
      cases (options.any fun option => validator.answer (.dict option) value) <;> rfl

/-! ### Instants -/

theorem isInner_leaf {leaf : LeafFormat} {type : JsonType}
    (isType : JsonType.ofName? .draft7 leaf.type = some type) : Node.IsInner leaf.node :=
  (SchemaSource.isUsual_leaf isType).isInner SchemaSource.isEndless_leaf

/-- The parts of an instant are integers. -/
theorem exists_of_mem_instantParts {entry : Value × Value}
    (member : entry ∈ Node.ofFields instantParts) : ∃ (name : String) (leaf : LeafFormat),
      entry = (.str name, .dict leaf.node)
        ∧ JsonType.ofName? .draft7 leaf.type = some .integer := by
  obtain ⟨field, isPart, rfl⟩ := List.mem_map.mp member
  obtain ⟨name, -, rfl⟩ := List.mem_map.mp isPart
  exact ⟨name, _, rfl, rfl⟩

theorem decides_instant (isDraft7 : validator.dialect = .draft7) :
    validator.Decides (.dict instantNode) value := by
  refine decides_closed isDraft7 fun entry member => ?_
  obtain ⟨name, leaf, rfl, isType⟩ := exists_of_mem_instantParts member
  exact ⟨_, _, rfl, isInner_leaf isType, fun part _ => ⟨_, settles_leaf isDraft7 isType⟩⟩

theorem answer_instant (isDraft7 : validator.dialect = .draft7) {entries : Node} :
    validator.answer (.dict instantNode) (.dict entries)
      = closedAnswer validator.answer (Node.ofFields instantParts) ["nanos", "seconds"] entries := by
  refine answer_eq (settles_closed isDraft7 fun entry member => ?_)
  obtain ⟨name, leaf, rfl, isType⟩ := exists_of_mem_instantParts member
  exact ⟨_, _, rfl, isInner_leaf isType, fun part _ => ⟨_, settles_leaf isDraft7 isType⟩⟩

/-- What an instant is written as. -/
def instantFields (i : Instant) : List (String × Value) :=
  [("nanos", .int i.nanos), ("seconds", .int i.seconds)]

/-- It has the schema of instants. -/
theorem settles_instant (isDraft7 : validator.dialect = .draft7) (i : Instant) :
    Settles (validator.judged (.dict instantNode) (.dict (Node.ofFields (instantFields i)))) true := by
  have integers : ∀ field ∈ instantFields i, JsonType.integer.holds .draft7 field.2 = true := by
    intro field member
    rcases List.mem_cons.mp member with rfl | member
    · rfl
    · cases List.mem_singleton.mp member
      rfl
  have admitted : validator.answer (.dict instantNode) (.dict (Node.ofFields (instantFields i)))
      = true := by
    rw [answer_instant isDraft7]
    have sameKeys : (instantFields i).map (·.1) = instantParts.map (·.1) := rfl
    refine closedAnswer_eq_true (fun field member => sameKeys ▸ List.mem_map_of_mem member)
      (fun part member value found => ?_) fun name member => member
    obtain ⟨name, -, rfl⟩ := List.mem_map.mp member
    exact (answer_eq (settles_leaf isDraft7 rfl)).trans
      (integers _ (Node.mem_of_get?_ofFields found))
  exact admitted ▸ (decides_instant isDraft7).settles

end Validator

namespace SchemaSource

/-- What the body of a class consists of besides its title; nothing for one without properties to
read. -/
def classContent (source : SchemaSource) (names : ClassRef → String) (c : ClassRef) : Node :=
  match source.catalog.table.properties c with
  | .ok props => source.contentNode names c props
  | .error _ => []

theorem IsReadableBody.classContent_eq {source : SchemaSource} {outline : Outline}
    {names : ClassRef → String} {c : ClassRef} {props : List Property}
    (body : source.IsReadableBody outline c props) :
    source.classContent names c = source.contentNode names c props := by
  unfold classContent
  rw [body.found]

/-- Whether all bodies in the document decide on a value. -/
def BodiesDecide (source : SchemaSource) (outline : Outline) (validator : Validator)
    (value : Value) : Prop :=
  ∀ c, source.IsWritten outline c →
    validator.Decides (.dict (source.classContent outline.nameOf c)) value

variable {source : SchemaSource} {outline : Outline} {validator : Validator} {c : ClassRef}
  {value : Value}

section

variable (readable : source.IsReadable outline) (reads : source.Reads outline validator)
include readable reads

/-! ### Classes -/

theorem leads_model (hasModel : outline.HasModel c) :
    validator.Leads (definitionReference (outline.nameOf c))
      (source.classContent outline.nameOf c) := by
  obtain ⟨props, body⟩ := readable.bodies c (.inr hasModel)
  rw [body.classContent_eq]
  exact reads.model c hasModel props body.found

theorem leads_root (noSubTypes : source.subTypes source.root = []) :
    validator.Leads rootReference (source.classContent outline.nameOf source.root) := by
  obtain ⟨props, body⟩ := readable.bodies source.root (.inl ⟨rfl, noSubTypes⟩)
  rw [body.classContent_eq]
  exact reads.root noSubTypes props body.found

/-- A class without subtypes stands for its body. -/
theorem leads_object (present : source.IsPresent outline c) (noSubTypes : source.subTypes c = []) :
    validator.Leads (source.objectNode outline.nameOf c)
      (source.classContent outline.nameOf c) := by
  unfold objectNode
  rw [noSubTypes]
  dsimp only
  split
  next isRoot =>
    subst isRoot
    exact leads_root readable reads noSubTypes
  next notRoot =>
    have all := present.resolve_left fun isRoot => notRoot isRoot.1
    exact leads_model readable reads (all c (choices_of_nil noSubTypes ▸ List.mem_cons_self))

/-- A class with subtypes asks for the body of exactly one of them. -/
theorem settles_choice (present : source.IsPresent outline c)
    (something : source.subTypes c ≠ []) (bodies : source.BodiesDecide outline validator value) :
    Settles (validator.judged (.dict (source.objectNode outline.nameOf c)) value)
      (((source.subTypes c).filter fun d =>
        validator.answer (.dict (source.classContent outline.nameOf d)) value).length == 1) := by
  have models : ∀ d ∈ source.subTypes c, outline.HasModel d := fun _ => present.hasModel
  let branches := (source.subTypes c).map fun d => definitionReference (outline.nameOf d)
  have isInner : ∀ inner ∈ branches, inner.IsInner := by
    intro inner member
    obtain ⟨d, -, rfl⟩ := List.mem_map.mp member
    exact isInner_reference
  have decides : ∀ inner ∈ branches, validator.Decides (.dict inner) value := by
    intro inner member
    obtain ⟨d, inside, rfl⟩ := List.mem_map.mp member
    exact (leads_model readable reads (models d inside)).decides (bodies d (.inr (models d inside)))
  have same : ((source.subTypes c).filter fun d =>
        validator.answer (.dict (source.classContent outline.nameOf d)) value).length
      = ((branches.map Value.dict).filter fun schema => validator.answer schema value).length := by
    rw [List.map_map, List.filter_map, List.length_map]
    refine congrArg List.length (List.filter_congr fun d inside => ?_)
    exact ((leads_model readable reads (models d inside)).answer_eq
      (bodies d (.inr (models d inside)))).symm
  rw [objectNode_of_ne_nil something, same]
  exact Validator.settles_branches reads.isDraft7 isInner decides

theorem decides_object (present : source.IsPresent outline c)
    (bodies : source.BodiesDecide outline validator value) :
    validator.Decides (.dict (source.objectNode outline.nameOf c)) value := by
  by_cases noSubTypes : source.subTypes c = []
  · have written := present.isWritten (choices_of_nil noSubTypes ▸ List.mem_cons_self)
    exact (leads_object readable reads present noSubTypes).decides (bodies c written)
  · exact ⟨_, settles_choice readable reads present noSubTypes bodies⟩

end

/-! ### Annotations -/

variable {owner : ClassRef} {atVariable : Nat → Shape} {argumentsOf : ClassRef → List Form} {t : Ty}

theorem usual_known (wellFormed : source.catalog.WellFormed)
    (built : t.BuiltFrom (source.IsKnown outline)) {names : ClassRef → String} :
    (source.annotationNode names owner atVariable argumentsOf t).IsUsual
      ∧ (Value.dict (source.annotationNode names owner atVariable argumentsOf t)).isEndless = false :=
  usual_annotation wellFormed (built.mono fun _ known => isPart_of_isKnown known)

theorem isInner_known (wellFormed : source.catalog.WellFormed)
    (built : t.BuiltFrom (source.IsKnown outline)) {names : ClassRef → String} :
    (source.annotationNode names owner atVariable argumentsOf t).IsInner :=
  (usual_known wellFormed built).1.isInner (usual_known wellFormed built).2

/-- The options of a union are the nodes of its members other than null. -/
theorem exists_of_mem_options {ts : List Ty} {names : ClassRef → String} {option : Node}
    (member : option ∈ (ts.filter fun t => !t.same .none).map
      (source.annotationNode names owner atVariable argumentsOf)) :
    ∃ t ∈ ts, t ≠ .none
      ∧ option = source.annotationNode names owner atVariable argumentsOf t := by
  obtain ⟨t, inside, rfl⟩ := List.mem_map.mp member
  obtain ⟨inside, present⟩ := List.mem_filter.mp inside
  exact ⟨t, inside, fun isNone => by simp [isNone, Ty.same] at present, rfl⟩

theorem decides_array (isDraft7 : validator.dialect = .draft7) {inner : Node}
    (isInner : inner.IsInner)
    (decides : ∀ part, sizeOf part < sizeOf value → validator.Decides (.dict inner) part) :
    validator.Decides (.dict (arrayNode inner false)) value := by
  cases isArray : JsonType.array.holds .draft7 value with
  | true =>
    obtain ⟨items, rfl⟩ := Validator.exists_of_isArray isArray
    exact ⟨_, Validator.settles_array isDraft7 isInner
      fun item member => decides item (Value.sizeOf_lt_of_mem_list member)⟩
  | false => exact ⟨_, Validator.settles_array_of_other isDraft7 isInner isArray⟩

theorem decides_fixedArray (isDraft7 : validator.dialect = .draft7) {inners : List Node}
    (isInner : ∀ inner ∈ inners, inner.IsInner)
    (decides : ∀ inner ∈ inners, ∀ part, sizeOf part < sizeOf value →
      validator.Decides (.dict inner) part) :
    validator.Decides (.dict (fixedArrayNode inners)) value := by
  cases isArray : JsonType.array.holds .draft7 value with
  | true =>
    obtain ⟨items, rfl⟩ := Validator.exists_of_isArray isArray
    refine ⟨_, Validator.settles_fixedArray isDraft7 isInner fun pair member => ?_⟩
    obtain ⟨isItem, isSchema⟩ := List.of_mem_zip member
    exact decides pair.2 isSchema pair.1 (Value.sizeOf_lt_of_mem_list isItem)
  | false => exact ⟨_, Validator.settles_fixedArray_of_other isDraft7 isInner isArray⟩

theorem decides_map (isDraft7 : validator.dialect = .draft7) {inner : Node}
    (isInner : inner.IsInner)
    (decides : ∀ part, sizeOf part < sizeOf value → validator.Decides (.dict inner) part) :
    validator.Decides (.dict (mapNode inner)) value := by
  cases isObject : JsonType.object.holds .draft7 value with
  | true =>
    obtain ⟨entries, rfl⟩ := Validator.exists_of_isObject isObject
    exact ⟨_, Validator.settles_map isDraft7 isInner
      fun triple member => decides triple.2.2 (Value.sizeOf_lt_of_mem_keyed member)⟩
  | false => exact ⟨_, Validator.settles_map_of_other isDraft7 isInner isObject⟩

section

variable (readable : source.IsReadable outline) (reads : source.Reads outline validator)
include readable reads

/-- The node of a known annotation decides on a value when all bodies do on values that are not
larger. -/
theorem decides_annotation (built : t.BuiltFrom (source.IsKnown outline))
    (bodies : ∀ part, sizeOf part ≤ sizeOf value → source.BodiesDecide outline validator part) :
    validator.Decides
      (.dict (source.annotationNode outline.nameOf owner atVariable argumentsOf t)) value := by
  have isInner : ∀ {t}, t.BuiltFrom (source.IsKnown outline) →
      (source.annotationNode outline.nameOf owner atVariable argumentsOf t).IsInner :=
    fun inner => isInner_known readable.wellFormed inner
  induction built generalizing value with
  | cls known =>
    rcases known with ⟨b, rfl, isScalar, defined⟩ | ⟨isObject, -, present⟩
    · rw [annotationNode_scalar isScalar]
      by_cases isInstant : b = .instant
      · subst isInstant
        exact (reads.instant (defined rfl)).decides (Validator.decides_instant reads.isDraft7)
      · obtain ⟨leaf, same, isType⟩ := leafNode_scalar isScalar isInstant
        rw [same]
        exact ⟨_, Validator.settles_leaf reads.isDraft7 isType⟩
    · rw [annotationNode_object readable.wellFormed isObject]
      exact decides_object readable reads present (bodies value (Nat.le_refl _))
  | list inner ih =>
    rw [annotationNode_list]
    exact decides_array reads.isDraft7 (isInner inner)
      fun part smaller => ih fun other most => bodies other (by omega)
  | sequence inner ih =>
    rw [annotationNode_sequence]
    exact decides_array reads.isDraft7 (isInner inner)
      fun part smaller => ih fun other most => bodies other (by omega)
  | map inner ih =>
    rw [annotationNode_map]
    exact decides_map reads.isDraft7 (isInner inner)
      fun part smaller => ih fun other most => bodies other (by omega)
  | @tuple ts something built ih =>
    have noEllipsis : .ellipsis ∉ ts := fun member => nomatch built _ member
    rw [annotationNode_tuple something noEllipsis]
    refine decides_fixedArray reads.isDraft7 (fun inner member => ?_) fun inner member part smaller => ?_
    · obtain ⟨t, inside, rfl⟩ := List.mem_map.mp member
      exact isInner (built t inside)
    · obtain ⟨t, inside, rfl⟩ := List.mem_map.mp member
      exact ih t inside fun other most => bodies other (by omega)
  | union flat built ih =>
    rw [annotationNode_union]
    refine ⟨_, Validator.settles_union reads.isDraft7 (fun option member => ?_)
      fun option member => ?_⟩
    · obtain ⟨t, inside, present, rfl⟩ := exists_of_mem_options member
      exact isInner (built t inside present)
    · obtain ⟨t, inside, present, rfl⟩ := exists_of_mem_options member
      exact ih t inside present bodies

/-- So does the node of a property. -/
theorem decides_property {props : List Property} {p : Property}
    (body : source.IsReadableBody outline c props) (member : p ∈ source.bodyProperties c props)
    (bodies : ∀ part, sizeOf part ≤ sizeOf value → source.BodiesDecide outline validator part) :
    validator.Decides (.dict (source.propertyNode outline.nameOf c p)) value := by
  have inside := mem_of_mem_bodyProperties member
  obtain ⟨usual, ends⟩ := body.usual readable.wellFormed member
  obtain ⟨atVariable, argumentsOf, same⟩ := exists_innerNode_eq (body.unlimited p inside)
  unfold Validator.Decides
  rw [judged_property reads.isDraft7 (readable.plain.property body.found inside) usual ends, same]
  exact decides_annotation readable reads (body.known p member) bodies

/-- The bodies in a document decide on all values. -/
theorem bodiesDecide (value : Value) : source.BodiesDecide outline validator value := by
  have all : ∀ size value, sizeOf value < size → source.BodiesDecide outline validator value := by
    intro size
    induction size with
    | zero => exact fun value none => absurd none (Nat.not_lt_zero _)
    | succ size ih =>
      intro value small c written
      obtain ⟨props, body⟩ := readable.bodies c written
      rw [body.classContent_eq]
      refine Validator.decides_closed reads.isDraft7 fun entry member => ?_
      rcases body.exists_of_mem_propertyNodes member with ⟨d, -, rfl⟩ | ⟨p, isProperty, rfl⟩
      · exact ⟨_, _, rfl, isInner_discriminator,
          fun part _ => ⟨_, settles_discriminator reads.isDraft7⟩⟩
      · refine ⟨_, _, rfl, body.isInner readable.wellFormed readable.plain isProperty,
          fun part smaller => ?_⟩
        exact decides_property readable reads body isProperty fun other most => ih other (by omega)
  exact all _ value (Nat.lt_succ_self _)

/-- What a body asks of an object. -/
theorem answer_content {props : List Property} (body : source.IsReadableBody outline c props)
    (entries : Node) :
    validator.answer (.dict (source.classContent outline.nameOf c)) (.dict entries)
      = Validator.closedAnswer validator.answer
        (Node.ofFields (source.markerFields c ++ source.propertyFields outline.nameOf c props))
        (source.requiredNames c props) entries := by
  rw [body.classContent_eq, ← propertyNodes_eq body.distinct]
  refine Validator.answer_eq (Validator.settles_closed reads.isDraft7 fun entry member => ?_)
  rcases body.exists_of_mem_propertyNodes member with ⟨d, -, rfl⟩ | ⟨p, isProperty, rfl⟩
  · exact ⟨_, _, rfl, isInner_discriminator,
      fun part _ => ⟨_, settles_discriminator reads.isDraft7⟩⟩
  · exact ⟨_, _, rfl, body.isInner readable.wellFormed readable.plain isProperty,
      fun part _ => decides_property readable reads body isProperty
        fun other _ => bodiesDecide readable reads other⟩

/-- The node of a property asks for what that of its annotation does. -/
theorem exists_answer_property {props : List Property} {p : Property}
    (body : source.IsReadableBody outline c props) (member : p ∈ source.bodyProperties c props) :
    ∃ atVariable argumentsOf, validator.answer (.dict (source.propertyNode outline.nameOf c p)) value
      = validator.answer
        (.dict (source.annotationNode outline.nameOf c atVariable argumentsOf p.annotation)) value := by
  have inside := mem_of_mem_bodyProperties member
  obtain ⟨usual, ends⟩ := body.usual readable.wellFormed member
  obtain ⟨atVariable, argumentsOf, same⟩ := exists_innerNode_eq (body.unlimited p inside)
  refine ⟨atVariable, argumentsOf, ?_⟩
  unfold Validator.answer
  rw [judged_property reads.isDraft7 (readable.plain.property body.found inside) usual ends, same]

end

end SchemaSource

end ModelSchema
