import Mathlib.Data.List.Zip
import ModelSchema.Proofs.Agreement.Models
import ModelSchema.Proofs.Agreement.Rejection

/-!
A document accepts what its values are written as.

* `SchemaSource.Admits`: a value can be written, and the node of an annotation accepts what it is
  written as.
* `admits_scalar`, `admits_list`, `admits_member` and their relatives: one step for each way to build a
  value.
* `answer_modelPayload`: a body accepts what the instances of its class are written as.
* `admits_of_hasType`, `exists_payload_of_hasType`: so the node of an annotation accepts what all of its
  values are written as, and a model what all of its instances are.
-/

namespace ModelSchema.SchemaSource

variable {source : SchemaSource} {outline : Outline} {validator : Validator} {c d : ClassRef}
  {owner : ClassRef} {t : Ty} {value : Value}

/-- Whether a value can be written in the body of `owner`, and the node of an annotation there accepts
what it is written as. -/
structure Admits (source : SchemaSource) (outline : Outline) (validator : Validator)
    (owner : ClassRef) (t : Ty) (value : Value) : Prop where
  payload : source.catalog.HasPayload (source.catalog.table.numericDurations owner) value
  answer : ∀ atVariable argumentsOf, validator.answer
    (.dict (source.annotationNode outline.nameOf owner atVariable argumentsOf t))
    (source.catalog.payloadOf (source.catalog.table.numericDurations owner) value) = true

theorem admits_of_ok {payload : Value}
    (written : source.catalog.payloadWithin false (source.catalog.table.numericDurations owner) value
      = .ok payload)
    (answer : ∀ atVariable argumentsOf, validator.answer
      (.dict (source.annotationNode outline.nameOf owner atVariable argumentsOf t)) payload = true) :
    source.Admits outline validator owner t value := by
  refine ⟨Catalog.hasPayload_of_ok written, fun atVariable argumentsOf => ?_⟩
  rw [Catalog.payloadOf_eq written]
  exact answer atVariable argumentsOf

/-- Only null has the type of null. -/
theorem eq_null_of_holds (isNull : JsonType.null.holds .draft7 value = true) : value = .null := by
  cases value with
  | null => rfl
  | _ => cases isNull

/-- A finite decimal is written as a number. -/
theorem plainNumber_finite (negative : Bool) (coefficient : Nat) (exponent : Int) :
    ∃ payload, plainNumber (.decimal (.finite negative coefficient exponent)) = .ok payload
      ∧ JsonType.number.holds .draft7 payload = true := by
  unfold plainNumber
  dsimp only
  unfold Decimal.plainNumber
  dsimp only
  cases (Decimal.finite negative coefficient exponent).toInt? with
  | some n => exact ⟨_, rfl, rfl⟩
  | none => exact ⟨_, rfl, rfl⟩

/-! ### Attributes -/

/-- Whether an instance has all attributes that are written, and they are accepted where its class has
them. -/
structure AdmitsParts (source : SchemaSource) (outline : Outline) (validator : Validator)
    (d : ClassRef) (info : ModelInfo) (attributes computed : List (String × Value)) : Prop where
  fields : ∀ field ∈ info.fields,
    Catalog.isWrittenField (source.catalog.writtenDiscriminator? d) field = true → ∃ value,
      attributeValue? attributes field.name = some value
        ∧ source.Admits outline validator d (source.catalog.table.resolve field.annotation) value
  computed : ∀ field ∈ info.computed,
    ∃ value, attributeValue? computed field.name = some value
      ∧ source.Admits outline validator d (source.catalog.table.resolve field.returns) value

namespace AdmitsParts

variable {info : ModelInfo} {attributes computed : List (String × Value)}
  (admits : source.AdmitsParts outline validator d info attributes computed)
  {isPart : ClassRef → Prop} (regular : source.catalog.HasRegularParts isPart d info)
include admits regular

/-- An instance can be written when its attributes can. -/
theorem payload (model : source.catalog.table.model? d = some info) (numericDurations : Bool) :
    source.catalog.payloadWithin false numericDurations (.modelInstance d attributes computed)
      = .ok (.dict (Node.ofFields (source.catalog.modelPayload d info attributes computed))) := by
  refine Catalog.payload_model model regular.nodup_modelPayload (fun field member isWritten => ?_)
    fun field member => ?_
  · obtain ⟨value, found, admits⟩ := admits.fields field member isWritten
    exact ⟨value, found, admits.payload⟩
  · obtain ⟨value, found, admits⟩ := admits.computed field member
    exact ⟨value, found, admits.payload⟩

/-- An instance is written with the name of its class, and with the properties in the body. -/
theorem exists_of_mem {entry : String × Value}
    (member : entry ∈ source.catalog.modelPayload d info attributes computed) :
    (∃ property, source.discriminator? d = some property
        ∧ entry = (property, .str (source.catalog.typeName d)))
      ∨ ∃ p ∈ source.bodyProperties d (source.catalog.regularProperties info), ∃ value,
        source.Admits outline validator d p.annotation value
          ∧ entry = (p.publicName,
            source.catalog.payloadOf (source.catalog.table.numericDurations d) value) := by
  unfold Catalog.modelPayload at member
  rw [List.mem_append, List.mem_append] at member
  rcases member with (marker | ofField) | ofComputed
  · obtain ⟨property, isDiscriminator, rfl⟩ := List.mem_map.mp marker
    exact .inl ⟨property, Option.mem_toList.mp isDiscriminator, rfl⟩
  · obtain ⟨field, inside, rfl⟩ := List.mem_map.mp ofField
    obtain ⟨inside, isWritten⟩ := List.mem_filter.mp inside
    obtain ⟨included, apart⟩ := Catalog.isWrittenField_iff.mp isWritten
    obtain ⟨value, found, admits⟩ := admits.fields field inside isWritten
    refine .inr ⟨source.catalog.table.unlimitedProperty field, ?_, value, admits, ?_⟩
    · exact regular.mem_bodyProperties.mpr ⟨Catalog.mem_regularProperties.mpr
        (.inl ⟨field, inside, included, rfl⟩), Ne.symm apart⟩
    · rw [Catalog.attributePayload_eq found]
      rfl
  · obtain ⟨field, inside, rfl⟩ := List.mem_map.mp ofComputed
    obtain ⟨value, found, admits⟩ := admits.computed field inside
    refine .inr ⟨source.catalog.table.computedProperty field, ?_, value, admits, ?_⟩
    · exact regular.mem_bodyProperties.mpr ⟨Catalog.mem_regularProperties.mpr
        (.inr ⟨field, inside, rfl⟩), Ne.symm (regular.apart field inside)⟩
    · rw [Catalog.attributePayload_eq found]
      rfl

end AdmitsParts

section

variable (readable : source.IsReadable outline) (reads : source.Reads outline validator)
include readable reads

/-- The node of a known annotation decides on all values. -/
theorem decides_known {atVariable : Nat → Shape} {argumentsOf : ClassRef → List Form}
    (built : t.BuiltFrom (source.IsKnown outline)) :
    validator.Decides
      (.dict (source.annotationNode outline.nameOf owner atVariable argumentsOf t)) value :=
  decides_annotation readable reads built fun part _ => bodiesDecide readable reads part

/-- What is accepted is found valid. -/
theorem Admits.settles (built : t.BuiltFrom (source.IsKnown outline))
    (admits : source.Admits outline validator owner t value) (atVariable : Nat → Shape)
    (argumentsOf : ClassRef → List Form) :
    Settles (validator.judged
      (.dict (source.annotationNode outline.nameOf owner atVariable argumentsOf t))
      (source.catalog.payloadOf (source.catalog.table.numericDurations owner) value)) true :=
  admits.answer atVariable argumentsOf ▸ (decides_known readable reads built).settles

/-! ### Scalars -/

omit readable in
/-- A scalar is accepted when it is written as a value of its type. -/
theorem admits_scalar {b : BasicClass} {payload : Value} (isScalar : b.isScalar = true)
    (notInstant : b ≠ .instant)
    (written : source.catalog.payloadWithin false (source.catalog.table.numericDurations owner) value
      = .ok payload)
    (holds : (scalarType (source.catalog.table.numericDurations owner) b).holds .draft7 payload
      = true) :
    source.Admits outline validator owner (.cls (.basic b)) value := by
  refine admits_of_ok written fun atVariable argumentsOf => ?_
  obtain ⟨leaf, same, isType⟩ := leafNode_scalar isScalar notInstant
  rw [annotationNode_scalar isScalar, same,
    Validator.answer_eq (Validator.settles_leaf reads.isDraft7 isType)]
  exact holds

omit readable in
theorem admits_duration (d : Duration) :
    source.Admits outline validator owner (.cls (.basic .duration)) (.duration d) := by
  refine admits_scalar reads rfl (by decide) rfl ?_
  unfold scalarType
  dsimp only
  split <;> rfl

omit readable in
theorem admits_instant (defined : outline.has (.basic .instant) = true) (i : Instant) :
    source.Admits outline validator owner (.cls (.basic .instant)) (.instant i) := by
  have written : source.catalog.payloadWithin false (source.catalog.table.numericDurations owner)
      (.instant i) = .ok (.dict (Node.ofFields (Validator.instantFields i))) := rfl
  refine admits_of_ok written fun atVariable argumentsOf => ?_
  rw [annotationNode_scalar rfl, leafNode_instant]
  exact Validator.answer_eq
    (reads.instant defined _ _ (Validator.settles_instant reads.isDraft7 i))

/-! ### Containers -/

/-- The node of an array accepts lists of what it accepts. -/
theorem answer_array {atVariable : Nat → Shape} {argumentsOf : ClassRef → List Form}
    (built : t.BuiltFrom (source.IsKnown outline)) {items : List Value}
    (each : ∀ item ∈ items, source.Admits outline validator owner t item) :
    validator.answer
      (.dict (arrayNode (source.annotationNode outline.nameOf owner atVariable argumentsOf t) false))
      (.list (items.map
        (source.catalog.payloadOf (source.catalog.table.numericDurations owner)))) = true := by
  rw [Validator.answer_eq (Validator.settles_array reads.isDraft7
    (isInner_known readable.wellFormed built) fun _ _ => decides_known readable reads built)]
  refine List.all_eq_true.mpr fun payload member => ?_
  obtain ⟨item, inside, rfl⟩ := List.mem_map.mp member
  exact (each item inside).answer atVariable argumentsOf

theorem admits_list (built : t.BuiltFrom (source.IsKnown outline)) {items : List Value}
    (each : ∀ item ∈ items, source.Admits outline validator owner t item) :
    source.Admits outline validator owner (.array .list t) (.list items) :=
  admits_of_ok (Catalog.payload_sequence (by decide) fun item member => (each item member).payload)
    fun _ _ => answer_array readable reads built each

theorem admits_sequence (built : t.BuiltFrom (source.IsKnown outline)) {items : List Value}
    (each : ∀ item ∈ items, source.Admits outline validator owner t item) :
    source.Admits outline validator owner (.tuple [t, .ellipsis]) (.collection .tuple items) :=
  admits_of_ok (Catalog.payload_sequence (by decide) fun item member => (each item member).payload)
    fun _ _ => answer_array readable reads built each

theorem admits_tuple {ts : List Ty} (built : ∀ t ∈ ts, t.BuiltFrom (source.IsKnown outline))
    (something : ts ≠ []) {items : List Value} (sameLength : ts.length = items.length)
    (each : ∀ pair ∈ ts.zip items, source.Admits outline validator owner pair.1 pair.2) :
    source.Admits outline validator owner (.tuple ts) (.collection .tuple items) := by
  have noEllipsis : .ellipsis ∉ ts := fun member => nomatch built _ member
  have payloads : ∀ item ∈ items,
      source.catalog.HasPayload (source.catalog.table.numericDurations owner) item := by
    intro item member
    obtain ⟨place, small, rfl⟩ := List.getElem_of_mem member
    have inside : place < (ts.zip items).length := by
      rw [List.length_zip]
      omega
    have pair := each _ (List.getElem_mem inside)
    rw [List.getElem_zip] at pair
    exact pair.payload
  refine admits_of_ok (Catalog.payload_sequence (by decide) payloads)
    fun atVariable argumentsOf => ?_
  rw [annotationNode_tuple something noEllipsis, Validator.answer_eq
    (Validator.settles_fixedArray reads.isDraft7 (fun inner member => ?_) fun pair member => ?_)]
  · rw [Bool.and_eq_true, List.length_map, List.length_map, beq_iff_eq]
    refine ⟨sameLength.symm, List.all_eq_true.mpr fun pair member => ?_⟩
    rw [List.zip_map, List.mem_map] at member
    obtain ⟨⟨item, t⟩, inside, rfl⟩ := member
    rw [← List.zip_swap] at inside
    obtain ⟨pair, member, same⟩ := List.mem_map.mp inside
    cases same
    exact (each pair member).answer atVariable argumentsOf
  · obtain ⟨t, inside, rfl⟩ := List.mem_map.mp member
    exact isInner_known readable.wellFormed (built t inside)
  · obtain ⟨t, inside, same⟩ := List.mem_map.mp (List.of_mem_zip member).2
    rw [← same]
    exact decides_known readable reads (built t inside)

theorem admits_map (built : t.BuiltFrom (source.IsKnown outline))
    {entries : List (String × Value)}
    (each : ∀ entry ∈ entries, source.Admits outline validator owner t entry.2) :
    source.Admits outline validator owner (.map .dict (.cls (.basic .str)) t) (.record entries) := by
  let payloads := entries.map fun entry =>
    (entry.1, source.catalog.payloadOf (source.catalog.table.numericDurations owner) entry.2)
  have written : source.catalog.payloadWithin false (source.catalog.table.numericDurations owner)
      (.dict (Node.ofFields entries))
        = .ok (.dict (Value.assocUpdate [] (Node.ofFields payloads))) := by
    rw [Catalog.payloadWithin_dict,
      Catalog.payload_entries fun entry member => (each entry member).payload]
    rfl
  refine admits_of_ok written fun atVariable argumentsOf => ?_
  rw [annotationNode_map, Validator.answer_eq (Validator.settles_map reads.isDraft7
    (isInner_known readable.wellFormed built) fun _ _ => decides_known readable reads built)]
  refine List.all_eq_true.mpr fun triple member => ?_
  rcases Catalog.exists_of_mem_update (Validator.mem_of_mem_keyed member) with absurdly
    | ⟨field, inside, same⟩
  · exact absurd absurdly List.not_mem_nil
  · obtain ⟨entry, isEntry, rfl⟩ := List.mem_map.mp inside
    have same : triple.2.2 = _ := same
    rw [same]
    exact (each entry isEntry).answer atVariable argumentsOf

/-! ### Unions -/

/-- A union accepts null if it is a member, or else what exactly one member accepts. -/
theorem answer_union {piped : Bool} {ts : List Ty} (built : ∀ t ∈ ts, t ≠ .none →
      t.BuiltFrom (source.IsKnown outline)) {atVariable : Nat → Shape}
    {argumentsOf : ClassRef → List Form} :
    validator.answer (.dict (source.annotationNode outline.nameOf owner atVariable argumentsOf
        (.union piped ts))) value
      = ((ts.any fun t => t.same .none) && JsonType.null.holds .draft7 value
        ^^ ((ts.filter fun t => !t.same .none).map
          (source.annotationNode outline.nameOf owner atVariable argumentsOf)).any fun option =>
            validator.answer (.dict option) value) := by
  rw [annotationNode_union]
  refine Validator.answer_eq (Validator.settles_union reads.isDraft7 (fun option member => ?_)
    fun option member => ?_)
  · obtain ⟨t, inside, present, rfl⟩ := exists_of_mem_options member
    exact isInner_known readable.wellFormed (built t inside present)
  · obtain ⟨t, inside, present, rfl⟩ := exists_of_mem_options member
    exact decides_known readable reads (built t inside present)

section

variable {piped : Bool} {ts : List Ty} (flat : ∀ t ∈ ts, t.isUnion = false)
  (built : ∀ t ∈ ts, t ≠ .none → t.BuiltFrom (source.IsKnown outline))
include flat built

/-- A union accepts what one of its members does. -/
theorem admits_member (member : t ∈ ts) (notNone : t ≠ .none)
    (admits : source.Admits outline validator owner t value) :
    source.Admits outline validator owner (.union piped ts) value := by
  refine ⟨admits.payload, fun atVariable argumentsOf => ?_⟩
  have accepted := admits.answer atVariable argumentsOf
  have notNull : JsonType.null.holds .draft7
      (source.catalog.payloadOf (source.catalog.table.numericDurations owner) value) = false := by
    refine Bool.eq_false_iff.mpr fun isNull => ?_
    rw [eq_null_of_holds isNull, rejects_null readable reads (built t member notNone)
      (flat t member)] at accepted
    cases accepted
  rw [answer_union readable reads built, notNull, Bool.and_false, Bool.false_xor]
  refine List.any_eq_true.mpr ⟨_, List.mem_map_of_mem (List.mem_filter.mpr ⟨member, ?_⟩), accepted⟩
  simpa using mt Ty.same_none_iff.mp notNone

/-- A union with null among its members accepts null. -/
theorem admits_none (member : .none ∈ ts) :
    source.Admits outline validator owner (.union piped ts) .null := by
  have written : source.catalog.payloadWithin false (source.catalog.table.numericDurations owner)
      .null = .ok .null := rfl
  refine admits_of_ok written fun atVariable argumentsOf => ?_
  have nullable : (ts.any fun t => t.same .none) = true :=
    List.any_eq_true.mpr ⟨_, member, Ty.same_none_iff.mpr rfl⟩
  have others : (((ts.filter fun t => !t.same .none).map
      (source.annotationNode outline.nameOf owner atVariable argumentsOf)).any fun option =>
        validator.answer (.dict option) .null) = false := by
    refine List.any_eq_false.mpr fun option isOption => ?_
    obtain ⟨t, inside, present, rfl⟩ := exists_of_mem_options isOption
    rw [rejects_null readable reads (built t inside present) (flat t inside)]
    exact Bool.false_ne_true
  rw [answer_union readable reads built, nullable, others]
  rfl

end

/-! ### Instances -/

variable {info : ModelInfo} {attributes computed : List (String × Value)} {isPart : ClassRef → Prop}

/-- A body accepts what the instances of its class are written as. -/
theorem answer_modelPayload (written : source.IsWritten outline d)
    (model : source.catalog.table.model? d = some info)
    (regular : source.catalog.HasRegularParts isPart d info)
    (admits : source.AdmitsParts outline validator d info attributes computed) :
    validator.answer (.dict (source.classContent outline.nameOf d))
      (.dict (Node.ofFields (source.catalog.modelPayload d info attributes computed))) = true := by
  obtain ⟨props, body⟩ := readable.bodies d written
  obtain rfl := regular.properties_eq model body.found
  have isPart : ∀ {p}, p ∈ source.bodyProperties d (source.catalog.regularProperties info) →
      p.publicName ∈ (source.markerFields d ++ source.propertyFields outline.nameOf d
        (source.catalog.regularProperties info)).map (·.1) := by
    intro p member
    rw [List.map_append, keys_propertyFields]
    exact List.mem_append_right _ (List.mem_map_of_mem member)
  rw [answer_content readable reads body]
  refine Validator.closedAnswer_eq_true (fun entry member => ?known)
    (fun part member value found => ?fits) fun name member => ?present
  case known =>
    rcases admits.exists_of_mem regular member with
      ⟨property, isDiscriminator, rfl⟩ | ⟨p, isProperty, value, -, rfl⟩
    · rw [List.map_append, keys_markerFields, isDiscriminator]
      exact List.mem_cons_self
    · exact isPart isProperty
  case fits =>
    rcases List.mem_append.mp member with marker | property
    · obtain ⟨property, isDiscriminator, rfl⟩ := List.mem_map.mp marker
      have isDiscriminator := Option.mem_toList.mp isDiscriminator
      rcases admits.exists_of_mem regular (Node.mem_of_get?_ofFields found) with
        ⟨_, _, same⟩ | ⟨p, isProperty, _, _, same⟩
      · rw [(Prod.mk.inj same).2, answer_discriminator reads.isDraft7, beq_self_eq_true]
      · exact absurd ((congrArg some (Prod.mk.inj same).1.symm).trans isDiscriminator.symm)
          (regular.mem_bodyProperties.mp isProperty).2
    · obtain ⟨p, isProperty, rfl⟩ := List.mem_map.mp property
      have known := regular.mem_bodyProperties.mp isProperty
      rcases admits.exists_of_mem regular (Node.mem_of_get?_ofFields found) with
        ⟨_, isDiscriminator, same⟩ | ⟨q, isPropertyElse, item, admits, same⟩
      · exact absurd ((congrArg some (Prod.mk.inj same).1).trans isDiscriminator.symm) known.2
      · obtain ⟨sameName, rfl⟩ := Prod.mk.inj same
        obtain rfl : p = q := List.inj_on_of_nodup_map regular.distinct_properties known.1
          (regular.mem_bodyProperties.mp isPropertyElse).1 sameName
        obtain ⟨atVariable, argumentsOf, sameAnswer⟩ :=
          exists_answer_property readable reads body isProperty
        rw [sameAnswer]
        exact admits.answer atVariable argumentsOf
  case present =>
    unfold requiredNames at member
    rcases List.mem_append.mp member with marker | property
    · rw [Catalog.keys_modelPayload]
      exact List.mem_append_left _ (List.mem_append_left _ marker)
    · obtain ⟨p, inside, rfl⟩ := List.mem_map.mp property
      exact Catalog.HasRegularParts.mem_keys_modelPayload regular (List.mem_filter.mp inside).1

/-- A class accepts what one of the bodies among which it lets choose accepts, if it has the mark of
that body. -/
theorem answer_object (present : source.IsPresent outline c) (apart : source.TellsApart c)
    (member : d ∈ source.choices c) {entries : Node}
    (marked : ∀ property, source.discriminator? d = some property →
      entries.get? property = some (.str (source.catalog.typeName d)))
    (accepted : validator.answer (.dict (source.classContent outline.nameOf d)) (.dict entries)
      = true) :
    validator.answer (.dict (source.objectNode outline.nameOf c)) (.dict entries) = true := by
  have bodies := bodiesDecide readable reads (.dict entries)
  by_cases noSubTypes : source.subTypes c = []
  · obtain rfl : d = c := List.mem_singleton.mp (choices_of_nil noSubTypes ▸ member)
    rw [(leads_object readable reads present noSubTypes).answer_eq
      (bodies d (present.isWritten member))]
    exact accepted
  · rw [choices_of_ne_nil noSubTypes] at member
    have exact : ∀ e ∈ source.subTypes c,
        validator.answer (.dict (source.classContent outline.nameOf e)) (.dict entries)
          = (e == d) := by
      intro e inside
      by_cases same : e = d
      · rw [same, accepted, beq_self_eq_true]
      · obtain ⟨property, here, there, names⟩ := apart.differ inside member same
        rw [rejects_other readable reads (.inr (present.hasModel inside)) here
          (marked property there) names, beq_false_of_ne same]
    have one : ((source.subTypes c).filter fun e =>
        validator.answer (.dict (source.classContent outline.nameOf e)) (.dict entries)).length
          = 1 := by
      rw [List.filter_congr exact, ← List.countP_eq_length_filter]
      exact List.count_eq_one_of_mem apart.nodup member
    rw [Validator.answer_eq (settles_choice readable reads present noSubTypes bodies), one]
    rfl

/-- A class accepts what the instances are written as that it lets choose from. -/
theorem exists_payload_of_instance (present : source.IsPresent outline c)
    (apart : source.TellsApart c) (member : d ∈ source.choices c)
    (model : source.catalog.table.model? d = some info)
    (regular : source.catalog.HasRegularParts isPart d info)
    (admits : source.AdmitsParts outline validator d info attributes computed) :
    ∃ payload, (∀ numericDurations, source.catalog.payloadWithin false numericDurations
        (.modelInstance d attributes computed) = .ok payload)
      ∧ validator.answer (.dict (source.objectNode outline.nameOf c)) payload = true :=
  ⟨_, admits.payload regular model, answer_object readable reads present apart member
    (fun _ => regular.get?_modelPayload)
    (answer_modelPayload readable reads (present.isWritten member) model regular admits)⟩

omit reads in
/-- An instance whose attributes are values of known annotations has them accepted. -/
theorem admitsParts_of_known (written : source.IsWritten outline d)
    (model : source.catalog.table.model? d = some info)
    (regular : source.catalog.HasRegularParts isPart d info)
    (hasFields : ∀ field ∈ info.fields, field.excluded = false →
      (attributeValue? attributes field.name).isSome)
    (fields : ∀ field ∈ info.fields, field.excluded = false → ∀ value,
      attributeValue? attributes field.name = some value →
      (source.catalog.table.resolve field.annotation).BuiltFrom (source.IsKnown outline) →
      source.Admits outline validator d (source.catalog.table.resolve field.annotation) value)
    (hasComputed : ∀ field ∈ info.computed, (attributeValue? computed field.name).isSome)
    (ofComputed : ∀ field ∈ info.computed, ∀ value,
      attributeValue? computed field.name = some value →
      (source.catalog.table.resolve field.returns).BuiltFrom (source.IsKnown outline) →
      source.Admits outline validator d (source.catalog.table.resolve field.returns) value) :
    source.AdmitsParts outline validator d info attributes computed := by
  obtain ⟨props, body⟩ := readable.bodies d written
  obtain rfl := regular.properties_eq model body.found
  refine ⟨fun field inside isWritten => ?_, fun field inside => ?_⟩
  · obtain ⟨included, apart⟩ := Catalog.isWrittenField_iff.mp isWritten
    obtain ⟨value, found⟩ := Option.isSome_iff_exists.mp (hasFields field inside included)
    have known := body.known _ (regular.mem_bodyProperties.mpr
      ⟨Catalog.mem_regularProperties.mpr (.inl ⟨field, inside, included, rfl⟩), Ne.symm apart⟩)
    exact ⟨value, found, fields field inside included value found known⟩
  · obtain ⟨value, found⟩ := Option.isSome_iff_exists.mp (hasComputed field inside)
    have known := body.known _ (regular.mem_bodyProperties.mpr
      ⟨Catalog.mem_regularProperties.mpr (.inr ⟨field, inside, rfl⟩),
        Ne.symm (regular.apart field inside)⟩)
    exact ⟨value, found, ofComputed field inside value found known⟩

/-! ### All values -/

section

variable (regular : ∀ c, source.IsWritten outline c → ∀ info,
  source.catalog.table.model? c = some info → source.catalog.HasRegularParts isPart c info)
include regular

/-- The node of a known annotation accepts what all values of the annotation are written as. -/
theorem admits_of_hasType (built : t.BuiltFrom (source.IsKnown outline))
    (typed : source.HasType t value) : source.Admits outline validator owner t value := by
  unfold HasType at typed
  induction typed generalizing owner with
  | none => cases built
  | str | bool | int | float | uuid | date | datetime | time =>
    exact admits_scalar reads rfl (by decide) rfl rfl
  | decimal negative coefficient exponent =>
    obtain ⟨payload, written, holds⟩ := plainNumber_finite negative coefficient exponent
    exact admits_scalar reads rfl (by decide) written holds
  | duration d => exact admits_duration reads d
  | instant i =>
    cases built with
    | cls known =>
      rcases known with ⟨b, same, -, defined⟩ | ⟨isObject, -, -⟩
      · cases same
        exact admits_instant reads (defined rfl) i
      · cases isObject.1
  | list _ ih =>
    cases built with
    | list inner => exact admits_list readable reads inner fun item member => ih item member inner
  | @sequence t items typed ih =>
    cases built with
    | sequence inner =>
      exact admits_sequence readable reads inner fun item member => ih item member inner
    | tuple _ inner => nomatch inner .ellipsis (by simp)
  | tuple sameLength typed ih =>
    cases built with
    | sequence inner =>
      obtain ⟨first, second, rfl⟩ := List.length_eq_two.mp sameLength.symm
      nomatch typed (.ellipsis, second) (by simp)
    | tuple something inner =>
      exact admits_tuple readable reads inner something sameLength fun pair member =>
        ih pair member (inner _ (List.of_mem_zip member).1)
  | map _ ih =>
    cases built with
    | map inner => exact admits_map readable reads inner fun entry member => ih entry member inner
  | @union piped ts t value member typed ih =>
    cases built with
    | union flat inner =>
      by_cases isNone : t = .none
      · subst isNone
        cases typed
        exact admits_none readable reads flat inner member
      · exact admits_member readable reads flat inner member isNone (ih (inner t member isNone))
  | @model c d info attributes computed isModel member model hasFields _ hasComputed _ fields ofComputed =>
    cases built with
    | cls known =>
      rcases known with ⟨b, rfl, isScalar, -⟩ | ⟨isObject, apart, present⟩
      · rw [ClassTable.isBasicSubclass_of_isScalar isScalar] at isModel
        cases isModel
      · have written := present.isWritten member
        have parts := regular d written info model
        obtain ⟨payload, same, accepted⟩ := exists_payload_of_instance readable reads present apart
          member model parts (admitsParts_of_known readable written model parts hasFields
            (fun field inside included value found => fields field inside included value found)
            hasComputed fun field inside value found => ofComputed field inside value found)
        refine admits_of_ok (same _) fun atVariable argumentsOf => ?_
        rw [annotationNode_object readable.wellFormed isObject]
        exact accepted

/-- A model accepts what all of its values are written as, whether or not it is written as an object
where it stands in an annotation. -/
theorem exists_payload_of_hasType (isModel : source.catalog.table.isBasicSubclass c .model = true)
    (present : source.IsPresent outline c) (apart : source.TellsApart c)
    (typed : source.HasType (.cls c) value) :
    ∃ payload, source.catalog.payload false value = .ok payload
      ∧ validator.answer (.dict (source.objectNode outline.nameOf c)) payload = true := by
  cases typed with
  | @model _ d info attributes computed _ member model hasFields fields hasComputed ofComputed =>
    have written := present.isWritten member
    have parts := regular d written info model
    obtain ⟨payload, same, accepted⟩ := exists_payload_of_instance readable reads present apart member
      model parts (admitsParts_of_known readable written model parts hasFields
        (fun field inside included value found known =>
          admits_of_hasType readable reads regular known (fields field inside included value found))
        hasComputed fun field inside value found known =>
          admits_of_hasType readable reads regular known (ofComputed field inside value found))
    exact ⟨payload, (source.catalog.payload_modelInstance d).trans (same false), accepted⟩
  | _ => cases isModel

end

end

end ModelSchema.SchemaSource
