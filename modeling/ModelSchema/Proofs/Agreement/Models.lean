import ModelSchema.Proofs.Agreement.Typing
import ModelSchema.Proofs.Schema.Dependence
import ModelSchema.Proofs.Schema.Node

/-!
The properties of a regular model, and what its instances are written as.

* `Catalog.HasPayload`, `Catalog.payloadOf`: whether a value can be written, and what it is written
  as.
* `payload_sequence`, `payload_entries`: collections and dictionaries have the payloads of their
  parts.
* `payload_model`: an instance has the discriminator of its class, and the payloads of its fields and
  of its computed fields under their public names.
* `HasRegularParts.properties_eq`: the properties are those of the fields and of the computed fields.
* `HasRegularParts.mem_bodyProperties`: all of them are in the body, but for one that the
  discriminator stands for.
* `keys_modelPayload`, `HasRegularParts.nodup_modelPayload`: an instance is written under the names of
  these and of the discriminator, each once.
-/

namespace ModelSchema

/-! ### Payloads of values whose parts have payloads -/

namespace Catalog

variable {catalog : Catalog} {numericDurations : Bool} {value : Value}

/-- What a value is written as. -/
def payloadOf (catalog : Catalog) (numericDurations : Bool) (value : Value) : Value :=
  match catalog.payloadWithin false numericDurations value with
  | .ok payload => payload
  | .error _ => .null

/-- Whether a value can be written. -/
def HasPayload (catalog : Catalog) (numericDurations : Bool) (value : Value) : Prop :=
  catalog.payloadWithin false numericDurations value
    = .ok (catalog.payloadOf numericDurations value)

theorem payloadOf_eq {payload : Value}
    (written : catalog.payloadWithin false numericDurations value = .ok payload) :
    catalog.payloadOf numericDurations value = payload := by
  unfold payloadOf
  rw [written]

theorem hasPayload_of_ok {payload : Value}
    (written : catalog.payloadWithin false numericDurations value = .ok payload) :
    catalog.HasPayload numericDurations value := by
  unfold HasPayload
  rw [payloadOf_eq written, written]

/-! ### Lists and dictionaries -/

theorem payload_items {items : List Value}
    (each : ∀ item ∈ items, catalog.HasPayload numericDurations item) :
    catalog.payloadItems false numericDurations items
      = .ok (items.map (catalog.payloadOf numericDurations)) := by
  induction items with
  | nil => rfl
  | cons item rest ih =>
    have here : catalog.payloadWithin false numericDurations item = _ :=
      each item List.mem_cons_self
    have later := ih fun other member => each other (List.mem_cons_of_mem item member)
    rw [payloadItems_cons, here, later]
    rfl

/-- A collection that is no deque has the list of the payloads of its items. -/
theorem payload_sequence {kind : Collection} (notDeque : kind ≠ .deque) {items : List Value}
    (each : ∀ item ∈ items, catalog.HasPayload numericDurations item) :
    catalog.payloadWithin false numericDurations (.collection kind items)
      = .ok (.list (items.map (catalog.payloadOf numericDurations))) := by
  rw [payloadWithin_collection notDeque, payload_items each]
  rfl

theorem payload_entries {fields : List (String × Value)}
    (each : ∀ field ∈ fields, catalog.HasPayload numericDurations field.2) :
    catalog.payloadEntries false numericDurations (Node.ofFields fields)
      = .ok (Node.ofFields (fields.map fun field =>
        (field.1, catalog.payloadOf numericDurations field.2))) := by
  induction fields with
  | nil => rfl
  | cons field rest ih =>
    have here : catalog.payloadWithin false numericDurations field.2 = _ :=
      each field List.mem_cons_self
    have later := ih fun other member => each other (List.mem_cons_of_mem field member)
    unfold Node.ofFields at later ⊢
    rw [List.map_cons, payloadEntries_cons, here, later]
    rfl

/-- Behind the keys of a dictionary are values that were set. -/
theorem exists_of_mem_update {fields : List (String × Value)} {entry : Value × Value} :
    ∀ {start : Node}, entry ∈ Value.assocUpdate start (Node.ofFields fields) →
      entry ∈ start ∨ ∃ field ∈ fields, entry.2 = field.2 := by
  induction fields with
  | nil => exact fun member => .inl member
  | cons field rest ih =>
    intro start member
    rcases ih member with set | ⟨other, inside, same⟩
    · exact (Value.mem_or_eq_of_mem_assocSet set).imp_right fun same => ⟨field, List.mem_cons_self, same⟩
    · exact .inr ⟨other, List.mem_cons_of_mem field inside, same⟩

/-! ### Attributes -/

variable {attributes computed : List (String × Value)} {name : String}

/-- What an attribute is written as. -/
def attributePayload (catalog : Catalog) (numericDurations : Bool)
    (attributes : List (String × Value)) (name : String) : Value :=
  ((attributeValue? attributes name).map (catalog.payloadOf numericDurations)).getD .null

/-- Whether there is a value for an attribute, which can be written. -/
def HasAttribute (catalog : Catalog) (numericDurations : Bool)
    (attributes : List (String × Value)) (name : String) : Prop :=
  ∃ value, attributeValue? attributes name = some value
    ∧ catalog.HasPayload numericDurations value

/-- The fields of a model with what they are written as. -/
def fieldPayloads (catalog : Catalog) (numericDurations : Bool) (discriminator : Option String)
    (attributes : List (String × Value)) (fields : List Field) : List (String × Value) :=
  (fields.filter (isWrittenField discriminator)).map fun field =>
    (field.publicName, catalog.attributePayload numericDurations attributes field.name)

/-- The computed fields of a model with what they are written as. -/
def computedPayloads (catalog : Catalog) (numericDurations : Bool)
    (computed : List (String × Value)) (fields : List ComputedField) : List (String × Value) :=
  fields.map fun field =>
    (field.publicName, catalog.attributePayload numericDurations computed field.name)

theorem attributePayload_eq {value : Value} (found : attributeValue? attributes name = some value) :
    catalog.attributePayload numericDurations attributes name
      = catalog.payloadOf numericDurations value := by
  unfold attributePayload
  rw [found]
  rfl

theorem payload_fields {owner : String} {discriminator : Option String} {fields : List Field}
    (each : ∀ field ∈ fields, isWrittenField discriminator field = true →
      catalog.HasAttribute numericDurations attributes field.name) :
    fieldEntries owner discriminator false
        (catalog.attributeForms false numericDurations attributes) fields
      = .ok (Node.ofFields
        (catalog.fieldPayloads numericDurations discriminator attributes fields)) := by
  induction fields with
  | nil => rfl
  | cons field rest ih =>
    have later := ih fun other member => each other (List.mem_cons_of_mem field member)
    unfold fieldPayloads at later ⊢
    rw [fieldEntries, List.filter_cons]
    unfold isWrittenField at later ⊢
    by_cases omitted : (field.excluded || discriminator = some field.publicName) = true
    · rw [if_pos omitted, omitted]
      exact later
    · have isWritten : isWrittenField discriminator field = true := by
        rw [isWrittenField, Bool.eq_false_iff.mpr omitted]
        rfl
      obtain ⟨value, found, written⟩ := each field List.mem_cons_self isWritten
      rw [if_neg omitted, readAttribute_eq owner found, Bool.eq_false_iff.mpr omitted]
      dsimp only [bind, Except.bind]
      rw [written, later, ← attributePayload_eq found]
      rfl

theorem payload_computed {c : ClassRef} {info : ModelInfo} {fields : List ComputedField}
    (each : ∀ field ∈ fields, catalog.HasAttribute numericDurations computed field.name) :
    computedEntries catalog.table c info
        (catalog.attributeForms false numericDurations computed) fields
      = .ok (Node.ofFields (catalog.computedPayloads numericDurations computed fields)) := by
  induction fields with
  | nil => rfl
  | cons field rest ih =>
    have later := ih fun other member => each other (List.mem_cons_of_mem field member)
    obtain ⟨value, found, written⟩ := each field List.mem_cons_self
    unfold computedPayloads at later ⊢
    rw [computedEntries, find?_attributeForms, found, List.map_cons, attributePayload_eq found]
    dsimp only [Option.map_some]
    rw [written, later]
    rfl

/-! ### Models -/

/-- An instance is written in one way, whatever stands around it. -/
theorem payload_modelInstance (c : ClassRef) :
    catalog.payload false (.modelInstance c attributes computed)
      = catalog.payloadWithin false numericDurations (.modelInstance c attributes computed) := by
  unfold payload
  rw [payloadWithin_modelInstance, payloadWithin_modelInstance]

/-- The entries that an instance is written with. -/
def modelPayload (catalog : Catalog) (c : ClassRef) (info : ModelInfo)
    (attributes computed : List (String × Value)) : List (String × Value) :=
  (catalog.writtenDiscriminator? c).toList.map (fun property =>
      (property, Value.str (catalog.typeName c)))
    ++ catalog.fieldPayloads (catalog.table.numericDurations c) (catalog.writtenDiscriminator? c)
      attributes info.fields
    ++ catalog.computedPayloads (catalog.table.numericDurations c) computed info.computed

theorem payload_model {c : ClassRef} {info : ModelInfo}
    (model : catalog.table.model? c = some info)
    (distinct : ((catalog.modelPayload c info attributes computed).map (·.1)).Nodup)
    (fields : ∀ field ∈ info.fields, isWrittenField (catalog.writtenDiscriminator? c) field = true →
      catalog.HasAttribute (catalog.table.numericDurations c) attributes field.name)
    (others : ∀ field ∈ info.computed,
      catalog.HasAttribute (catalog.table.numericDurations c) computed field.name) :
    catalog.payloadWithin false numericDurations (.modelInstance c attributes computed)
      = .ok (.dict (Node.ofFields (catalog.modelPayload c info attributes computed))) := by
  have alone : Value.assocUpdate [] (Node.ofFields (catalog.modelPayload c info attributes computed))
      = Node.ofFields (catalog.modelPayload c info attributes computed) :=
    Node.update_ofFields distinct
  rw [payloadWithin_modelInstance]
  unfold modelEntries
  rw [model]
  dsimp only
  rw [payload_fields fields, payload_computed others]
  refine congrArg (fun entries => Except.ok (Value.dict entries)) (Eq.trans ?_ alone)
  refine congrArg (Value.assocUpdate []) ?_
  unfold modelPayload
  generalize catalog.fieldPayloads _ _ attributes info.fields = ofFields
  cases catalog.writtenDiscriminator? c with
  | none => simp [Node.ofFields]
  | some property => simp [Node.ofFields]

end Catalog

/-! ### Properties of regular models -/

theorem mapM_eq_ok {α β ε : Type} {f : α → Except ε β} {g : α → β} :
    ∀ {list : List α}, (∀ a ∈ list, f a = .ok (g a)) → list.mapM f = .ok (list.map g)
  | [], _ => rfl
  | a :: rest, same => by
    rw [List.mapM_cons, same a List.mem_cons_self,
      mapM_eq_ok fun b member => same b (List.mem_cons_of_mem a member)]
    rfl

/-- The property of a field without limits. -/
def ClassTable.unlimitedProperty (table : ClassTable) (field : Field) : Property :=
  let annotation := table.resolve field.annotation
  let optional := annotation.isOptional
  let explicitlyRequired := field.notes.any fun
    | .required => true
    | _ => false
  { name := field.name
    publicName := field.publicName
    annotation := annotation
    required := explicitlyRequired || (field.default.isNone && !optional)
    optional := optional
    explicitlyRequired := explicitlyRequired
    title := field.title
    description := field.description
    extra := field.extra
    limits := []
    readOnly := false }

theorem ClassTable.fieldProperty_eq {table : ClassTable} {field : Field}
    (unlimited : limitsOf field.notes = .ok []) :
    table.fieldProperty field = .ok (table.unlimitedProperty field) := by
  unfold fieldProperty
  rw [unlimited]
  rfl

namespace Catalog

variable {catalog : Catalog} {c : ClassRef} {info : ModelInfo} {props : List Property}
  {p : Property}

/-- The properties of a model whose parts are regular. -/
def regularProperties (catalog : Catalog) (info : ModelInfo) : List Property :=
  (info.fields.filter fun field => !field.excluded).map catalog.table.unlimitedProperty
    ++ info.computed.map catalog.table.computedProperty

theorem mem_regularProperties : p ∈ catalog.regularProperties info
    ↔ (∃ field ∈ info.fields, field.excluded = false ∧ catalog.table.unlimitedProperty field = p)
      ∨ ∃ field ∈ info.computed, catalog.table.computedProperty field = p := by
  simp [regularProperties, and_assoc]

theorem limits_of_mem_regularProperties (member : p ∈ catalog.regularProperties info) :
    p.limits = [] := by
  rw [mem_regularProperties] at member
  rcases member with ⟨field, -, -, rfl⟩ | ⟨field, -, rfl⟩
  · rfl
  · rfl

variable {attributes computed : List (String × Value)}

theorem keys_modelPayload : (catalog.modelPayload c info attributes computed).map (·.1)
    = (catalog.writtenDiscriminator? c).toList
      ++ (info.fields.filter (isWrittenField (catalog.writtenDiscriminator? c))).map
        Field.publicName
      ++ info.computed.map ComputedField.publicName := by
  simp [modelPayload, fieldPayloads, computedPayloads, Function.comp_def]

namespace HasRegularParts

variable {isPart : ClassRef → Prop} (regular : catalog.HasRegularParts isPart c info)
include regular

theorem modelProperties_eq :
    catalog.table.modelProperties info = .ok (catalog.regularProperties info) := by
  unfold ClassTable.modelProperties
  rw [mapM_eq_ok fun field member => ?_]
  · rfl
  · obtain ⟨inside, included⟩ := List.mem_filter.mp member
    exact ClassTable.fieldProperty_eq (regular.unlimited field inside (by simpa using included))

theorem properties_eq (model : catalog.table.model? c = some info)
    (found : catalog.table.properties c = .ok props) :
    props = catalog.regularProperties info := by
  rw [ClassTable.properties_of_complete (ClassTable.properties_eq_ok found).1, model] at found
  dsimp only at found
  rw [regular.modelProperties_eq] at found
  cases found
  rfl

theorem distinct_properties : HasDistinctKeys (catalog.regularProperties info) := by
  have keys : (catalog.regularProperties info).map (·.publicName)
      = (info.fields.filter fun field => !field.excluded).map Field.publicName
        ++ info.computed.map ComputedField.publicName := by
    unfold regularProperties
    rw [List.map_append, List.map_map, List.map_map]
    rfl
  unfold HasDistinctKeys
  rw [keys]
  exact regular.distinct

theorem annotation_isPart (member : p ∈ catalog.regularProperties info) :
    p.annotation.BuiltFrom isPart := by
  rw [mem_regularProperties] at member
  rcases member with ⟨field, inside, included, rfl⟩ | ⟨field, inside, rfl⟩
  · exact regular.annotation field inside included
  · exact regular.returns field inside

/-- Two properties with one name are a field and a computed field. -/
theorem apart_properties : ApartFromEachOther (catalog.regularProperties info) := by
  intro p hp q hq same
  have same := Property.isSame_iff.mp same
  rw [mem_regularProperties] at hp hq
  rcases hp with ⟨f, hf, -, rfl⟩ | ⟨f, hf, rfl⟩
  · rcases hq with ⟨g, hg, -, rfl⟩ | ⟨g, hg, rfl⟩
    · rw [List.inj_on_of_nodup_map regular.fieldNames hf hg same.1]
    · cases same.2
  · rcases hq with ⟨g, hg, -, rfl⟩ | ⟨g, hg, rfl⟩
    · cases same.2
    · rw [List.inj_on_of_nodup_map regular.computedNames hf hg same.1]

theorem mem_bodyProperties {source : SchemaSource} :
    p ∈ source.bodyProperties c (catalog.regularProperties info)
      ↔ p ∈ catalog.regularProperties info ∧ some p.publicName ≠ source.discriminator? c := by
  unfold SchemaSource.bodyProperties
  rw [List.mem_filter, bne_iff_ne]
  exact and_congr_left fun _ =>
    ⟨mem_of_mem_orderProperties, mem_orderProperties regular.apart_properties⟩

omit regular in
/-- All properties in the body are written. -/
theorem mem_keys_modelPayload {source : SchemaSource}
    (regular : source.catalog.HasRegularParts isPart c info)
    (member : p ∈ source.bodyProperties c (source.catalog.regularProperties info)) :
    p.publicName ∈ (source.catalog.modelPayload c info attributes computed).map (·.1) := by
  rw [regular.mem_bodyProperties, mem_regularProperties] at member
  obtain ⟨isProperty, apart⟩ := member
  rw [keys_modelPayload, List.mem_append, List.mem_append]
  rcases isProperty with ⟨field, inside, included, rfl⟩ | ⟨field, inside, rfl⟩
  · have isWritten := isWrittenField_iff.mpr ⟨included, Ne.symm apart⟩
    exact .inl (.inr (List.mem_map_of_mem (List.mem_filter.mpr ⟨inside, isWritten⟩)))
  · exact .inr (List.mem_map_of_mem inside)

/-- No two parts of an instance are written under one name. -/
theorem nodup_modelPayload :
    ((catalog.modelPayload c info attributes computed).map (·.1)).Nodup := by
  have included : (info.fields.filter (isWrittenField (catalog.writtenDiscriminator? c))).Sublist
      (info.fields.filter fun field => !field.excluded) := by
    refine List.monotone_filter_right _ fun field isWritten => ?_
    rw [(isWrittenField_iff.mp isWritten).1]
    rfl
  have others := regular.distinct.sublist
    ((included.map Field.publicName).append_right (info.computed.map ComputedField.publicName))
  rw [keys_modelPayload, List.append_assoc, List.nodup_append]
  refine ⟨by cases catalog.writtenDiscriminator? c <;> simp, others, ?_⟩
  rintro property isDiscriminator _ isKey rfl
  have isDiscriminator := Option.mem_toList.mp isDiscriminator
  rcases List.mem_append.mp isKey with ofField | ofComputed
  · obtain ⟨field, member, rfl⟩ := List.mem_map.mp ofField
    exact (isWrittenField_iff.mp (List.mem_filter.mp member).2).2 isDiscriminator
  · obtain ⟨field, member, rfl⟩ := List.mem_map.mp ofComputed
    exact regular.apart field member isDiscriminator

/-- An instance has the name of its class under the discriminator. -/
theorem get?_modelPayload {property : String}
    (isDiscriminator : catalog.writtenDiscriminator? c = some property) :
    (Node.ofFields (catalog.modelPayload c info attributes computed)).get? property
      = some (.str (catalog.typeName c)) := by
  have member : (property, .str (catalog.typeName c))
      ∈ catalog.modelPayload c info attributes computed := by
    unfold modelPayload
    rw [isDiscriminator]
    exact List.mem_cons_self
  exact Node.get?_ofFields_of_mem regular.nodup_modelPayload member

end HasRegularParts

end Catalog

end ModelSchema
