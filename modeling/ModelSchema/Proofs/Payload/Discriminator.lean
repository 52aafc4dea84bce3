import ModelSchema.Proofs.Payload.Parts
import ModelSchema.Proofs.Schema.Records

/-!
The discriminator of an instance is the one in the schema of its class.

Payloads and bodies decide on their own which entries give way to the discriminator. Fields do in
both. A computed field does in a body, but in a payload it takes the place of the discriminator.

* `exists_payload_instance`: an instance has a payload when what it is written from has.
* `payload_of_computed`: what stands under the discriminator when a computed field is written there.
* `discriminator_agrees`: otherwise payloads and bodies have the same name of the class there.
-/

namespace ModelSchema

namespace Catalog

variable {catalog : Catalog} {excludeNull numericDurations : Bool} {c : ClassRef}
  {info : ModelInfo} {attributes computed : List (String × Value)} {d : String}

/-! ### Instances that have payloads -/

/-- Whether the attributes that an instance is written from can be read. -/
structure HasAttributes (info : ModelInfo) (attributes computed : List (String × Value)) :
    Prop where
  fields : ∀ field ∈ info.fields, field.excluded = false →
    (attributeValue? attributes field.name).isSome = true
  computed : ∀ field ∈ info.computed, (attributeValue? computed field.name).isSome = true

theorem exists_fieldEntries (owner : String) {discriminator : Option String} {fields : List Field}
    (readable : ∀ field ∈ fields, field.excluded = false →
      (attributeValue? attributes field.name).isSome = true)
    (each : ∀ part ∈ fieldParts discriminator excludeNull attributes fields,
      ∃ payload, catalog.IsPayload excludeNull numericDurations part.2 payload) :
    ∃ entries, fieldEntries owner discriminator excludeNull
      (catalog.attributeForms excludeNull numericDurations attributes) fields = .ok entries := by
  induction fields with
  | nil => exact ⟨[], rfl⟩
  | cons field rest ih =>
    have ih := ih fun other member => readable other (List.mem_cons_of_mem field member)
    unfold fieldParts at each ih
    rw [List.filter_cons] at each
    rw [fieldEntries]
    by_cases omitted : (field.excluded || discriminator = some field.publicName) = true
    · rw [isWrittenField, omitted, if_neg (by decide)] at each
      rw [if_pos omitted]
      exact ih each
    · have isIncluded : field.excluded = false := by
        rw [Bool.or_eq_true, not_or] at omitted
        exact Bool.eq_false_iff.mpr omitted.1
      obtain ⟨value, found⟩ :=
        Option.isSome_iff_exists.mp (readable field List.mem_cons_self isIncluded)
      rw [isWrittenField, Bool.eq_false_iff.mpr omitted, if_pos (by decide), List.filterMap_cons,
        found, Option.bind_some] at each
      rw [if_neg omitted, readAttribute_eq owner found]
      change ∃ entries, (if isOmitted excludeNull value = true then _ else _) = Except.ok entries
      by_cases isNull : isOmitted excludeNull value = true
      · rw [if_pos isNull] at each ⊢
        exact ih each
      · rw [if_neg isNull] at each ⊢
        obtain ⟨payload, own⟩ := each _ List.mem_cons_self
        obtain ⟨entries, later⟩ := ih fun part member => each part (List.mem_cons_of_mem _ member)
        have own : catalog.payloadWithin excludeNull numericDurations value = .ok payload := own
        exact ⟨(.str field.publicName, payload) :: entries, by rw [own, later]; rfl⟩

theorem exists_computedEntries (c : ClassRef) (info : ModelInfo) {fields : List ComputedField}
    (readable : ∀ field ∈ fields, (attributeValue? computed field.name).isSome = true)
    (each : ∀ part ∈ computedParts computed fields,
      ∃ payload, catalog.IsPayload excludeNull numericDurations part.2 payload) :
    ∃ entries, computedEntries catalog.table c info
      (catalog.attributeForms excludeNull numericDurations computed) fields = .ok entries := by
  induction fields with
  | nil => exact ⟨[], rfl⟩
  | cons field rest ih =>
    have ih := ih fun other member => readable other (List.mem_cons_of_mem field member)
    obtain ⟨value, found⟩ := Option.isSome_iff_exists.mp (readable field List.mem_cons_self)
    unfold computedParts at each ih
    rw [List.filterMap_cons, found, Option.map_some] at each
    obtain ⟨payload, own⟩ := each _ List.mem_cons_self
    obtain ⟨entries, later⟩ := ih fun part member => each part (List.mem_cons_of_mem _ member)
    have own : catalog.payloadWithin excludeNull numericDurations value = .ok payload := own
    refine ⟨(.str field.publicName, payload) :: entries, ?_⟩
    rw [computedEntries, find?_attributeForms, found]
    dsimp only [Option.map_some]
    rw [own, later]
    rfl

/-- An instance has a payload when its attributes can be read, and what it is written from has
payloads. -/
theorem exists_payload_instance (model : catalog.table.model? c = some info)
    (readable : HasAttributes info attributes computed)
    (each : ∀ part ∈ catalog.modelParts excludeNull c info attributes computed, ∃ payload,
      catalog.IsPayload excludeNull (catalog.table.numericDurations c) part.2 payload) :
    ∃ payload, catalog.IsPayload excludeNull numericDurations
      (.modelInstance c attributes computed) payload := by
  obtain ⟨fields, first⟩ := exists_fieldEntries (catalog.table.name c) readable.fields
    fun part member => each part (List.mem_append_left _ member)
  obtain ⟨others, second⟩ := exists_computedEntries c info readable.computed
    fun part member => each part (List.mem_append_right _ member)
  unfold IsPayload
  rw [payloadWithin_modelInstance]
  unfold modelEntries
  rw [model]
  dsimp only
  rw [first, second]
  exact ⟨_, rfl⟩

/-! ### What stands under the discriminator -/

theorem writtenDiscriminator?_eq (marked : catalog.discriminator? c = some d)
    (nonempty : d ≠ "") : catalog.writtenDiscriminator? c = some d := by
  rw [writtenDiscriminator?, marked, Option.bind_some, nonEmpty?, if_neg]
  simpa using nonempty

/-- No field is written under the discriminator. -/
theorem notMem_fieldParts {fields : List Field} :
    d ∉ (fieldParts (some d) excludeNull attributes fields).map (·.1) := by
  intro member
  obtain ⟨part, inside, same⟩ := List.mem_map.mp member
  obtain ⟨field, written, made⟩ := List.mem_filterMap.mp inside
  obtain ⟨value, -, made⟩ := Option.bind_eq_some_iff.mp made
  split at made
  · cases made
  · cases made
    have isWritten := (List.mem_filter.mp written).2
    have same : field.publicName = d := same
    simp [isWrittenField, same] at isWritten

/-- Computed fields are written under their public names. -/
theorem exists_of_mem_computedParts {fields : List ComputedField} {key : String}
    (member : key ∈ (computedParts computed fields).map (·.1)) :
    ∃ field ∈ fields, field.publicName = key := by
  obtain ⟨part, inside, same⟩ := List.mem_map.mp member
  obtain ⟨field, written, made⟩ := List.mem_filterMap.mp inside
  obtain ⟨value, -, rfl⟩ := Option.map_eq_some_iff.mp made
  exact ⟨field, written, same⟩

/-- The last computed field that is written under a key takes the place of everything else, be it
the discriminator. -/
theorem payload_of_computed (model : catalog.table.model? c = some info) {payload value : Value}
    (last : IsLastUnder d value (computedParts computed info.computed))
    (written : catalog.payloadWithin excludeNull numericDurations
      (.modelInstance c attributes computed) = .ok payload) :
    ∃ entries part, payload = .dict entries ∧ Node.get? entries d = some part
      ∧ catalog.IsPayload excludeNull (catalog.table.numericDurations c) value part := by
  obtain ⟨forms, rfl, each⟩ := payload_instance model written
  obtain ⟨before, after, split, absent⟩ := last
  have last : IsLastUnder d value (catalog.modelParts excludeNull c info attributes computed) :=
    ⟨_ ++ before, after, by rw [modelParts, split, List.append_assoc], absent⟩
  obtain ⟨part, own, found⟩ := get?_update_of_isLast each last (catalog.marker c)
  exact ⟨_, part, rfl, found, own⟩

/-- Where no computed field is written under the discriminator, the name of the class is. -/
theorem get?_discriminator (marked : catalog.discriminator? c = some d) (nonempty : d ≠ "")
    (apart : ∀ field ∈ info.computed, field.publicName ≠ d) {forms : Node}
    (each : List.Forall₂ (catalog.IsForm excludeNull (catalog.table.numericDurations c))
      (catalog.modelParts excludeNull c info attributes computed) forms) :
    Node.get? (Value.assocUpdate (catalog.marker c) forms) d
      = some (.str (catalog.typeName c)) := by
  have written := writtenDiscriminator?_eq marked nonempty
  have absent : d ∉ (catalog.modelParts excludeNull c info attributes computed).map (·.1) := by
    rw [modelParts, written, List.map_append, List.mem_append, not_or]
    refine ⟨notMem_fieldParts, fun member => ?_⟩
    obtain ⟨field, inside, same⟩ := exists_of_mem_computedParts member
    exact apart field inside same
  rw [get?_update_of_notMem each absent, marker, written]
  exact Node.get?_cons.trans (if_pos rfl)

/-- So wherever an instance stands, its payload has the name of its class there. -/
theorem Holds.get?_discriminator (marked : catalog.discriminator? c = some d) (nonempty : d ≠ "")
    (model : catalog.table.model? c = some info)
    (apart : ∀ field ∈ info.computed, field.publicName ≠ d) {n m : Bool} {value payload : Value}
    {path : List PayloadStep}
    (holds : catalog.Holds excludeNull n value path m (.modelInstance c attributes computed))
    (written : catalog.payloadWithin excludeNull n value = .ok payload) :
    ∃ entries, payload.part? path = some (.dict entries)
      ∧ Node.get? entries d = some (.str (catalog.typeName c)) := by
  obtain ⟨part, own, at?⟩ := holds.payload written
  obtain ⟨forms, rfl, each⟩ := payload_instance model own
  exact ⟨_, at?, Catalog.get?_discriminator marked nonempty apart each⟩

end Catalog

namespace SchemaSource

variable {source : SchemaSource} {c : ClassRef} {d : String}

/-- The node of the discriminator in a body. -/
theorem get?_propertyNodes_discriminator (written : source.discriminator? c = some d)
    (names : ClassRef → String) (props : List Property) :
    Node.get? (source.propertyNodes names c props) d
      = some (.dict (discriminatorNode (source.catalog.typeName c))) := by
  rw [get?_propertyNodes, if_pos written]

end SchemaSource

/-! ### Main result -/

section

open Catalog

variable {catalog : Catalog} {c : ClassRef} {info : ModelInfo} {d : String}

/-- Where no computed field of a model is written under its discriminator: the instances whose
attributes can be read and written have payloads; wherever such an instance stands, its payload has
the name of its class under the discriminator; and so has the body of the class, as the one value
of that property. -/
theorem discriminator_agrees (marked : catalog.discriminator? c = some d) (nonempty : d ≠ "")
    (model : catalog.table.model? c = some info)
    (apart : ∀ field ∈ info.computed, field.publicName ≠ d) :
    (∀ excludeNull numericDurations attributes computed, HasAttributes info attributes computed →
      (∀ part ∈ catalog.modelParts excludeNull c info attributes computed, ∃ payload,
        catalog.IsPayload excludeNull (catalog.table.numericDurations c) part.2 payload) →
      ∃ payload, catalog.IsPayload excludeNull numericDurations
        (.modelInstance c attributes computed) payload)
    ∧ (∀ excludeNull n m value payload path attributes computed,
      catalog.Holds excludeNull n value path m (.modelInstance c attributes computed) →
      catalog.IsPayload excludeNull n value payload →
      ∃ entries, payload.part? path = some (.dict entries)
        ∧ Node.get? entries d = some (.str (catalog.typeName c)))
    ∧ ∀ registry root names props, (catalog.table.config c).extra.join = none →
      ∃ nodes node, ((SchemaSource.mk catalog registry root).bodyNode names c props).get?
          "properties" = some (.dict nodes)
        ∧ Node.get? nodes d = some (.dict node)
        ∧ Node.get? node "enum" = some (.list [.str (catalog.typeName c)]) := by
  refine ⟨fun _ _ _ _ readable each => exists_payload_instance model readable each,
    fun excludeNull n m value payload path attributes computed holds written => ?_,
    fun registry root names props plain => ?_⟩
  · exact holds.get?_discriminator marked nonempty model apart written
  · have written : (SchemaSource.mk catalog registry root).discriminator? c = some d :=
      writtenDiscriminator?_eq marked nonempty
    exact ⟨_, SchemaSource.discriminatorNode (catalog.typeName c), SchemaSource.get?_body plain (by decide),
      SchemaSource.get?_propertyNodes_discriminator written names props,
      by simp [SchemaSource.discriminatorNode]⟩

end

/-! ### Examples -/

section

open Example

/-- The payload of the square in a drawing tells that it is one. -/
theorem discriminator_agrees_square :
    ∃ entries, sketchPayload.part? [.entry "figures", .item 0] = some (.dict entries)
      ∧ Node.get? entries "kind" = some (.str (figures.typeName square)) := by
  have marked : figures.discriminator? square = some "kind" := rfl
  obtain ⟨-, payloads, -⟩ := discriminator_agrees marked (by decide) rfl
    fun _ member => absurd member List.not_mem_nil
  exact payloads _ _ _ _ _ _ _ _ (holds_sketch (.item (by decide) rfl .here)) payload_sketch

/-- The label of a tag takes the place of its kind. -/
theorem not_discriminator_agrees_of_computed :
    ¬ ∀ (catalog : Catalog) (c : ClassRef) (info : ModelInfo) (d : String)
      (excludeNull numericDurations : Bool) (attributes computed : List (String × Value))
      (payload : Value),
      catalog.discriminator? c = some d → d ≠ "" → catalog.table.model? c = some info →
      catalog.payloadWithin excludeNull numericDurations (.modelInstance c attributes computed)
        = .ok payload →
      ∃ entries, payload = .dict entries
        ∧ Node.get? entries d = some (.str (catalog.typeName c)) := by
  intro agrees
  have written : tags.payloadWithin false false (.modelInstance tag [] [("label", .str "other")])
      = .ok (.dict (Value.assocUpdate [] [(.str "kind", .str "tag"), (.str "kind", .str "other")])) :=
    rfl
  have last : Value.assocUpdate [] [(.str "kind", .str "tag"), (.str "kind", .str "other")]
      = Node.single "kind" (.str "other") := by
    simp [Value.assocUpdate, Value.assocSet, Value.same_str, Value.text?, Node.single]
  rw [last] at written
  obtain ⟨entries, same, found⟩ := agrees tags tag _ "kind" false false []
    [("label", .str "other")] _ rfl (by decide) rfl written
  cases same
  have name : tags.typeName tag = "tag" := rfl
  rw [name, Node.get?_single, if_pos rfl] at found
  exact absurd (Value.str.inj (Option.some.inj found)) (by decide)

end

end ModelSchema
