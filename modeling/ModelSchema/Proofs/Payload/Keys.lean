import ModelSchema.Proofs.Payload.Discriminator
import ModelSchema.Proofs.Property

/-!
Instances are written under the keys that the body of their class has.

Which fields are written, and under which names, is said twice: once for payloads, and once for
properties, which are ordered and lose those under the discriminator. Both come to the same keys,
whatever names clash.

* `ClassTable.exists_property_iff`: the public names of the properties of a model.
* `Catalog.mem_keys_payload`: the keys under which an instance is written.
* `SchemaSource.mem_keys_propertyNodes`: the keys of the properties in a body.
* `keys_agree`: they are the same, and every name that the body requires is one of them.
-/

namespace ModelSchema

/-! ### Keys of records -/

namespace Node

variable {node : Node} {key : String} {value other : Value}

/-- A keyword that is set is a key then, besides those that were there. -/
theorem mem_keys_set (record : node.IsRecord) :
    other ∈ (node.set key value).map (·.1) ↔ other = .str key ∨ other ∈ node.map (·.1) := by
  obtain ⟨fields, -, rfl⟩ := record
  unfold set Value.assocSet
  split
  next there =>
    obtain ⟨entry, member, same⟩ := List.any_eq_true.mp there
    obtain ⟨⟨name, old⟩, inside, rfl⟩ := List.mem_map.mp member
    have same : name = key := by simpa [Value.same_str, Value.text?] using same
    have isKey : .str key ∈ (ofFields fields).map (·.1) :=
      List.mem_map.mpr ⟨_, member, by rw [same]⟩
    have kept : ∀ replace : Value × Value → Value × Value,
        (∀ field, (replace field).1 = field.1) →
        ((ofFields fields).map replace).map (·.1) = (ofFields fields).map (·.1) := by
      intro replace same
      rw [List.map_map]
      exact List.map_congr_left fun field _ => same field
    rw [kept _ fun field => by dsimp only; split <;> rfl]
    constructor
    · exact .inr
    · rintro (rfl | member)
      · exact isKey
      · exact member
  next =>
    rw [List.map_append, List.mem_append, List.map_singleton, List.mem_singleton]
    exact or_comm

end Node

/-- Nodes of properties that are set one after the other have their names as keys. -/
theorem SchemaSource.mem_keys_foldl_set {nodeOf : Property → Value} {key : Value} :
    ∀ {props : List Property} {start : Node}, start.IsRecord →
      (key ∈ (props.foldl (fun nodes p => Node.set nodes p.publicName (nodeOf p)) start).map (·.1)
        ↔ key ∈ start.map (·.1) ∨ ∃ p ∈ props, key = .str p.publicName)
  | [], _, _ => by simp
  | p :: rest, start, record => by
    rw [List.foldl_cons, mem_keys_foldl_set (Node.isRecord_set record), Node.mem_keys_set record]
    simp only [List.mem_cons, exists_eq_or_imp]
    tauto

/-! ### Public names -/

/-- Whether the fields of a model have different names, and so have its computed fields. -/
structure ModelInfo.HasDistinctFields (info : ModelInfo) : Prop where
  fields : (info.fields.map (·.name)).Nodup
  computed : (info.computed.map (·.name)).Nodup

/-- Whether a model has a field, not excluded, or a computed field with a public name. -/
def ModelInfo.IsPublic (info : ModelInfo) (key : String) : Prop :=
  (∃ field ∈ info.fields, field.excluded = false ∧ field.publicName = key)
    ∨ ∃ field ∈ info.computed, field.publicName = key

/-- Every member of a list of checks that succeed has its result among theirs. -/
theorem exists_mem_of_mapM {α β ε : Type} {f : α → Except ε β} {a : α} :
    ∀ {list : List α} {results : List β}, list.mapM f = .ok results → a ∈ list →
      ∃ b ∈ results, f a = .ok b
  | [], _, _, member => absurd member List.not_mem_nil
  | first :: rest, results, made, member => by
    rw [List.mapM_cons] at made
    obtain ⟨here, own, made⟩ := exists_of_bind_eq_ok made
    obtain ⟨others, later, made⟩ := exists_of_bind_eq_ok made
    cases made
    rcases List.mem_cons.mp member with rfl | member
    · exact ⟨here, List.mem_cons_self, own⟩
    · obtain ⟨b, inside, result⟩ := exists_mem_of_mapM later member
      exact ⟨b, List.mem_cons_of_mem _ inside, result⟩

namespace ClassTable

variable {table : ClassTable} {c : ClassRef} {info : ModelInfo} {props : List Property}
  {field : Field} {p : Property}

/-- The property of a field has the names of the field. -/
theorem names_of_fieldProperty (made : table.fieldProperty field = .ok p) :
    p.name = field.name ∧ p.publicName = field.publicName ∧ p.readOnly = false := by
  unfold fieldProperty at made
  obtain ⟨limits, -, made⟩ := exists_of_bind_eq_ok made
  cases made
  exact ⟨rfl, rfl, rfl⟩

theorem annotation_of_fieldProperty (made : table.fieldProperty field = .ok p) :
    p.annotation = table.resolve field.annotation := by
  unfold fieldProperty at made
  obtain ⟨limits, -, made⟩ := exists_of_bind_eq_ok made
  cases made
  rfl

/-- A property is that of a field, not excluded, or of a computed field. -/
theorem origin_of_property (model : table.model? c = some info)
    (found : table.properties c = .ok props) (member : p ∈ props) :
    (∃ field ∈ info.fields, field.excluded = false ∧ table.fieldProperty field = .ok p)
      ∨ ∃ field ∈ info.computed, table.computedProperty field = p := by
  obtain ⟨-, parts⟩ := properties_eq_ok found
  rw [model] at parts
  obtain ⟨fields, each, rfl⟩ := parts
  rcases List.mem_append.mp member with ofField | ofComputed
  · obtain ⟨field, inside, made⟩ := exists_of_mem_mapM each ofField
    obtain ⟨isField, included⟩ := List.mem_filter.mp inside
    exact .inl ⟨field, isField, by simpa using included, made⟩
  · exact .inr (List.mem_map.mp ofComputed)

/-- The properties of a model have the public names of its fields. -/
theorem exists_property_iff (model : table.model? c = some info)
    (found : table.properties c = .ok props) {key : String} :
    (∃ p ∈ props, p.publicName = key) ↔ info.IsPublic key := by
  constructor
  · rintro ⟨p, member, rfl⟩
    rcases origin_of_property model found member with ⟨field, inside, included, made⟩ | ofComputed
    · exact .inl ⟨field, inside, included, (names_of_fieldProperty made).2.1.symm⟩
    · obtain ⟨field, inside, rfl⟩ := ofComputed
      exact .inr ⟨field, inside, rfl⟩
  · obtain ⟨-, parts⟩ := properties_eq_ok found
    rw [model] at parts
    obtain ⟨fields, each, rfl⟩ := parts
    rintro (⟨field, isField, included, rfl⟩ | ⟨field, inside, rfl⟩)
    · have inside : field ∈ info.fields.filter fun field => !field.excluded :=
        List.mem_filter.mpr ⟨isField, by simp [included]⟩
      obtain ⟨p, member, made⟩ := exists_mem_of_mapM each inside
      exact ⟨p, List.mem_append_left _ member, (names_of_fieldProperty made).2.1⟩
    · exact ⟨_, List.mem_append_right _ (List.mem_map_of_mem inside), rfl⟩

/-- Two properties with one name are those of a field and of a computed field. -/
theorem apart_of_distinctFields (model : table.model? c = some info)
    (named : info.HasDistinctFields) (found : table.properties c = .ok props) :
    ApartFromEachOther props := by
  obtain ⟨-, parts⟩ := properties_eq_ok found
  rw [model] at parts
  obtain ⟨fields, each, rfl⟩ := parts
  have ofField : ∀ p ∈ fields, p.readOnly = false
      ∧ ∃ field ∈ info.fields, field.name = p.name ∧ table.fieldProperty field = .ok p := by
    intro p member
    obtain ⟨field, inside, made⟩ := exists_of_mem_mapM each member
    obtain ⟨name, -, kind⟩ := names_of_fieldProperty made
    exact ⟨kind, field, (List.mem_filter.mp inside).1, name.symm, made⟩
  intro p hp q hq same
  obtain ⟨name, kind⟩ := Property.isSame_iff.mp same
  rcases List.mem_append.mp hp with hp | hp <;> rcases List.mem_append.mp hq with hq | hq
  · obtain ⟨-, f, hf, nameF, madeF⟩ := ofField p hp
    obtain ⟨-, g, hg, nameG, madeG⟩ := ofField q hq
    have same : f = g :=
      List.inj_on_of_nodup_map named.fields hf hg (nameF.trans (name.trans nameG.symm))
    subst same
    exact Except.ok.inj (madeF.symm.trans madeG)
  · obtain ⟨g, -, rfl⟩ := List.mem_map.mp hq
    cases (ofField p hp).1.symm.trans kind
  · obtain ⟨f, -, rfl⟩ := List.mem_map.mp hp
    cases kind.trans (ofField q hq).1
  · obtain ⟨f, hf, rfl⟩ := List.mem_map.mp hp
    obtain ⟨g, hg, rfl⟩ := List.mem_map.mp hq
    rw [List.inj_on_of_nodup_map named.computed hf hg name]

end ClassTable

/-! ### What an instance is written under -/

namespace Catalog

variable {catalog : Catalog} {numericDurations : Bool} {c : ClassRef} {info : ModelInfo}
  {attributes computed : List (String × Value)}

/-- Parts that are set one after the other have their names as keys. -/
theorem mem_keys_update {excludeNull : Bool} {parts : List (String × Value)} {forms start : Node}
    {key : Value} (each : List.Forall₂ (catalog.IsForm excludeNull numericDurations) parts forms)
    (record : start.IsRecord) :
    key ∈ (Value.assocUpdate start forms).map (·.1)
      ↔ key ∈ start.map (·.1) ∨ ∃ part ∈ parts, key = .str part.1 := by
  induction each generalizing start with
  | nil => simp [Value.assocUpdate]
  | @cons part form parts forms isForm _ ih =>
    rw [update_cons isForm, ih (Node.isRecord_set record), Node.mem_keys_set record]
    simp only [List.mem_cons, exists_eq_or_imp]
    tauto

theorem mem_keys_marker {key : Value} :
    key ∈ (catalog.marker c).map (·.1)
      ↔ ∃ property, catalog.writtenDiscriminator? c = some property ∧ key = .str property := by
  unfold marker
  cases catalog.writtenDiscriminator? c <;> simp

/-- A field is written, unless it stands under the discriminator or its value is left out. -/
theorem mem_modelParts_of_field {excludeNull : Bool} {field : Field} {value : Value}
    (inside : field ∈ info.fields) (included : field.excluded = false)
    (apart : catalog.writtenDiscriminator? c ≠ some field.publicName)
    (found : attributeValue? attributes field.name = some value)
    (kept : isOmitted excludeNull value = false) :
    (field.publicName, value) ∈ catalog.modelParts excludeNull c info attributes computed := by
  refine List.mem_append_left _ (List.mem_filterMap.mpr ⟨field, ?_, ?_⟩)
  · exact List.mem_filter.mpr ⟨inside, isWrittenField_iff.mpr ⟨included, apart⟩⟩
  · rw [found, Option.bind_some, kept]
    rfl

/-- A computed field is always written. -/
theorem mem_modelParts_of_computed {excludeNull : Bool} {field : ComputedField} {value : Value}
    (inside : field ∈ info.computed)
    (found : attributeValue? computed field.name = some value) :
    (field.publicName, value) ∈ catalog.modelParts excludeNull c info attributes computed :=
  List.mem_append_right _ (List.mem_filterMap.mpr ⟨field, inside, by rw [found]; rfl⟩)

/-- The names under which the fields and computed fields of an instance are written, when its
attributes can be read and nothing is left out. -/
theorem exists_part_iff (readable : HasAttributes info attributes computed) {key : String} :
    (∃ part ∈ catalog.modelParts false c info attributes computed, part.1 = key)
      ↔ (∃ field ∈ info.fields, field.excluded = false ∧ field.publicName = key
          ∧ catalog.writtenDiscriminator? c ≠ some key)
        ∨ ∃ field ∈ info.computed, field.publicName = key := by
  constructor
  · rintro ⟨part, member, rfl⟩
    rcases List.mem_append.mp member with ofField | ofComputed
    · obtain ⟨field, written, made⟩ := List.mem_filterMap.mp ofField
      obtain ⟨value, -, made⟩ := Option.bind_eq_some_iff.mp made
      cases made
      obtain ⟨inside, isWritten⟩ := List.mem_filter.mp written
      obtain ⟨included, apart⟩ := isWrittenField_iff.mp isWritten
      exact .inl ⟨field, inside, included, rfl, apart⟩
    · exact .inr (exists_of_mem_computedParts (List.mem_map_of_mem ofComputed))
  · rintro (⟨field, inside, included, rfl, apart⟩ | ⟨field, inside, rfl⟩)
    · obtain ⟨value, found⟩ := Option.isSome_iff_exists.mp (readable.fields field inside included)
      exact ⟨_, mem_modelParts_of_field inside included apart found rfl, rfl⟩
    · obtain ⟨value, found⟩ := Option.isSome_iff_exists.mp (readable.computed field inside)
      exact ⟨_, mem_modelParts_of_computed inside found, rfl⟩

/-- An instance is written under the discriminator of its class and the names of its parts, and
under nothing else. -/
theorem mem_keys_modelParts {excludeNull : Bool} {forms : Node}
    (each : List.Forall₂ (catalog.IsForm excludeNull numericDurations)
      (catalog.modelParts excludeNull c info attributes computed) forms) {key : Value} :
    key ∈ (Value.assocUpdate (catalog.marker c) forms).map (·.1)
      ↔ ∃ name, key = .str name ∧ (catalog.writtenDiscriminator? c = some name
        ∨ ∃ part ∈ catalog.modelParts excludeNull c info attributes computed, part.1 = name) := by
  rw [mem_keys_update each isRecord_marker, mem_keys_marker]
  constructor
  · rintro (⟨name, isMarked, rfl⟩ | ⟨part, member, rfl⟩)
    · exact ⟨name, rfl, .inl isMarked⟩
    · exact ⟨_, rfl, .inr ⟨part, member, rfl⟩⟩
  · rintro ⟨_, rfl, isMarked | ⟨part, member, rfl⟩⟩
    · exact .inl ⟨_, isMarked, rfl⟩
    · exact .inr ⟨part, member, rfl⟩

/-- These are the discriminator and the public names of its fields, when its attributes can be read
and nothing is left out. -/
theorem mem_keys_payload (readable : HasAttributes info attributes computed) {forms : Node}
    (each : List.Forall₂ (catalog.IsForm false numericDurations)
      (catalog.modelParts false c info attributes computed) forms) {key : Value} :
    key ∈ (Value.assocUpdate (catalog.marker c) forms).map (·.1)
      ↔ ∃ name, key = .str name
        ∧ (catalog.writtenDiscriminator? c = some name ∨ info.IsPublic name) := by
  rw [mem_keys_modelParts each]
  refine exists_congr fun name => and_congr_right fun _ => ?_
  rw [exists_part_iff readable]
  constructor
  · rintro (isMarked | written)
    · exact .inl isMarked
    · exact .inr (written.imp_left fun ⟨field, inside, included, same, _⟩ =>
        ⟨field, inside, included, same⟩)
  · rintro (isMarked | isPublic)
    · exact .inl isMarked
    · by_cases isMarked : catalog.writtenDiscriminator? c = some name
      · exact .inl isMarked
      · exact .inr (isPublic.imp_left fun ⟨field, inside, included, same⟩ =>
          ⟨field, inside, included, same, isMarked⟩)

end Catalog

/-! ### What a body has -/

namespace SchemaSource

variable {source : SchemaSource} {names : ClassRef → String} {c : ClassRef} {info : ModelInfo}
  {props : List Property}

/-- Ordering keeps the properties of a body, but for those under the discriminator. -/
theorem mem_bodyProperties (apart : ApartFromEachOther props) {p : Property} :
    p ∈ source.bodyProperties c props
      ↔ p ∈ props ∧ some p.publicName ≠ source.discriminator? c := by
  unfold bodyProperties
  rw [List.mem_filter, bne_iff_ne]
  exact and_congr_left fun _ => ⟨mem_of_mem_orderProperties, mem_orderProperties apart⟩

/-- The properties in a body have the discriminator of the class and the public names of its fields
as keys, and nothing else. -/
theorem mem_keys_propertyNodes (model : source.catalog.table.model? c = some info)
    (named : info.HasDistinctFields) (found : source.catalog.table.properties c = .ok props)
    {key : Value} :
    key ∈ (source.propertyNodes names c props).map (·.1)
      ↔ ∃ name, key = .str name
        ∧ (source.discriminator? c = some name ∨ info.IsPublic name) := by
  have apart := ClassTable.apart_of_distinctFields model named found
  obtain ⟨start, record, marked, made⟩ : ∃ start : Node, start.IsRecord
      ∧ (key ∈ start.map (·.1) ↔ ∃ name, key = .str name ∧ source.discriminator? c = some name)
      ∧ source.propertyNodes names c props = (source.bodyProperties c props).foldl (fun nodes p =>
        Node.set nodes p.publicName (.dict (source.propertyNode names c p))) start := by
    unfold propertyNodes
    cases source.discriminator? c with
    | none => exact ⟨_, Node.isRecord_nil, by simp, rfl⟩
    | some d => exact ⟨_, isRecord_single, by simp [Node.single], rfl⟩
  rw [made, mem_keys_foldl_set record, marked]
  constructor
  · rintro (⟨name, rfl, isMarked⟩ | ⟨p, member, rfl⟩)
    · exact ⟨name, rfl, .inl isMarked⟩
    · obtain ⟨inside, -⟩ := (mem_bodyProperties apart).mp member
      exact ⟨_, rfl, .inr ((ClassTable.exists_property_iff model found).mp ⟨p, inside, rfl⟩)⟩
  · rintro ⟨name, rfl, isMarked | isPublic⟩
    · exact .inl ⟨name, rfl, isMarked⟩
    · by_cases isMarked : source.discriminator? c = some name
      · exact .inl ⟨name, rfl, isMarked⟩
      · obtain ⟨p, inside, rfl⟩ := (ClassTable.exists_property_iff model found).mpr isPublic
        exact .inr ⟨p, (mem_bodyProperties apart).mpr ⟨inside, Ne.symm isMarked⟩, rfl⟩

/-- What a body requires is the discriminator or the public name of a property. -/
theorem isKey_of_mem_requiredNames (model : source.catalog.table.model? c = some info)
    (named : info.HasDistinctFields) (found : source.catalog.table.properties c = .ok props)
    {name : String} (member : name ∈ source.requiredNames c props) :
    source.discriminator? c = some name ∨ info.IsPublic name := by
  rcases List.mem_append.mp member with isMarked | ofProperty
  · exact .inl (Option.mem_toList.mp isMarked)
  · obtain ⟨p, required, rfl⟩ := List.mem_map.mp ofProperty
    have apart := ClassTable.apart_of_distinctFields model named found
    obtain ⟨inside, -⟩ := (mem_bodyProperties apart).mp (List.mem_filter.mp required).1
    exact .inr ((ClassTable.exists_property_iff model found).mp ⟨p, inside, rfl⟩)

/-- The properties in a body without a fragment, to which no others can be added. -/
theorem get?_properties (plain : (source.catalog.table.config c).extra.join = none) :
    (source.bodyNode names c props).get? "properties"
        = some (.dict (source.propertyNodes names c props))
      ∧ (source.bodyNode names c props).get? "additionalProperties" = some (.bool false) := by
  constructor
  · rw [get?_body plain (by decide), if_neg (by decide), if_neg (by decide), if_neg (by decide),
      if_pos rfl]
  · rw [get?_body plain (by decide), if_neg (by decide), if_neg (by decide), if_pos rfl]

/-- The list of required names in a body without a fragment, if there is one. -/
theorem get?_required (plain : (source.catalog.table.config c).extra.join = none) :
    (source.bodyNode names c props).get? "required"
      = if (source.requiredNames c props).isEmpty then none
        else some (.strings (source.requiredNames c props)) := by
  rw [bodyNode_of_plain plain, get?_plainBody]
  cases source.requiredNames c props <;> simp

end SchemaSource

/-! ### Main result -/

section

open Catalog

variable {catalog : Catalog} {c : ClassRef} {info : ModelInfo} {props : List Property}

/-- An instance whose attributes can be read and written has a payload, and its keys are those of
the properties in the body of its class. The body admits no further ones, and those that it
requires are among them. -/
theorem keys_agree (model : catalog.table.model? c = some info) (named : info.HasDistinctFields)
    (found : catalog.table.properties c = .ok props)
    (plain : (catalog.table.config c).extra.join = none) (numericDurations : Bool)
    {attributes computed : List (String × Value)}
    (readable : HasAttributes info attributes computed)
    (written : ∀ part ∈ catalog.modelParts false c info attributes computed, ∃ payload,
      catalog.IsPayload false (catalog.table.numericDurations c) part.2 payload) :
    ∃ entries, catalog.IsPayload false numericDurations (.modelInstance c attributes computed)
        (.dict entries)
      ∧ ∀ registry root names,
        let body := (SchemaSource.mk catalog registry root).bodyNode names c props
        ∃ nodes, body.get? "properties" = some (.dict nodes)
          ∧ body.get? "additionalProperties" = some (.bool false)
          ∧ (∀ key, key ∈ entries.map (·.1) ↔ key ∈ nodes.map (·.1))
          ∧ (body.get? "required" = none ∨ ∃ required, body.get? "required" = some (.strings required)
            ∧ ∀ name ∈ required, .str name ∈ entries.map (·.1)) := by
  have exists_payload : ∃ payload, catalog.IsPayload false numericDurations
      (.modelInstance c attributes computed) payload :=
    exists_payload_instance model readable written
  obtain ⟨payload, isPayload⟩ := exists_payload
  obtain ⟨forms, rfl, each⟩ := payload_instance model isPayload
  refine ⟨_, isPayload, fun registry root names => ?_⟩
  generalize isSource : SchemaSource.mk catalog registry root = source
  obtain rfl : source.catalog = catalog := isSource ▸ rfl
  refine ⟨source.propertyNodes names c props, (SchemaSource.get?_properties plain).1,
    (SchemaSource.get?_properties plain).2, fun key => ?_, ?_⟩
  · exact (mem_keys_payload readable each).trans
      (SchemaSource.mem_keys_propertyNodes model named found).symm
  · rw [SchemaSource.get?_required plain]
    split
    · exact .inl rfl
    · refine .inr ⟨_, rfl, fun name member => ?_⟩
      have isKey := SchemaSource.isKey_of_mem_requiredNames model named found member
      exact (mem_keys_payload readable each).mpr ⟨name, rfl, isKey⟩

end

/-! ### Example -/

section

open Example Catalog

/-- An article is written under its kind, the one name of its title and heading, and its body; these
are the keys of the properties in its schema. -/
theorem keys_agree_article :
    ∃ entries, articles.IsPayload false false
        (.modelInstance article articleAttributes [("length", .int 9)]) (.dict entries)
      ∧ ∃ props, articles.table.properties article = .ok props ∧ ∀ registry root names,
        let body := (SchemaSource.mk articles registry root).bodyNode names article props
        ∃ nodes, body.get? "properties" = some (.dict nodes)
          ∧ body.get? "additionalProperties" = some (.bool false)
          ∧ (∀ key, key ∈ entries.map (·.1) ↔ key ∈ nodes.map (·.1))
          ∧ (body.get? "required" = none ∨ ∃ required, body.get? "required" = some (.strings required)
            ∧ ∀ name ∈ required, .str name ∈ entries.map (·.1)) := by
  have readable : HasAttributes ((articles.table.model? article).getD default) articleAttributes
      [("length", .int 9)] := by
    constructor <;> decide
  obtain ⟨props, found⟩ : ∃ props, articles.table.properties article = .ok props := ⟨_, rfl⟩
  have parts : articles.modelParts false article ((articles.table.model? article).getD default)
      articleAttributes [("length", .int 9)]
        = [("name", .str "Short"), ("name", .str "Long"), ("body", .str ""), ("kind", .int 9)] := rfl
  have written : ∀ part ∈ articles.modelParts false article
      ((articles.table.model? article).getD default) articleAttributes [("length", .int 9)],
      ∃ payload, articles.IsPayload false (articles.table.numericDurations article) part.2 payload := by
    rw [parts]
    simp [IsPayload, payloadWithin]
  obtain ⟨entries, isPayload, same⟩ := keys_agree rfl ⟨by decide, by decide⟩ found rfl false readable
    written
  exact ⟨entries, isPayload, props, found, same⟩

end

end ModelSchema
