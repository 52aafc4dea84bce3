import Mathlib
import ModelSchema.Example.Figures
import ModelSchema.Payload.Basic
import ModelSchema.Proofs.Property
import ModelSchema.Proofs.Schema.Node

/-!
The payload of a value is put together from the payloads of its parts.

* `Catalog.modelParts`, `Catalog.entryParts?`: what an instance or a dictionary is written from: the
  keys of its entries with the values under them, in order.
* `Catalog.Holds`: which value stands where in another one, and whether durations are numbers there.
* `Holds.payload`: at the end of the same steps into the payload of the whole stands the payload of
  the part.
* `payload_of_holds`: collections, dictionaries and instances are written from their parts wherever
  they stand. A deque is written in the general form, so nothing is said of what is in one.
-/

namespace ModelSchema

/-- The value of an attribute. -/
def attributeValue? (attributes : List (String × Value)) (name : String) : Option Value :=
  (attributes.find? (·.1 = name)).map (·.2)

/-! ### Steps into a payload -/

/-- A step from a payload to a part of it. -/
inductive PayloadStep where
  | item (index : Nat)
  | entry (key : String)

namespace Value

def child? : Value → PayloadStep → Option Value
  | .list items, .item index => items[index]?
  | .dict entries, .entry key => Node.get? entries key
  | _, _ => none

/-- The part of a payload at the end of some steps. -/
def part? (value : Value) : List PayloadStep → Option Value
  | [] => some value
  | step :: rest => (value.child? step).bind (·.part? rest)

end Value

namespace Catalog

variable {catalog : Catalog} {excludeNull numericDurations : Bool}
  {attributes computed : List (String × Value)} {name : String} {c : ClassRef}

/-! ### Values that have parts -/

theorem payloadItems_cons {item : Value} {rest : List Value} :
    catalog.payloadItems excludeNull numericDurations (item :: rest)
      = (catalog.payloadWithin excludeNull numericDurations item).bind fun payload =>
        (catalog.payloadItems excludeNull numericDurations rest).map (payload :: ·) := rfl

/-- The items of a deque are not looked into. -/
theorem payloadWithin_collection {kind : Collection} {items : List Value}
    (notDeque : kind ≠ .deque) :
    catalog.payloadWithin excludeNull numericDurations (.collection kind items)
      = (catalog.payloadItems excludeNull numericDurations items).map .list := by
  cases kind with
  | deque => exact absurd rfl notDeque
  | list | tuple | set | frozenSet => rfl

theorem payloadEntries_cons {key value : Value} {rest : List (Value × Value)} :
    catalog.payloadEntries excludeNull numericDurations ((key, value) :: rest)
      = (catalog.payloadWithin excludeNull numericDurations key).bind fun name =>
        (catalog.payloadWithin excludeNull numericDurations value).bind fun payload =>
          (catalog.payloadEntries excludeNull numericDurations rest).map
            ((.str (name.shown catalog.table), payload) :: ·) := rfl

theorem payloadWithin_dict {entries : List (Value × Value)} :
    catalog.payloadWithin excludeNull numericDurations (.dict entries)
      = (catalog.payloadEntries excludeNull numericDurations entries).map fun forms =>
        .dict (Value.assocUpdate [] forms) := rfl

/-- Whether durations are numbers in an instance is told by its own class. -/
theorem payloadWithin_modelInstance :
    catalog.payloadWithin excludeNull numericDurations (.modelInstance c attributes computed)
      = (catalog.modelEntries excludeNull c
        (catalog.attributeForms excludeNull (catalog.table.numericDurations c) attributes)
        (catalog.attributeForms excludeNull (catalog.table.numericDurations c) computed)).map
          .dict := rfl

/-! ### What dictionaries and instances are written from -/

/-- Whether a field is written, when the discriminator is written under a key. -/
def isWrittenField (discriminator : Option String) (field : Field) : Bool :=
  !(field.excluded || discriminator = some field.publicName)

theorem isWrittenField_iff {discriminator : Option String} {field : Field} :
    isWrittenField discriminator field = true
      ↔ field.excluded = false ∧ discriminator ≠ some field.publicName := by
  simp [isWrittenField]

/-- Whether a value is left out. -/
def isOmitted (excludeNull : Bool) (value : Value) : Bool := excludeNull && value matches .null

/-- The fields of an instance that are written, with their values. -/
def fieldParts (discriminator : Option String) (excludeNull : Bool)
    (attributes : List (String × Value)) (fields : List Field) : List (String × Value) :=
  (fields.filter (isWrittenField discriminator)).filterMap fun field =>
    (attributeValue? attributes field.name).bind fun value =>
      if isOmitted excludeNull value then none else some (field.publicName, value)

/-- The computed fields of an instance, with their values. -/
def computedParts (computed : List (String × Value)) (fields : List ComputedField) :
    List (String × Value) :=
  fields.filterMap fun field =>
    (attributeValue? computed field.name).map (field.publicName, ·)

/-- The fields and computed fields that an instance is written from, with their values. -/
def modelParts (catalog : Catalog) (excludeNull : Bool) (c : ClassRef) (info : ModelInfo)
    (attributes computed : List (String × Value)) : List (String × Value) :=
  fieldParts (catalog.writtenDiscriminator? c) excludeNull attributes info.fields
    ++ computedParts computed info.computed

/-- The entry that tells the class of an instance. -/
def marker (catalog : Catalog) (c : ClassRef) : List (Value × Value) :=
  (catalog.writtenDiscriminator? c).toList.map fun property =>
    (.str property, .str (catalog.typeName c))

theorem isRecord_marker {c : ClassRef} : Node.IsRecord (catalog.marker c) := by
  unfold marker
  cases catalog.writtenDiscriminator? c with
  | none => exact Node.isRecord_nil
  | some property => exact ⟨[(property, _)], List.nodup_singleton _, rfl⟩

/-- The text that the key of an entry is written as. -/
def keyText? (catalog : Catalog) (excludeNull numericDurations : Bool) (key : Value) :
    Option String :=
  (catalog.payloadWithin excludeNull numericDurations key).toOption.map
    (·.shown catalog.table)

/-- An entry with its key as a text. -/
def entryPart? (catalog : Catalog) (excludeNull numericDurations : Bool) (entry : Value × Value) :
    Option (String × Value) :=
  (catalog.keyText? excludeNull numericDurations entry.1).map (·, entry.2)

/-- The parts of what is written as a dictionary, and whether durations are numbers in them. -/
def entryParts? (catalog : Catalog) (excludeNull numericDurations : Bool) :
    Value → Option (Bool × List (String × Value))
  | .dict entries | .mapping entries =>
    some (numericDurations, entries.filterMap (catalog.entryPart? excludeNull numericDurations))
  | .modelInstance c attributes computed =>
    (catalog.table.model? c).map fun info =>
      (catalog.table.numericDurations c,
        catalog.modelParts excludeNull c info attributes computed)
  | _ => none

/-- Whether an entry is a part as it is written. -/
def IsForm (catalog : Catalog) (excludeNull numericDurations : Bool) (part : String × Value)
    (form : Value × Value) : Prop :=
  form.1 = .str part.1
    ∧ catalog.payloadWithin excludeNull numericDurations part.2 = .ok form.2

/-! ### Attributes -/

theorem find?_attributeForms :
    (catalog.attributeForms excludeNull numericDurations attributes).find? (·.1 = name)
      = (attributeValue? attributes name).map fun value =>
        (name, ⟨value, catalog.payloadWithin excludeNull numericDurations value⟩) := by
  induction attributes with
  | nil => rfl
  | cons first rest ih =>
    obtain ⟨key, value⟩ := first
    unfold attributeValue? at ih ⊢
    rw [attributeForms, List.find?_cons, List.find?_cons]
    dsimp only
    by_cases here : key = name
    · subst here
      simp
    · rw [decide_eq_false here]
      exact ih

/-- An attribute that has a value is read. -/
theorem readAttribute_eq (owner : String) {value : Value}
    (found : attributeValue? attributes name = some value) :
    readAttribute owner (catalog.attributeForms excludeNull numericDurations attributes) name
      = .ok ⟨value, catalog.payloadWithin excludeNull numericDurations value⟩ := by
  unfold readAttribute
  rw [find?_attributeForms, found]
  rfl

/-- An attribute that is read has its value. -/
theorem attributeValue?_of_read {owner : String} {form : AttributeForm}
    (read : readAttribute owner (catalog.attributeForms excludeNull numericDurations attributes) name
      = .ok form) :
    attributeValue? attributes name = some form.value
      ∧ catalog.payloadWithin excludeNull numericDurations form.value = form.payload := by
  unfold readAttribute at read
  rw [find?_attributeForms] at read
  cases found : attributeValue? attributes name with
  | none =>
    rw [found] at read
    cases read
  | some value =>
    rw [found] at read
    cases read
    exact ⟨rfl, rfl⟩

/-- Fields are written from their parts. -/
theorem forms_of_fieldEntries {owner : String} {discriminator : Option String} :
    ∀ {fields : List Field} {entries : List (Value × Value)},
      fieldEntries owner discriminator excludeNull
          (catalog.attributeForms excludeNull numericDurations attributes) fields = .ok entries →
        List.Forall₂ (catalog.IsForm excludeNull numericDurations)
          (fieldParts discriminator excludeNull attributes fields) entries
  | [], entries, written => by
    cases written
    exact .nil
  | field :: rest, entries, written => by
    rw [fieldEntries] at written
    unfold fieldParts
    rw [List.filter_cons]
    by_cases omitted : (field.excluded || discriminator = some field.publicName) = true
    · rw [if_pos omitted] at written
      rw [isWrittenField, omitted, if_neg (by decide)]
      exact forms_of_fieldEntries written
    · rw [if_neg omitted] at written
      rw [isWrittenField, Bool.eq_false_iff.mpr omitted, if_pos (by decide), List.filterMap_cons]
      obtain ⟨form, read, written⟩ := exists_of_bind_eq_ok written
      obtain ⟨found, payload⟩ := attributeValue?_of_read read
      rw [found, Option.bind_some]
      have written : (if isOmitted excludeNull form.value then _ else _) = Except.ok entries :=
        written
      by_cases isNull : isOmitted excludeNull form.value = true
      · rw [if_pos isNull] at written
        rw [if_pos isNull]
        exact forms_of_fieldEntries written
      · rw [if_neg isNull] at written
        rw [if_neg isNull]
        obtain ⟨part, own, written⟩ := exists_of_bind_eq_ok written
        obtain ⟨forms, later, written⟩ := exists_of_bind_eq_ok written
        cases written
        exact .cons ⟨rfl, payload.trans own⟩ (forms_of_fieldEntries later)

/-- Computed fields are written from their parts. -/
theorem forms_of_computedEntries {info : ModelInfo} :
    ∀ {fields : List ComputedField} {entries : List (Value × Value)},
      computedEntries catalog.table c info
          (catalog.attributeForms excludeNull numericDurations computed) fields = .ok entries →
        List.Forall₂ (catalog.IsForm excludeNull numericDurations)
          (computedParts computed fields) entries
  | [], entries, written => by
    cases written
    exact .nil
  | field :: rest, entries, written => by
    rw [computedEntries, find?_attributeForms] at written
    unfold computedParts
    rw [List.filterMap_cons]
    cases found : attributeValue? computed field.name with
    | none =>
      rw [found] at written
      cases written
    | some value =>
      rw [found] at written
      obtain ⟨form, own, written⟩ := exists_of_bind_eq_ok written
      obtain ⟨forms, later, written⟩ := exists_of_bind_eq_ok written
      cases written
      exact .cons ⟨rfl, own⟩ (forms_of_computedEntries later)

/-! ### Collections, dictionaries and instances -/

/-- Whether a value is what another one is written as. -/
def IsPayload (catalog : Catalog) (excludeNull numericDurations : Bool) (value payload : Value) :
    Prop :=
  catalog.payloadWithin excludeNull numericDurations value = .ok payload

/-- A list of payloads is that of the items, in order. -/
theorem forall₂_of_payloadItems :
    ∀ {items payloads : List Value},
      catalog.payloadItems excludeNull numericDurations items = .ok payloads →
        List.Forall₂ (catalog.IsPayload excludeNull numericDurations) items payloads
  | [], payloads, written => by
    cases written
    exact .nil
  | item :: rest, payloads, written => by
    obtain ⟨payload, here, written⟩ := exists_of_bind_eq_ok written
    obtain ⟨others, later, written⟩ := exists_of_bind_eq_ok written
    cases written
    exact .cons here (forall₂_of_payloadItems later)

/-- A collection that is no deque is written as the list of what its items are written as. -/
theorem payload_collection {kind : Collection} {items : List Value} {payload : Value}
    (notDeque : kind ≠ .deque)
    (written : catalog.payloadWithin excludeNull numericDurations (.collection kind items)
      = .ok payload) :
    ∃ payloads, payload = .list payloads
      ∧ List.Forall₂ (catalog.IsPayload excludeNull numericDurations) items payloads := by
  rw [payloadWithin_collection notDeque] at written
  cases made : catalog.payloadItems excludeNull numericDurations items with
  | error fault =>
    rw [made] at written
    cases written
  | ok payloads =>
    rw [made] at written
    cases written
    exact ⟨payloads, rfl, forall₂_of_payloadItems made⟩

/-- Whether an entry is what an entry of a dictionary is written as. Its key is a text. -/
def IsEntry (catalog : Catalog) (excludeNull numericDurations : Bool)
    (entry form : Value × Value) : Prop :=
  (∃ key, catalog.IsPayload excludeNull numericDurations entry.1 key
      ∧ form.1 = .str (key.shown catalog.table))
    ∧ catalog.IsPayload excludeNull numericDurations entry.2 form.2

/-- A dictionary of payloads is that of the entries, in order. -/
theorem forall₂_of_payloadEntries :
    ∀ {entries forms : List (Value × Value)},
      catalog.payloadEntries excludeNull numericDurations entries = .ok forms →
        List.Forall₂ (catalog.IsEntry excludeNull numericDurations) entries forms
  | [], forms, written => by
    cases written
    exact .nil
  | (key, value) :: rest, forms, written => by
    obtain ⟨name, named, written⟩ := exists_of_bind_eq_ok written
    obtain ⟨payload, own, written⟩ := exists_of_bind_eq_ok written
    obtain ⟨others, later, written⟩ := exists_of_bind_eq_ok written
    cases written
    exact .cons ⟨⟨name, named, rfl⟩, own⟩ (forall₂_of_payloadEntries later)

/-- A mapping is written as the dictionary of what its entries are written as. -/
theorem payload_mapping {value payload : Value} {entries : List (Value × Value)}
    (isMapping : value = .dict entries ∨ value = .mapping entries)
    (written : catalog.payloadWithin excludeNull numericDurations value = .ok payload) :
    ∃ forms, payload = .dict (Value.assocUpdate [] forms)
      ∧ List.Forall₂ (catalog.IsEntry excludeNull numericDurations) entries forms := by
  rcases isMapping with rfl | rfl <;>
  · obtain ⟨forms, each, written⟩ := exists_of_bind_eq_ok written
    cases written
    exact ⟨forms, rfl, forall₂_of_payloadEntries each⟩

/-- An instance is written as the dictionary of what its fields and computed fields are written as,
behind the entry that tells its class. -/
theorem payload_instance {info : ModelInfo} {payload : Value}
    (model : catalog.table.model? c = some info)
    (written : catalog.payloadWithin excludeNull numericDurations
      (.modelInstance c attributes computed) = .ok payload) :
    ∃ forms, payload = .dict (Value.assocUpdate (catalog.marker c) forms)
      ∧ List.Forall₂ (catalog.IsForm excludeNull (catalog.table.numericDurations c))
        (catalog.modelParts excludeNull c info attributes computed) forms := by
  rw [payloadWithin_modelInstance] at written
  cases entries : catalog.modelEntries excludeNull c
      (catalog.attributeForms excludeNull (catalog.table.numericDurations c) attributes)
      (catalog.attributeForms excludeNull (catalog.table.numericDurations c) computed) with
  | error fault =>
    rw [entries] at written
    cases written
  | ok made =>
    rw [entries] at written
    cases written
    unfold modelEntries at entries
    rw [model] at entries
    obtain ⟨fields, first, entries⟩ := exists_of_bind_eq_ok entries
    obtain ⟨others, second, entries⟩ := exists_of_bind_eq_ok entries
    cases entries
    refine ⟨fields ++ others, ?_, List.rel_append (forms_of_fieldEntries first)
      (forms_of_computedEntries second)⟩
    rw [List.append_assoc]
    unfold marker
    cases catalog.writtenDiscriminator? c <;> rfl

/-- The entries of a dictionary are written from its parts. -/
theorem forms_of_entries {entries forms : List (Value × Value)}
    (each : List.Forall₂ (catalog.IsEntry excludeNull numericDurations) entries forms) :
    List.Forall₂ (catalog.IsForm excludeNull numericDurations)
      (entries.filterMap (catalog.entryPart? excludeNull numericDurations)) forms := by
  induction each with
  | nil => exact .nil
  | @cons entry form _ _ isEntry _ ih =>
    obtain ⟨⟨key, named, isText⟩, own⟩ := isEntry
    have named : catalog.payloadWithin excludeNull numericDurations entry.1 = .ok key := named
    rw [List.filterMap_cons, entryPart?, keyText?, named]
    exact .cons ⟨isText, own⟩ ih

/-- The entries that stand before all others in what is written as a dictionary. -/
def firstEntries (catalog : Catalog) : Value → List (Value × Value)
  | .modelInstance c _ _ => catalog.marker c
  | _ => []

/-- Dictionaries and instances are written by setting what their parts are written as. An instance
has the entry that tells its class before. -/
theorem payload_entryParts {value payload : Value} {within : Bool} {parts : List (String × Value)}
    (made : catalog.entryParts? excludeNull numericDurations value = some (within, parts))
    (written : catalog.payloadWithin excludeNull numericDurations value = .ok payload) :
    ∃ forms, List.Forall₂ (catalog.IsForm excludeNull within) parts forms
      ∧ payload = .dict (Value.assocUpdate (catalog.firstEntries value) forms) := by
  unfold entryParts? at made
  split at made
  case h_1 entries =>
    cases made
    obtain ⟨forms, rfl, each⟩ := payload_mapping (.inl rfl) written
    exact ⟨forms, forms_of_entries each, rfl⟩
  case h_2 entries =>
    cases made
    obtain ⟨forms, rfl, each⟩ := payload_mapping (.inr rfl) written
    exact ⟨forms, forms_of_entries each, rfl⟩
  case h_3 c attributes computed =>
    obtain ⟨info, model, same⟩ := Option.map_eq_some_iff.mp made
    cases same
    obtain ⟨forms, rfl, each⟩ := payload_instance model written
    exact ⟨forms, each, rfl⟩
  case h_4 => cases made

/-! ### What stands where -/

/-- Whether an element is the last one of a list with a key. -/
def IsLastUnder {α : Type} (key : String) (a : α) (list : List (String × α)) : Prop :=
  ∃ before after, list = before ++ (key, a) :: after ∧ key ∉ after.map (·.1)

/-- `Holds excludeNull n value path m inner`: the value `inner` stands in `value` where `path` leads
to in the payload. Durations are numbers in `value` if `n` says so, and in `inner` if `m` does. Of
parts with one key only the last one is written. -/
inductive Holds (catalog : Catalog) (excludeNull : Bool) :
    Bool → Value → List PayloadStep → Bool → Value → Prop where
  | here {n : Bool} {value : Value} : Holds catalog excludeNull n value [] n value
  | item {n m : Bool} {kind : Collection} {items : List Value} {index : Nat} {item inner : Value}
      {path : List PayloadStep} : kind ≠ .deque → items[index]? = some item →
      Holds catalog excludeNull n item path m inner →
      Holds catalog excludeNull n (.collection kind items) (.item index :: path) m inner
  | entry {n within m : Bool} {value part inner : Value} {key : String}
      {parts : List (String × Value)} {path : List PayloadStep} :
      catalog.entryParts? excludeNull n value = some (within, parts) →
      IsLastUnder key part parts → Holds catalog excludeNull within part path m inner →
      Holds catalog excludeNull n value (.entry key :: path) m inner

/-- The entry of a part is set before those behind it. -/
theorem update_cons {start forms : Node} {part : String × Value} {form : Value × Value}
    (isForm : catalog.IsForm excludeNull numericDurations part form) :
    Value.assocUpdate start (form :: forms)
      = Value.assocUpdate (start.set part.1 form.2) forms := by
  obtain ⟨key, value⟩ := form
  obtain rfl : key = .str part.1 := isForm.1
  rfl

/-- Entries under other keys leave a key as it is. -/
theorem get?_update_of_notMem {key : String} {parts : List (String × Value)} {forms : Node}
    (each : List.Forall₂ (catalog.IsForm excludeNull numericDurations) parts forms)
    (absent : key ∉ parts.map (·.1)) (start : Node) :
    Node.get? (Value.assocUpdate start forms) key = start.get? key := by
  induction each generalizing start with
  | nil => rfl
  | @cons part form parts forms isForm _ ih =>
    rw [List.map_cons, List.mem_cons, not_or] at absent
    rw [update_cons isForm, ih absent.2, Node.get?_set, if_neg (Ne.symm absent.1)]

/-- The last part with a key is found under it. -/
theorem get?_update_of_isLast {key : String} {part : Value} {parts : List (String × Value)}
    {forms : Node} (each : List.Forall₂ (catalog.IsForm excludeNull numericDurations) parts forms)
    (last : IsLastUnder key part parts) (start : Node) :
    ∃ payload, catalog.payloadWithin excludeNull numericDurations part = .ok payload
      ∧ Node.get? (Value.assocUpdate start forms) key = some payload := by
  obtain ⟨before, after, rfl, absent⟩ := last
  induction before generalizing forms start with
  | nil =>
    cases each with
    | cons isForm rest =>
      refine ⟨_, isForm.2, ?_⟩
      rw [update_cons isForm, get?_update_of_notMem rest absent, Node.get?_set, if_pos rfl]
  | cons other before ih =>
    cases each with
    | cons isForm rest =>
      rw [update_cons isForm]
      exact ih _ rest

/-- Where a value stands in another one, its payload stands in the payload. -/
theorem Holds.payload {n m : Bool} {value inner payload : Value} {path : List PayloadStep}
    (holds : catalog.Holds excludeNull n value path m inner)
    (written : catalog.payloadWithin excludeNull n value = .ok payload) :
    ∃ part, catalog.payloadWithin excludeNull m inner = .ok part
      ∧ payload.part? path = some part := by
  induction holds generalizing payload with
  | here => exact ⟨payload, written, rfl⟩
  | item notDeque found _ ih =>
    obtain ⟨payloads, rfl, each⟩ := payload_collection notDeque written
    obtain ⟨inside, same⟩ := List.getElem?_eq_some_iff.mp found
    have bound := each.length_eq ▸ inside
    have here := each.get inside bound
    rw [List.get_eq_getElem, same] at here
    obtain ⟨part, own, at?⟩ := ih here
    refine ⟨part, own, ?_⟩
    rw [Value.part?, Value.child?, List.getElem?_eq_getElem bound]
    exact at?
  | entry made last _ ih =>
    obtain ⟨forms, each, rfl⟩ := payload_entryParts made written
    obtain ⟨here, isPayload, found⟩ := get?_update_of_isLast each last (catalog.firstEntries _)
    obtain ⟨part, own, at?⟩ := ih isPayload
    refine ⟨part, own, ?_⟩
    rw [Value.part?, Value.child?, found]
    exact at?

/-! ### Main result -/

/-- Wherever they stand in a value, collections other than deques are written as the lists of what
their items are written as, mappings as the dictionaries of what their entries are written as, and
instances with the discriminator of their class, under public names and without excluded fields.
Durations in them are written as the model says to which they belong. -/
theorem payload_of_holds {n m : Bool} {value inner payload : Value} {path : List PayloadStep}
    (holds : catalog.Holds excludeNull n value path m inner)
    (written : catalog.payloadWithin excludeNull n value = .ok payload) :
    (∀ kind items, kind ≠ .deque → inner = .collection kind items →
      ∃ payloads, payload.part? path = some (.list payloads)
        ∧ List.Forall₂ (catalog.IsPayload excludeNull m) items payloads)
    ∧ (∀ entries, inner = .dict entries ∨ inner = .mapping entries →
      ∃ forms, payload.part? path = some (.dict (Value.assocUpdate [] forms))
        ∧ List.Forall₂ (catalog.IsEntry excludeNull m) entries forms)
    ∧ ∀ c attributes computed info, inner = .modelInstance c attributes computed →
      catalog.table.model? c = some info →
      ∃ forms, payload.part? path = some (.dict (Value.assocUpdate (catalog.marker c) forms))
        ∧ List.Forall₂ (catalog.IsForm excludeNull (catalog.table.numericDurations c))
          (catalog.modelParts excludeNull c info attributes computed) forms := by
  obtain ⟨part, own, at?⟩ := holds.payload written
  refine ⟨fun kind items notDeque same => ?_, fun entries isMapping => ?_,
    fun c attributes computed info same model => ?_⟩
  · subst same
    obtain ⟨payloads, rfl, each⟩ := payload_collection notDeque own
    exact ⟨payloads, at?, each⟩
  · obtain ⟨forms, rfl, each⟩ := payload_mapping isMapping own
    exact ⟨forms, at?, each⟩
  · subst same
    obtain ⟨forms, rfl, each⟩ := payload_instance model own
    exact ⟨forms, at?, each⟩

end Catalog

/-! ### Examples -/

section

open Example

theorem payload_sketch : figures.payloadWithin false false sketch = .ok sketchPayload := by
  have written : figures.payloadWithin false false sketch
      = .ok (.dict (Value.assocUpdate [] (Node.ofFields [
        ("figures", .list [.dict (Value.assocUpdate []
          (Node.ofFields [("kind", .str "square"), ("width", .int 1)]))]),
        ("frame", .null), ("next", .null), ("created", .null)]))) := rfl
  rw [written, Node.update_ofFields (by decide), Node.update_ofFields (by decide)]
  rfl

/-- The figures stand in the drawing under their name. -/
theorem holds_sketch {path : List PayloadStep} {m : Bool} {inner : Value}
    (holds : figures.Holds false false (.list [.modelInstance square [("width", .int 1)] []]) path
      m inner) :
    figures.Holds false false sketch (.entry "figures" :: path) m inner :=
  .entry rfl ⟨[], _, rfl, by decide⟩ holds

/-- The figures of a drawing are written in their order, each as it is on its own. -/
theorem payload_of_holds_sketch :
    ∃ payloads, sketchPayload.part? [.entry "figures"] = some (.list payloads)
      ∧ List.Forall₂ (figures.IsPayload false false)
        [.modelInstance square [("width", .int 1)] []] payloads :=
  (Catalog.payload_of_holds (holds_sketch .here) payload_sketch).1 _ _ (by decide) rfl

/-- A deque of figures is written without their kinds. -/
theorem not_payload_deque :
    ¬ ∀ (catalog : Catalog) (excludeNull numericDurations : Bool) (kind : Collection)
      (items : List Value) (payload : Value),
      catalog.payloadWithin excludeNull numericDurations (.collection kind items) = .ok payload →
        ∃ payloads, payload = .list payloads
          ∧ List.Forall₂ (catalog.IsPayload excludeNull numericDurations) items payloads := by
  intro compositional
  obtain ⟨payloads, same, each⟩ := compositional figures false false .deque
    [.modelInstance figure [] []] (.list [.dict []]) rfl
  cases same
  cases each with
  | cons first _ =>
    have own : figures.payloadWithin false false (.modelInstance figure [] [])
        = .ok (.record [("kind", .str "figure")]) := rfl
    have first : figures.payloadWithin false false (.modelInstance figure [] []) = .ok (.dict []) :=
      first
    rw [own] at first
    cases first

end

end ModelSchema
