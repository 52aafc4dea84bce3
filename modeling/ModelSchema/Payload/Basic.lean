import ModelSchema.Payload.Plain

/-!
Payloads: the JSON form of values that agrees with the schemas of their classes.

* `Catalog.payload`: models carry the discriminator of their class, are keyed by public names and
  leave excluded fields out; everything inside lists, tuples, sets and dictionaries is written so.
* `Catalog.modelEntries`: the entries of one model, from the forms of its attributes.
-/

namespace ModelSchema

/-- An attribute of an instance: its value, and the payload of that value. -/
structure AttributeForm where
  value : Value
  payload : Except Fault Value

/-- The attribute of a name among those of an instance of a class named `owner`. -/
def readAttribute (owner : String) (attributes : List (String × AttributeForm)) (name : String) :
    Except Fault AttributeForm :=
  match attributes.find? (·.1 = name) with
  | some (_, form) => .ok form
  | none => .error (.missingAttribute owner name)

namespace Catalog

/-- The discriminator property a class is written with: an empty one is not written. -/
def writtenDiscriminator? (catalog : Catalog) (c : ClassRef) : Option String :=
  (catalog.discriminator? c).bind nonEmpty?

/-- The entries of the fields of a model, in order. A field under the discriminator's key is left
out, and with `excludeNull` so is a field without a value. -/
def fieldEntries (owner : String) (discriminator : Option String)
    (excludeNull : Bool) (attributes : List (String × AttributeForm)) :
    List Field → Except Fault (List (Value × Value))
  | [] => .ok []
  | field :: rest => do
    let key := field.publicName
    if field.excluded || discriminator = some key then
      fieldEntries owner discriminator excludeNull attributes rest
    else
      let form ← readAttribute owner attributes field.name
      if excludeNull && form.value matches .null then
        fieldEntries owner discriminator excludeNull attributes rest
      else
        let payload ← form.payload
        let entries ← fieldEntries owner discriminator excludeNull attributes rest
        pure ((.str key, payload) :: entries)

/-- The entries of the computed fields of a model, in order. -/
def computedEntries (table : ClassTable) (c : ClassRef) (info : ModelInfo)
    (computed : List (String × AttributeForm)) :
    List ComputedField → Except Fault (List (Value × Value))
  | [] => .ok []
  | field :: rest => do
    match computed.find? (·.1 = field.name) with
    | some (_, form) =>
      let payload ← form.payload
      let entries ← computedEntries table c info computed rest
      pure ((.str field.publicName, payload) :: entries)
    | none => throw (table.unreadable c info field.name)

/-- The entries of a model: its discriminator, its fields, then its computed fields. An entry under
a key that is there already takes its place. -/
def modelEntries (catalog : Catalog) (excludeNull : Bool) (c : ClassRef)
    (attributes computed : List (String × AttributeForm)) :
    Except Fault (List (Value × Value)) := do
  let owner := catalog.table.name c
  let discriminator := catalog.writtenDiscriminator? c
  let marked :=
    match discriminator with
    | some property => [(Value.str property, Value.str (catalog.typeName c))]
    | none => []
  match catalog.table.model? c with
  | none => pure marked
  | some info =>
    let fields ← fieldEntries owner discriminator excludeNull attributes info.fields
    let computed ← computedEntries catalog.table c info computed info.computed
    pure (Value.assocUpdate [] (marked ++ fields ++ computed))

mutual

/-- The payload of a value. Durations are numbers where the model they belong to says so. -/
def payloadWithin (catalog : Catalog) (excludeNull numericDurations : Bool) :
    Value → Except Fault Value
  | .null => .ok .null
  | .bool b => .ok (.bool b)
  | .str s => .ok (.str s)
  | .modelInstance c attributes computed =>
    let numericDurations := catalog.table.numericDurations c
    let attributes := attributeForms catalog excludeNull numericDurations attributes
    let computed := attributeForms catalog excludeNull numericDurations computed
    (catalog.modelEntries excludeNull c attributes computed).map .dict
  | .member owner .str name value => .ok (.member owner .str name value)
  | .member _ _ _ value => payloadWithin catalog excludeNull numericDurations value
  | .decimal x => plainNumber (.decimal x)
  | .int n => .ok (.int n)
  | .float x => .ok (.float x)
  | .instant i => .ok (.record [("nanos", .int i.nanos), ("seconds", .int i.seconds)])
  | .duration d => .ok (if numericDurations then .float d.totalSeconds else .str d.iso)
  | .dict entries | .mapping entries => do
    let entries ← payloadEntries catalog excludeNull numericDurations entries
    pure (.dict (Value.assocUpdate [] entries))
  | .collection .list items | .collection .tuple items | .collection .set items
  | .collection .frozenSet items =>
    (payloadItems catalog excludeNull numericDurations items).map .list
  | value => value.plainForm catalog.table

def payloadItems (catalog : Catalog) (excludeNull numericDurations : Bool) :
    List Value → Except Fault (List Value)
  | [] => .ok []
  | value :: rest => do
    let payload ← payloadWithin catalog excludeNull numericDurations value
    let payloads ← payloadItems catalog excludeNull numericDurations rest
    pure (payload :: payloads)

def payloadEntries (catalog : Catalog) (excludeNull numericDurations : Bool) :
    List (Value × Value) → Except Fault (List (Value × Value))
  | [] => .ok []
  | (key, value) :: rest => do
    let name ← payloadWithin catalog excludeNull numericDurations key
    let payload ← payloadWithin catalog excludeNull numericDurations value
    let payloads ← payloadEntries catalog excludeNull numericDurations rest
    pure ((.str (name.shown catalog.table), payload) :: payloads)

def attributeForms (catalog : Catalog) (excludeNull numericDurations : Bool) :
    List (String × Value) → List (String × AttributeForm)
  | [] => []
  | (name, value) :: rest =>
    (name, ⟨value, payloadWithin catalog excludeNull numericDurations value⟩)
      :: attributeForms catalog excludeNull numericDurations rest

end

/-- The payload of a value on its own. -/
def payload (catalog : Catalog) (excludeNull : Bool) (value : Value) : Except Fault Value :=
  payloadWithin catalog excludeNull false value

end Catalog

end ModelSchema
