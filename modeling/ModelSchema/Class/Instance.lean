import ModelSchema.Property

/-!
Instances of models.

* `ClassTable.instantiate` makes an instance without checking its values. A computed field hides an
  attribute of its name.
* `ClassTable.unreadable`: why a computed field that an instance lacks can not be read.
-/

namespace ModelSchema

namespace ClassTable

/-- What an instance is given, on top of the defaults of its fields. A value in the place of a
default keeps that place. -/
def setAttributes (fields : List Field) (given : List (String × Value)) : List (String × Value) :=
  let defaults := fields.filterMap fun field => field.default.map (field.name, ·)
  given.foldl (fun attributes (name, value) =>
    if attributes.any (·.1 = name) then
      attributes.map fun (n, v) => if n = name then (n, value) else (n, v)
    else attributes ++ [(name, value)]) defaults

/-- The end of the chain of computed fields that begins at a name: a value, or the name of an
attribute that is no computed field. A chain longer than there are computed fields does not end. -/
def sourceOf? (computed : List ComputedField) : Nat → String → Option ComputedSource
  | 0, _ => none
  | length + 1, name =>
    match computed.find? (·.name = name) with
    | none => some (.attribute name)
    | some field =>
      match field.source with
      | .constant value => some (.constant value)
      | .attribute next => sourceOf? computed length next

/-- The end of the chain of computed fields that begins at a name. -/
def source? (info : ModelInfo) (name : String) : Option ComputedSource :=
  sourceOf? info.computed (info.computed.length + 1) name

/-- The value of a computed field of an instance with the given attributes. -/
def computedValue? (info : ModelInfo) (attributes : List (String × Value)) (name : String) :
    Option Value :=
  match source? info name with
  | some (.constant value) => some value
  | some (.attribute name) => (attributes.find? (·.1 = name)).map (·.2)
  | none => none

/-- Why a computed field can not be read. -/
def unreadable (table : ClassTable) (c : ClassRef) (info : ModelInfo) (name : String) : Fault :=
  match source? info name with
  | some (.attribute name) => .missingAttribute (table.name c) name
  | _ => .endless

/-- An instance of a complete model with the given values. -/
def instantiate (table : ClassTable) (c : ClassRef) (given : List (String × Value)) :
    Except Failure Value := do
  table.requireComplete c
  let info := (table.model? c).getD default
  let attributes := setAttributes info.fields given
  let computed := info.computed.filterMap fun field =>
    (computedValue? info attributes field.name).map (field.name, ·)
  let fields := attributes.filter fun (name, _) => info.fields.any (·.name = name)
  return .modelInstance c fields computed

end ClassTable

end ModelSchema
