import ModelSchema.Limit
import ModelSchema.Naming
import ModelSchema.Saturation

/-!
Properties: what the fields of a model are in its schema.

* `ClassTable.properties`: the properties of a model, fields first, then computed fields.
* `ClassTable.unresolvedName?`: a name that keeps a model from being complete.
* `orderProperties`: properties named in an explicit order first, the rest by public name.
-/

namespace ModelSchema

/-- A property of a model. `publicName` is the key it is written under. -/
structure Property where
  name : String
  publicName : String
  annotation : Ty
  required : Bool
  optional : Bool
  explicitlyRequired : Bool
  title : Option String
  description : Option String
  extra : Option Fragment
  limits : Limits
  readOnly : Bool
  deriving Repr, Inhabited

namespace Property

/-- Whether a property is explicitly required although its type admits nothing: required wins. -/
def conflicting (p : Property) : Bool := p.explicitlyRequired && p.optional

/-- Whether two properties of one model are the same one. -/
def isSame (p q : Property) : Bool := p.name = q.name && p.readOnly = q.readOnly

end Property

/-! ### Public names -/

/-- The first text that is there and not empty, or the name. -/
def firstNonEmpty (texts : List (Option String)) (name : String) : String :=
  (texts.findSome? fun text => text.bind nonEmpty?).getD name

/-- The key a field is written under: its serialization alias, else its alias, else its name. -/
def Field.publicName (field : Field) : String :=
  firstNonEmpty [field.serializationAlias, field.aliasName] field.name

/-- The key a computed field is written under. -/
def ComputedField.publicName (field : ComputedField) : String :=
  firstNonEmpty [field.aliasName] field.name

/-! ### Completeness -/

namespace ClassTable

/-- The annotations of a model, with the names known by now. -/
def annotations (table : ClassTable) (c : ClassRef) : List Ty :=
  match table.model? c with
  | some info =>
    info.fields.map (fun field => table.resolve field.annotation)
      ++ info.computed.map fun field => table.resolve field.returns
  | none => []

/-- A class and all classes that its fields contain, directly or through others. -/
def contained (table : ClassTable) (c : ClassRef) : List ClassRef :=
  saturate (fun d => (table.annotations d).flatMap Ty.classes) table.classes.size [c]

/-- A name in the annotations of a class, or of a class it contains, that stands for nothing. -/
def unresolvedName? (table : ClassTable) (c : ClassRef) : Option String :=
  (table.contained c).findSome? fun d =>
    ((table.annotations d).flatMap Ty.forwardNames).head?

/-- Checks that a class is a model all of whose annotations are known. -/
def requireComplete (table : ClassTable) (c : ClassRef) : Except Failure Unit :=
  let name := table.qualifiedName c
  if !table.isBasicSubclass c .model then
    .error (.introspection name (some s!"Not a pydantic model: {table.classText c}") [] none)
  else
    match table.unresolvedName? c with
    | some unknown =>
      .error (.introspection name (some s!"Failed to resolve annotations of {name}") []
        (some (.fault (.undefinedName unknown))))
    | none => .ok ()

/-! ### Properties -/

/-- The property of a field. -/
def fieldProperty (table : ClassTable) (field : Field) :
    Except Fault Property := do
  let annotation := table.resolve field.annotation
  let optional := annotation.isOptional
  let explicitlyRequired := field.notes.any fun
    | .required => true
    | _ => false
  let limits ← limitsOf field.notes
  pure
    { name := field.name
      publicName := field.publicName
      annotation := annotation
      required := explicitlyRequired || (field.default.isNone && !optional)
      optional := optional
      explicitlyRequired := explicitlyRequired
      title := field.title
      description := field.description
      extra := field.extra
      limits := limits
      readOnly := false }

/-- The property of a computed field. It is always written. -/
def computedProperty (table : ClassTable) (field : ComputedField) : Property :=
  { name := field.name
    publicName := field.publicName
    annotation := table.resolve field.returns
    required := true
    optional := false
    explicitlyRequired := false
    title := field.title
    description := field.description
    extra := field.extra
    limits := []
    readOnly := true }

/-- The properties of a complete model. -/
def modelProperties (table : ClassTable) (info : ModelInfo) : Except Fault (List Property) := do
  let fields ← (info.fields.filter fun field => !field.excluded).mapM table.fieldProperty
  pure (fields ++ info.computed.map table.computedProperty)

/-- The properties of a class. -/
def properties (table : ClassTable) (c : ClassRef) : Except Failure (List Property) := do
  table.requireComplete c
  match table.model? c with
  | some info => (table.modelProperties info).mapError .fault
  | none => pure []

end ClassTable

/-! ### Order -/

/-- The property that a name in an explicit order means: the first one in the list that has it as
public name or as name. -/
def namedProperty? (props : List Property) (name : String) : Option Property :=
  props.find? fun p => p.publicName = name || p.name = name

/-- The properties named in an explicit order, each once. -/
def explicitlyOrdered (props : List Property) (names : List String) : List Property :=
  names.foldl (fun ordered name =>
    match namedProperty? props name with
    | some p => if ordered.any p.isSame then ordered else ordered ++ [p]
    | none => ordered) []

/-- Properties named in an explicit order first, in that order, then the rest by public name. -/
def orderProperties (props : List Property) (names : List String) : List Property :=
  let ordered := explicitlyOrdered props names
  let rest := props.filter fun p => !ordered.any p.isSame
  ordered ++ rest.mergeSort fun p q => p.publicName ≤ q.publicName

end ModelSchema
