import ModelSchema.Class.Enumeration
import ModelSchema.Description.Annotation
import ModelSchema.Text.Dedent

/-!
Descriptions of classes, as JSON.

* `Describing.declare`: one declaration, which is a record whose field `def` tells its kind: a
  model, a plain class, an enumeration, a type variable, a named type, markers for a class that is
  declared already, or a closed list of subtypes.
-/

namespace ModelSchema

namespace Describing

/-! ### Parts of models -/

/-- Reads a value that need not be there. -/
def value? (description : Option Value) : Describing (Option Value) :=
  match description with
  | some description => return some (← value description)
  | none => return none

/-- The fields of a description of a field that say nothing about the field's own settings. -/
def plainFieldNames : List String := ["name", "type", "default"]

/-- A field from its annotation and its own settings. Settings in the notes count where the own ones
are silent. The limits of all of them are notes again, the own limits first. -/
def fieldOf (name : String) (type : Ty) (own : FieldSettings) : Except Fault Field := do
  let (core, notes) := type.unnoted
  let described := notes.filterMap fun
    | .field settings => some settings
    | _ => none
  let settings := (described ++ [own]).foldl FieldSettings.merge .empty
  checkDefault settings
  let aliases := [settings.aliasName, settings.serializationAlias, settings.validationAlias]
  let limits := notes.map fun
    | .field settings => .attributes settings.limits
    | note => note
  return {
    name := name
    annotation := core
    notes := .attributes own.limits :: limits
    default := settings.default.orElse fun _ => settings.factory
    aliasName := settings.aliasName.join
    serializationAlias := settings.serializationAlias.join
    hasOwnAlias := aliases.any fun text => text.join.isSome
    title := settings.title.join
    description := settings.description.join
    excluded := settings.excluded.getD false
    extra := settings.extra }

/-- Reads a field. A name that begins with an underscore is for the model's own use: there is no
such field, and it can not have settings. -/
def field? (description : Value) : Describing (Option Field) := do
  let name := description.textAt "name"
  let type ← ty (description.atOrNull "type")
  let own ← settings description
  if name.startsWith "_" then
    if description.fields.all fun (key, _) => plainFieldNames.contains key then return none
    else throw (.fault (.other "PydanticUserError" "Private attributes must not have settings"))
  else return some (← ofExcept (fieldOf name type own))

/-- Reads a computed field. Its documentation describes it where nothing else does. -/
def computedField (description : Value) : Describing ComputedField := do
  let source ←
    match description.textAt? "get" with
    | some name => pure (ComputedSource.attribute name)
    | none => pure (ComputedSource.constant (← value (description.atOrNull "value")))
  let aliasName := description.textAt? "alias"
  let documentation := ((description.textAt? "doc").bind nonEmpty?).map dedented
  return {
    name := description.textAt "name"
    returns := ← ty (description.atOrNull "returns")
    source := source
    aliasName := aliasName
    hasOwnAlias := aliasName.isSome
    title := description.textAt? "title"
    description := (description.textAt? "description").orElse fun _ => documentation
    extra := ← fragment? (description.at? "extra") }

def aliasStyles : List (String × AliasStyle) :=
  [("to_camel", .camel), ("to_pascal", .pascal), ("to_snake", .snake)]

/-- Reads the settings of a model. Null makes a setting empty. -/
def config (description : Value) : Describing Config := do
  let text (key : String) : Option (Option String) := (description.at? key).map Value.text?
  return {
    title := text "title"
    extra := ← (description.at? "json_schema_extra").mapM fun extra => fragment? (some extra)
    durationMode := text "ser_json_timedelta"
    aliasStyle := (text "alias_generator").map fun style => style.bind (byWord? aliasStyles) }

/-! ### Declarations -/

/-- Reads the markers of a class. A discriminator without a name is the usual one. -/
def mark (c : ClassRef) (description : Value) : Describing Unit := do
  if let some property := description.at? "type_info" then
    modify fun catalog => catalog.markTypeInfo c (property.text?.getD defaultDiscriminator)
  if let some name := description.textAt? "type_name" then
    modify fun catalog => catalog.markTypeName c name
  if (description.at? "order").isSome then
    modify fun catalog => catalog.markOrder c (description.textsAt "order")
  if description.flagAt "root" then
    modify fun catalog => catalog.markRoot c

/-- Reads annotations. -/
def types (descriptions : List Value) : Describing (List Ty) := descriptions.mapM ty

/-- The classes among annotations. -/
def classes (descriptions : List Value) : Describing (List ClassRef) := do
  return (← types descriptions).filterMap Ty.class?

def mixins : List (String × Mixin) :=
  [("str", .str), ("int", .int), ("float", .float), ("flag", .flag), ("intflag", .intFlag)]

/-- Declares a model. -/
def declareModel (id : String) (className : ClassName) (description : Value) :
    Describing Unit := do
  let bases ← classes (description.itemsAt "bases")
  let parameters := (← types (description.itemsAt "generic")).filterMap fun
    | .typeVar index => some index
    | _ => none
  let config ← config (description.atOrNull "config")
  let fields ← (description.itemsAt "fields").filterMapM field?
  let computed ← (description.itemsAt "computed").mapM computedField
  let (table, c) ← ofExcept ((← table).declareModel (some id)
    ⟨className, bases, parameters, config, fields, computed⟩)
  setTable table
  mark c description

/-- Declares an enumeration. -/
def declareEnumeration (id : String) (className : ClassName) (description : Value) :
    Describing Unit := do
  let members ← (description.itemsAt "members").mapM fun member => do
    match member.items with
    | [.str name, source] => return (name, ← value source)
    | _ => return ("", .null)
  let mixin := ((description.textAt? "mixin").bind (byWord? mixins)).getD .none
  let (table, _) ← ofExcept ((← table).declareEnumeration id className mixin members)
  setTable table

/-- Declares a type variable. A bound that is nothing is no bound. -/
def declareTypeVariable (id name : String) (description : Value) : Describing Unit := do
  let bound ←
    match description.at? "bound" with
    | none | some .null | some (.str "none") => pure none
    | some bound => pure (some (← ty bound).asArgument)
  let limits ← types (description.itemsAt "constraints")
  setTable ((← table).declareTypeVariable id ⟨name, bound, limits.map Ty.asArgument⟩)

/-- Gives a type a name of its own. -/
def declareNewType (id : String) (module name : String) (description : Value) :
    Describing Unit := do
  let target ← ty (description.atOrNull "type")
  let table ← table
  setTable (table.declareNewType id ⟨module, name, table.underlying target.asArgument⟩)

/-- Declares the closed list of subtypes of a class. -/
def declareSubTypes (description : Value) : Describing Unit := do
  let base ← ty (description.atOrNull "base")
  let entries ← (description.itemsAt "entries").mapM fun entry => do
    match entry with
    | .collection _ [t, .str name] => return (← ty t, some name)
    | .collection _ [t, .null] => return (← ty t, none)
    | t => return (← ty t, none)
  if let .cls c := base then
    set (← ofExcept ((← get).declareSubTypes c entries))

/-- Reads one declaration. Classes are in the module that is given unless they name another. -/
def declare (module : String) (description : Value) : Describing Unit := do
  let id := description.textAt "id"
  let name := (description.textAt? "name").getD id
  let className : ClassName :=
    ⟨(description.textAt? "module").getD module, (description.textAt? "qualname").getD name, name⟩
  match description.textAt "def" with
  | "model" => declareModel id className description
  | "class" =>
    let bases ← classes (description.itemsAt "bases")
    let (table, c) ← ofExcept ((← table).declarePlain id className bases)
    setTable table
    mark c description
  | "enum" => declareEnumeration id className description
  | "typevar" => declareTypeVariable id name description
  | "newtype" => declareNewType id className.module name description
  | "mark" =>
    if let .cls c := ← ty (.str id) then mark c description
  | "sub_types" => declareSubTypes description
  | _ => pure ()

/-- Reads declarations one after the other, up to the first that fails. -/
def declareAll (module : String) (descriptions : List Value) : Describing Unit :=
  descriptions.forM (declare module)

end Describing

end ModelSchema
