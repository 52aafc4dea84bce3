import ModelSchema.Annotation
import ModelSchema.Failure
import ModelSchema.Text.AliasStyle

/-!
The class table: every declared class, type variable and named type, in order of declaration.

* `ClassTable`: the declarations and the names by which annotations refer to them.
* `ClassTable.ancestors`: a class and its ancestors, nearest first, as fixed at declaration.
* `ClassTable.isSubclass`: whether one class is another or descends from it.
-/

namespace ModelSchema

/-- A field of a model. `notes` are the limits given with the field, then the notes around its
annotation; `annotation` is without those. The aliases are as given, or as the style of the model
makes them; `hasOwnAlias` tells that one was given. -/
structure Field where
  name : String
  annotation : Ty
  notes : List Note
  default : Option Value
  aliasName : Option String
  serializationAlias : Option String
  hasOwnAlias : Bool
  title : Option String
  description : Option String
  excluded : Bool
  extra : Option Fragment
  deriving Repr, Inhabited

/-- Where the value of a computed field comes from. -/
inductive ComputedSource where
  | constant (value : Value)
  | attribute (name : String)
  deriving Repr, Inhabited

/-- A computed field of a model. -/
structure ComputedField where
  name : String
  returns : Ty
  source : ComputedSource
  aliasName : Option String
  hasOwnAlias : Bool
  title : Option String
  description : Option String
  extra : Option Fragment
  deriving Repr, Inhabited

/-- A field of a model whose style makes aliases: all of them, or those that are missing beside one
that was given. -/
def Field.styled (style : AliasStyle) (field : Field) : Field :=
  let made := some (style.apply field.name)
  if field.hasOwnAlias then
    { field with
      aliasName := field.aliasName.orElse fun _ => made
      serializationAlias := field.serializationAlias.orElse fun _ => made }
  else { field with aliasName := made, serializationAlias := made }

/-- A computed field of a model whose style makes aliases. -/
def ComputedField.styled (style : AliasStyle) (field : ComputedField) : ComputedField :=
  if field.hasOwnAlias then field else { field with aliasName := some (style.apply field.name) }

/-- The settings of a model. One that is made can be made empty. -/
structure Config where
  title : Option (Option String)
  extra : Option (Option Fragment)
  durationMode : Option (Option String)
  aliasStyle : Option (Option AliasStyle)
  deriving Repr, Inhabited

namespace Config

def empty : Config := ⟨none, none, none, none⟩

/-- Settings with those of another on top. -/
def merge (below above : Config) : Config :=
  { title := above.title.orElse fun _ => below.title
    extra := above.extra.orElse fun _ => below.extra
    durationMode := above.durationMode.orElse fun _ => below.durationMode
    aliasStyle := above.aliasStyle.orElse fun _ => below.aliasStyle }

end Config

/-- What a model class consists of. `origin` and `arguments` tell a parametrised model; the
`parameters` are the type variables that are still open, and `isGeneric` tells that it, or an
ancestor, has or had some. -/
structure ModelInfo where
  ownFields : List String
  fields : List Field
  computed : List ComputedField
  config : Config
  origin : Option ClassRef
  arguments : List Ty
  parameters : List Nat
  isGeneric : Bool
  deriving Repr, Inhabited

/-- A member of an enumeration. -/
structure EnumMember where
  name : String
  value : Value
  deriving Repr, Inhabited

/-- What an enumeration consists of: the members that iteration meets, and every name with the
member it stands for. -/
structure EnumInfo where
  mixin : Mixin
  members : List EnumMember
  names : List (String × EnumMember)
  deriving Repr, Inhabited

inductive ClassKind where
  | plain
  | enumeration (info : EnumInfo)
  | model (info : ModelInfo)
  deriving Repr, Inhabited

/-- A declared class. The ancestors begin with the class itself. -/
structure ClassInfo where
  className : ClassName
  bases : List ClassRef
  ancestors : List ClassRef
  kind : ClassKind
  deriving Repr, Inhabited

/-- A type variable with its upper bound or the types it is limited to. -/
structure TypeVariable where
  name : String
  bound : Option Ty
  limits : List Ty
  deriving Repr, Inhabited

/-- A type that was given a name of its own. The target names no further such type. -/
structure NewType where
  module : String
  name : String
  target : Ty
  deriving Repr, Inhabited

/-- All declarations, in order. `names` are the reference names known to annotations and
`parametrised` the models made from generic ones with the arguments that made them. -/
structure ClassTable where
  classes : Array ClassInfo
  typeVariables : Array TypeVariable
  newTypes : Array NewType
  names : List (String × Ty)
  parametrised : List (ClassRef × List Ty × ClassRef)
  deriving Repr, Inhabited

namespace ClassTable

/-- The table without declarations. -/
def empty : ClassTable := ⟨#[], #[], #[], [], []⟩

/-! ### Looking up -/

/-- The declaration of a class, if it is a declared one. -/
def info? (table : ClassTable) : ClassRef → Option ClassInfo
  | .basic _ => none
  | .declared index => table.classes[index]?

def className (table : ClassTable) : ClassRef → ClassName
  | .basic c => c.className
  | .declared index =>
    match table.classes[index]? with
    | some info => info.className
    | none => default

/-- The simple name of a class. -/
def name (table : ClassTable) (c : ClassRef) : String := (table.className c).name

def qualname (table : ClassTable) (c : ClassRef) : String := (table.className c).qualname

def module (table : ClassTable) (c : ClassRef) : String := (table.className c).module

/-- The module and the name of a class. Without a module the name stands alone. -/
def qualifiedName (table : ClassTable) (c : ClassRef) : String :=
  let names := table.className c
  if names.module.isEmpty then names.qualname else names.module ++ "." ++ names.qualname

/-- The classes that a class names as its bases. -/
def bases (table : ClassTable) : ClassRef → List ClassRef
  | .basic c => c.bases.map .basic
  | .declared index =>
    match table.classes[index]? with
    | some info => info.bases
    | none => []

/-- A class and its ancestors, nearest first. -/
def ancestors (table : ClassTable) : ClassRef → List ClassRef
  | .basic c => c.ancestors.map .basic
  | .declared index =>
    match table.classes[index]? with
    | some info => info.ancestors
    | none => []

/-- Whether a class is another class or descends from it. -/
def isSubclass (table : ClassTable) (c base : ClassRef) : Bool :=
  (table.ancestors c).contains base

def isBasicSubclass (table : ClassTable) (c : ClassRef) (base : BasicClass) : Bool :=
  table.isSubclass c (.basic base)

/-- All declared classes. -/
def declared (table : ClassTable) : List ClassRef :=
  (List.range table.classes.size).map .declared

/-- All classes, basic and declared. -/
def allClasses (table : ClassTable) : List ClassRef :=
  BasicClass.all.map .basic ++ table.declared

/-- What a model consists of; the root of all models has no parts. -/
def model? (table : ClassTable) (c : ClassRef) : Option ModelInfo :=
  match c with
  | .basic .model => some ⟨[], [], [], .empty, none, [], [], false⟩
  | c =>
    match table.info? c with
    | some ⟨_, _, _, .model info⟩ => some info
    | _ => none

def enumeration? (table : ClassTable) (c : ClassRef) : Option EnumInfo :=
  match table.info? c with
  | some ⟨_, _, _, .enumeration info⟩ => some info
  | _ => none

/-- The settings of a class; classes other than models have none. -/
def config (table : ClassTable) (c : ClassRef) : Config :=
  match table.model? c with
  | some info => info.config
  | none => .empty

/-- Whether a class was made from a generic model by giving arguments. -/
def isParametrised (table : ClassTable) (c : ClassRef) : Bool :=
  match table.model? c with
  | some info => info.origin.isSome
  | none => false

/-- The type arguments of a model, then its open parameters. -/
def typeArguments (table : ClassTable) (c : ClassRef) : List Ty :=
  match table.model? c with
  | some info => info.arguments ++ info.parameters.map .typeVar
  | none => []

/-- The name of a type variable. -/
def typeVarName (table : ClassTable) (index : Nat) : String :=
  match table.typeVariables[index]? with
  | some v => v.name
  | none => ""

/-- What a reference name stands for. -/
def lookup? (table : ClassTable) (name : String) : Option Ty :=
  (table.names.find? (·.1 = name)).map (·.2)

/-- An annotation with the names that are known by now put in. -/
def resolve (table : ClassTable) (t : Ty) : Ty := t.resolve table.lookup?

/-- An annotation with the types that were given names replaced by their targets, and the limited
type variables by their limits. Values have the forms of those. -/
def underlying (table : ClassTable) (t : Ty) : Ty :=
  t.replaceAtoms fun
    | .newType i =>
      match table.newTypes[i]? with
      | some newType => newType.target
      | none => .newType i
    | .typeVar i =>
      match (table.typeVariables[i]?).map (·.limits) with
      | some (t :: ts) => .union false (t :: ts)
      | _ => .typeVar i
    | atom => atom

/-! ### Members of enumerations -/

/-- A member as a value. -/
def memberValue (owner : ClassRef) (mixin : Mixin) (m : EnumMember) : Value :=
  .member owner mixin m.name m.value

/-- The member a name stands for. -/
def member? (table : ClassTable) (c : ClassRef) (name : String) : Option Value :=
  (table.enumeration? c).bind fun info =>
    (info.names.find? (·.1 = name)).map fun (_, m) => memberValue c info.mixin m

/-- The members of an enumeration that iteration meets. -/
def members (table : ClassTable) (c : ClassRef) : List Value :=
  match table.enumeration? c with
  | some info => info.members.map (memberValue c info.mixin)
  | none => []

end ClassTable

end ModelSchema
