import ModelSchema.Class.Linearisation
import ModelSchema.Shown

/-!
Declaring classes, type variables and named types.

* `ClassTable.declareModel`: fields are inherited base first; a redeclared field keeps its place.
* `ClassTable.declarePlain`, `declareTypeVariable`, `declareNewType`.
-/

namespace ModelSchema

/-- What a model declaration says of its own. -/
structure ModelDeclaration where
  className : ClassName
  bases : List ClassRef
  parameters : List Nat
  config : Config
  fields : List Field
  computed : List ComputedField
  deriving Repr, Inhabited

namespace ClassTable

/-- Adds a class under a reference name, if it has one. -/
def addClass (table : ClassTable) (id : Option String) (info : ClassInfo) :
    ClassTable × ClassRef :=
  let c := ClassRef.declared table.classes.size
  let names :=
    match id with
    | some id => table.names ++ [(id, .cls c)]
    | none => table.names
  ({ table with classes := table.classes.push info, names := names }, c)

/-! ### Models -/

/-- The field of the first base that has one of the name. -/
def inheritedField? (table : ClassTable) (bases : List ClassRef) (name : String) :
    Option Field :=
  bases.findSome? fun base =>
    (table.model? base).bind fun info => info.fields.find? (·.name = name)

/-- All fields of a new model: the farthest ancestor's first, each name at its first place. Of own
fields of one name the last one counts. -/
def collectFields (table : ClassTable) (bases ancestors : List ClassRef) (own : List Field) :
    List Field :=
  let inherited := ancestors.reverse.flatMap fun c =>
    match table.model? c with
    | some info => info.ownFields
    | none => []
  (inherited ++ own.map (·.name)).eraseDups.filterMap fun name =>
    (own.reverse.find? (·.name = name)).orElse fun _ => table.inheritedField? bases name

/-- Adds computed fields; one of a known name takes the place of the old one. -/
def overrideComputed (below above : List ComputedField) : List ComputedField :=
  above.foldl (fun kept field =>
    if kept.any (·.name = field.name) then
      kept.map fun old => if old.name = field.name then field else old
    else kept ++ [field]) below

/-- All computed fields of a new model. -/
def collectComputed (table : ClassTable) (ancestors : List ClassRef)
    (own : List ComputedField) : List ComputedField :=
  let inherited := ancestors.reverse.foldl (fun kept c =>
    match table.model? c with
    | some info => overrideComputed kept info.computed
    | none => kept) []
  overrideComputed inherited own

/-- The settings of a new model: those of the bases in order, its own on top. -/
def collectConfig (table : ClassTable) (bases : List ClassRef) (own : Config) : Config :=
  (bases.foldl (fun config base => config.merge (table.config base)) Config.empty).merge own

/-- The open parameters of a new model: its own, among which those of its nearest model ancestor
have to be, or else the latter. -/
def collectParameters (table : ClassTable) (ancestors : List ClassRef) (own : List Nat) :
    Except Fault (List Nat) :=
  let above := (ancestors.findSome? fun c => (table.model? c).map (·.parameters)).getD []
  if own.isEmpty then .ok above
  else if above.all own.contains then .ok own
  else
    let all := above ++ own.filter fun index => !above.contains index
    let names := ", ".intercalate (all.map fun index => "~" ++ table.typeVarName index)
    .error (typeFault <| "All parameters must be present on typing.Generic; you should inherit "
      ++ s!"from typing.Generic[{names}].")

/-- The ways a model can write durations. -/
def durationModes : List String := ["iso8601", "float"]

/-- Checks that a model writes durations in a way there is. -/
def checkDurationMode (config : Config) : Except Fault Unit :=
  match config.durationMode.join with
  | some mode =>
    if durationModes.contains mode then .ok ()
    else .error (.other "SchemaError" s!"Invalid timedelta serialization mode: {mode}")
  | none => .ok ()

/-- Declares a model. -/
def declareModel (table : ClassTable) (id : Option String) (declaration : ModelDeclaration) :
    Except Fault (ClassTable × ClassRef) := do
  let bases := if declaration.bases.isEmpty then [.basic .model] else declaration.bases
  let ancestors ← ancestorsOfNew table declaration.className.name bases
  let parameters ← table.collectParameters ancestors declaration.parameters
  let config := table.collectConfig bases declaration.config
  checkDurationMode config
  let style := config.aliasStyle.join
  let info : ModelInfo :=
    { ownFields := declaration.fields.map (·.name)
      fields := (table.collectFields bases ancestors declaration.fields).map
        fun field => style.elim field field.styled
      computed := (table.collectComputed ancestors declaration.computed).map
        fun field => style.elim field field.styled
      config := config
      origin := none
      arguments := []
      parameters := parameters
      isGeneric := !declaration.parameters.isEmpty
        || ancestors.any fun c => (table.model? c).any (·.isGeneric) }
  let self := ClassRef.declared table.classes.size
  pure <| table.addClass id
    { className := declaration.className
      bases := bases
      ancestors := self :: ancestors
      kind := .model info }

/-- Declares a class. It is a model or an enumeration if one of its bases is. -/
def declarePlain (table : ClassTable) (id : String) (className : ClassName)
    (bases : List ClassRef) : Except Fault (ClassTable × ClassRef) := do
  if bases.any fun base => table.isBasicSubclass base .model then
    table.declareModel (some id) ⟨className, bases, [], .empty, [], []⟩
  else
    let bases := if bases.isEmpty then [.basic .object] else bases
    let ancestors ← ancestorsOfNew table className.name bases
    let self := ClassRef.declared table.classes.size
    let isEnumeration := bases.any fun base => table.isBasicSubclass base .enumeration
    pure <| table.addClass (some id)
      { className := className
        bases := bases
        ancestors := self :: ancestors
        kind := if isEnumeration then .enumeration ⟨.none, [], []⟩ else .plain }

/-! ### Type variables and named types -/

def declareTypeVariable (table : ClassTable) (id : String) (typeVariable : TypeVariable) :
    ClassTable :=
  { table with
    typeVariables := table.typeVariables.push typeVariable
    names := table.names ++ [(id, .typeVar table.typeVariables.size)] }

def declareNewType (table : ClassTable) (id : String) (newType : NewType) : ClassTable :=
  { table with
    newTypes := table.newTypes.push newType
    names := table.names ++ [(id, .newType table.newTypes.size)] }

end ClassTable

end ModelSchema
