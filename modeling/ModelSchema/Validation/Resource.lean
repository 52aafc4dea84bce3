import ModelSchema.Text.UriReference
import ModelSchema.Validation.Metaschema

/-!
Schemas and the references that name them.

* `SchemaResource`: a schema with the dialect it is written in.
* `SchemaIndex`: schemas by their references, and by anchors inside of them.
* `SchemaIndex.crawled`: an index to which everything inside of a schema is added.
-/

namespace ModelSchema

/-- A schema with the dialect it is written in. -/
structure SchemaResource where
  contents : Value
  dialect : Dialect
  deriving Repr, Inhabited

/-- A schema that has a name inside of another one. What a dynamic name stands for depends on the
schemas on the way to it. -/
structure SchemaAnchor where
  name : String
  resource : SchemaResource
  isDynamic : Bool
  deriving Repr, Inhabited

/-- A reference seen from a base. -/
def joinedUri (base reference : String) : Except Fault String :=
  match joinedUri? base reference with
  | some uri => .ok uri
  | none => .error (.other "ValueError" "Invalid IPv6 URL")

/-- A reference without its fragment, and the fragment. -/
def splitFragment (reference : String) : Except Fault (String × String) :=
  match splitFragment? reference with
  | some parts => .ok parts
  | none => .error (.other "ValueError" "Invalid IPv6 URL")

namespace SchemaResource

/-- The reference by which a schema names itself. -/
def id? (table : ClassTable) (resource : SchemaResource) : Except Fault (Option String) :=
  resource.dialect.id? table resource.contents

/-- A schema inside of one of a dialect. It can be of another dialect. -/
def within (table : ClassTable) (dialect : Dialect) (schema : Value) :
    Except Fault SchemaResource := do
  match schema with
  | .dict _ =>
    match ← schema.partNamed? table "$schema" with
    | none | some .null => return ⟨schema, dialect⟩
    | some (.str uri) =>
      return ⟨schema, (Dialect.ofUri? (Dialect.withoutEmptyFragment uri)).getD dialect⟩
    | some other => throw (.missingAttribute (other.operandName table) "rstrip")
  | schema => return ⟨schema, dialect⟩

/-- The schemas inside of a schema. -/
def inner (table : ClassTable) (resource : SchemaResource) :
    Except Fault (List SchemaResource) := do
  (← resource.dialect.subschemas table resource.contents).mapM (within table resource.dialect)

/-- The anchor that the text behind a keyword names. -/
def namedAnchor (table : ClassTable) (resource : SchemaResource) (keyword : String)
    (isDynamic : Bool) : Except Fault (List SchemaAnchor) := do
  match ← resource.contents.partNamed? table keyword with
  | some (.str name) => return [⟨name, resource, isDynamic⟩]
  | _ => return []

/-- The names of a schema inside of the one around it. -/
def anchors (table : ClassTable) (resource : SchemaResource) :
    Except Fault (List SchemaAnchor) := do
  let dialect := resource.dialect
  let isTruth : Bool := resource.contents matches .bool _
  if dialect.hasTruthSchemas && isTruth then return []
  else if dialect.isModern then
    let dynamic ←
      if dialect = .draft2020 then resource.namedAnchor table "$dynamicAnchor" true else pure []
    return (← resource.namedAnchor table "$anchor" false) ++ dynamic
  else
    match ← resource.contents.partNamed? table dialect.idKeyword with
    | none => return []
    | some id =>
      if ← id.beginsWith table "#" then
        return [⟨((id.text?.getD "").drop 1).copy, resource, false⟩]
      else return []

end SchemaResource

/-- Schemas by their references, and schemas by a reference and a name. Later ones stand in front.
-/
structure SchemaIndex where
  resources : List (String × SchemaResource)
  anchors : List (String × SchemaAnchor)
  deriving Repr, Inhabited

namespace SchemaIndex

/-- The schemas of the dialects. -/
def dialects : SchemaIndex :=
  ⟨Dialect.all.filterMap fun dialect =>
    dialect.metaschema?.map fun schema => (dialect.uri, ⟨schema, dialect⟩), []⟩

def resource? (index : SchemaIndex) (uri : String) : Option SchemaResource :=
  index.resources.lookup uri

def anchor? (index : SchemaIndex) (uri name : String) : Option SchemaAnchor :=
  (index.anchors.find? fun (uri', anchor) => uri' = uri && anchor.name = name).map (·.2)

/-- The index with a further schema. -/
def add (index : SchemaIndex) (uri : String) (resource : SchemaResource) : SchemaIndex :=
  { index with resources := (uri, resource) :: index.resources }

/-- The index with a schema, if it names itself, and everything inside of it. Of two schemas with
one reference the one that stands first inside of a schema counts. -/
def addAll (table : ClassTable) : Nat → String → SchemaResource → SchemaIndex →
    Except Fault SchemaIndex
  | 0, _, _, index => .ok index
  | fuel + 1, base, resource, index => do
    let (uri, index) ←
      match ← resource.id? table with
      | none => pure (base, index)
      | some id =>
        let uri ← joinedUri base id
        pure (uri, index.add uri resource)
    let anchors ← resource.anchors table
    let index :=
      { index with anchors := (anchors.map (uri, ·)).reverse ++ index.anchors }
    (← resource.inner table).reverse.foldlM
      (fun index inner => addAll table fuel uri inner index) index

/-- The index of the dialects and of a schema, the root of a document. -/
def ofRoot (uri : String) (root : SchemaResource) : SchemaIndex := dialects.add uri root

/-- The index of the dialects, a schema and everything inside of it. -/
def crawled (table : ClassTable) (uri : String) (root : SchemaResource) :
    Except Fault SchemaIndex :=
  addAll table (root.contents.nodeCount + 1) uri root (ofRoot uri root)

end SchemaIndex

end ModelSchema
