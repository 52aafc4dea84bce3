import ModelSchema.Schema.Outline

/-!
The schema tree of a document.

* `SchemaSource.formNode`: the node of an annotation, once all definitions have names.
* `SchemaSource.bodyNode`: the body of a model.
* `SchemaSource.tree`: the whole tree, or why there is none.
-/

namespace ModelSchema

/-- The limits of notes, when they have any. -/
def presentLimits (notes : List Note) : Limits :=
  match limitsOf notes with
  | .ok limits => limits
  | .error _ => []

namespace SchemaSource

/-! ### Nodes -/

/-- The node of a model: a choice among its subtypes, or a reference to it. -/
def objectNode (source : SchemaSource) (names : ClassRef → String) (c : ClassRef) : Node :=
  match source.subTypes c with
  | [] => if c = source.root then rootReference else definitionReference (names c)
  | subTypes => branchesNode (subTypes.map fun s => definitionReference (names s))

/-- The node of a leaf. -/
def leafNode (source : SchemaSource) (names : ClassRef → String) (owner c : ClassRef) : Node :=
  let table := source.catalog.table
  match table.objectFormat? c with
  | some _ => definitionReference (names c)
  | none =>
    match table.leafFormat? (table.numericDurations owner) c with
    | some leaf => leaf.node
    | none => []

mutual

/-- The node of an annotation in the body of `owner`, under limits from around it. -/
def formNode (source : SchemaSource) (names : ClassRef → String) (owner : ClassRef)
    (limits : Limits) : Form → Node
  | .of _ notes shape =>
    source.shapeNode names owner (limits.update (presentLimits notes)) shape

def shapeNode (source : SchemaSource) (names : ClassRef → String) (owner : ClassRef)
    (limits : Limits) : Shape → Node
  | .union options nullable => unionNode (source.formNodes names owner limits options) nullable
  | .any => Node.limited [] limits
  | .null => Node.limited (Node.single "type" (.str "null")) limits
  | .leaf c => Node.limited (source.leafNode names owner c) limits
  | .enumeration (some c) [] => Node.limited (source.leafNode names owner c) limits
  | .enumeration _ values => Node.limited (enumerationNode values) limits
  | .object c _ => Node.limited (source.objectNode names c) limits
  | .array element unique =>
    Node.limited (arrayNode (source.formNode names owner [] element) unique) limits
  | .fixedArray elements =>
    Node.limited (fixedArrayNode (source.formNodes names owner [] elements)) limits
  | .map _ value => Node.limited (mapNode (source.formNode names owner [] value)) limits
  | .unsupported _ => []

def formNodes (source : SchemaSource) (names : ClassRef → String) (owner : ClassRef)
    (limits : Limits) : List Form → List Node
  | [] => []
  | form :: rest =>
    source.formNode names owner limits form :: source.formNodes names owner limits rest

end

/-! ### Bodies -/

/-- A keyword with a text, unless the text is missing or empty. -/
def textKeyword (keyword : String) (text : Option String) : Node :=
  match text.bind nonEmpty? with
  | some text => Node.single keyword (.str text)
  | none => []

/-- The node of a property. -/
def propertyNode (source : SchemaSource) (names : ClassRef → String) (owner : ClassRef)
    (p : Property) : Node :=
  let table := source.catalog.table
  let described := textKeyword "title" p.title ++ textKeyword "description" p.description
  let node : Node := Value.assocUpdate described
    (source.formNode names owner p.limits (table.form p.annotation))
  let node := if p.readOnly then node.set "readOnly" (.bool true) else node
  match p.extra with
  | some fragment => fragment.edited node (table.name owner)
  | none => node

/-- The order of keywords in a body that a fragment was injected into. -/
def bodyKeywords : List String :=
  ["title", "description", "type", "additionalProperties", "properties", "required"]

/-- The node of a discriminator, which has one value. -/
def discriminatorNode (name : String) : Node :=
  [(.str "type", .str "string"), (.str "enum", .list [.str name]), (.str "default", .str name)]

/-- The nodes of all properties of a body, the discriminator first. -/
def propertyNodes (source : SchemaSource) (names : ClassRef → String) (c : ClassRef)
    (props : List Property) : Node :=
  let first :=
    match source.discriminator? c with
    | some d => Node.single d (.dict (discriminatorNode (source.catalog.typeName c)))
    | none => []
  (source.bodyProperties c props).foldl (fun nodes p =>
    Node.set nodes p.publicName (.dict (source.propertyNode names c p))) first

/-- The names that a body requires. -/
def requiredNames (source : SchemaSource) (c : ClassRef) (props : List Property) : List String :=
  (source.discriminator? c).toList
    ++ ((source.bodyProperties c props).filter (·.required)).map (·.publicName)

/-- The body of a model with the given properties. -/
def bodyNode (source : SchemaSource) (names : ClassRef → String) (c : ClassRef)
    (props : List Property) : Node :=
  let table := source.catalog.table
  let required := source.requiredNames c props
  let node : Node :=
    [(.str "title", .str (table.title c)), (.str "type", .str "object"),
      (.str "additionalProperties", .bool false),
      (.str "properties", .dict (source.propertyNodes names c props))]
      ++ if required.isEmpty then [] else Node.single "required" (.strings required)
  match (table.config c).extra.join with
  | some fragment =>
    if fragment.isEmpty then node
    else Node.reorder (fragment.edited node (table.name c)) bodyKeywords
  | none => node

/-- The body of a class; empty for one without properties to read. -/
def classBody (source : SchemaSource) (names : ClassRef → String) (c : ClassRef) : Node :=
  match source.catalog.table.properties c with
  | .ok props => source.bodyNode names c props
  | .error _ => []

/-! ### The document -/

/-- The dialect of the schema. -/
def dialect : String := "http://json-schema.org/draft-07/schema#"

/-- The node of a definition. -/
def definitionNode (source : SchemaSource) (names : ClassRef → String) (definition : Definition) :
    Value :=
  match definition.kind with
  | .model => .dict (source.classBody names definition.type)
  | .fixed schema => schema

/-- The part of the document about the root. -/
def rootNode (source : SchemaSource) (names : ClassRef → String) : Node :=
  match source.subTypes source.root with
  | [] => source.classBody names source.root
  | subTypes =>
    Node.single "title" (.str (source.catalog.table.title source.root))
      ++ branchesNode (subTypes.map fun s => definitionReference (names s))

/-- The document with the definitions of an outline. -/
def document (source : SchemaSource) (outline : Outline) : Node :=
  let names := outline.nameOf
  let node : Node :=
    Value.assocUpdate (Node.single "$schema" (.str dialect)) (source.rootNode names)
  let definitions := outline.definitions.mergeSort fun a b => a.name ≤ b.name
  if definitions.isEmpty then node
  else node.set definitionsKeyword
    (.record (definitions.map fun d => (d.name, source.definitionNode names d)))

/-- The schema tree of the root: the notices of its making, and the tree or why there is none. -/
def tree (source : SchemaSource) : List Notice × Except Failure Value :=
  match source.outline with
  | (outline, none) => (outline.notices, .ok (.dict (source.document outline)))
  | (outline, some failure) => (outline.notices, .error failure)

end SchemaSource

end ModelSchema
