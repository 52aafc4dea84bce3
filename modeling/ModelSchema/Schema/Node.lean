import ModelSchema.Limit
import ModelSchema.Shape

/-!
Schema nodes: the parts of a schema tree.

* `Node`: keywords with their values, in order.
* `Node.limited`: a node with limits; they stand beside a reference only inside `allOf`.
* `Fragment.edited`: a node with a fragment injected into it.
* `enumerationNode`, `unionNode`, `arrayNode` and their relatives: the nodes of the shapes.
-/

namespace ModelSchema

/-- Keywords with their values, in order. -/
abbrev Node := List (Value × Value)

namespace Node

/-- Sets a keyword: one that is there keeps its place. -/
def set (node : Node) (keyword : String) (value : Value) : Node :=
  Value.assocSet node (.str keyword) value

/-- The value of a keyword. -/
def get? (node : Node) (keyword : String) : Option Value := Value.assoc? (.str keyword) node

/-- Whether a node has a keyword. -/
def has (node : Node) (keyword : String) : Bool := (node.get? keyword).isSome

/-- A node with one keyword. -/
def single (keyword : String) (value : Value) : Node := [(.str keyword, value)]

/-- A node with limits. Keywords beside a reference have no effect, so the reference is wrapped. -/
def limited (node : Node) (limits : Limits) : Node :=
  if !limits.isEmpty && (node.has "$ref" || node.has "oneOf") then
    withLimits (single "allOf" (.list [.dict node])) limits (some "object")
  else withLimits node limits none

/-- The given keywords first, in their order, then the others. -/
def reorder (node : Node) (keywords : List String) : Node :=
  let first := keywords.filterMap fun keyword =>
    (node.get? keyword).map fun value => (Value.str keyword, value)
  first ++ node.filter fun (key, _) => !first.any fun (k, _) => k.same key

end Node

/-! ### Fragments -/

namespace Fragment

/-- Whether a fragment says nothing. -/
def isEmpty : Fragment → Bool
  | merge entries => entries.isEmpty
  | edit _ => false

/-- How the application of a fragment fails, if it does. -/
def failure? : Fragment → Option Failure
  | merge _ => none
  | edit change =>
    if change.parameters = 0 then some (.fault (.tooManyArguments 1)) else change.failure

/-- A node with a fragment injected. `owner` is the simple name of the model the node belongs to. -/
def edited (node : Node) (owner : String) : Fragment → Node
  | merge entries => Value.assocUpdate node entries
  | edit change =>
    let node := change.remove.foldl Value.assocErase node
    let node := Value.assocUpdate node change.assign
    if change.parameters = 2 then Node.set node "x-owner" (.str owner) else node

end Fragment

/-! ### Enumerations -/

/-- Whether a value is a text, a member that is one included. -/
def isText : Value → Bool
  | .str _ | .member _ .str _ _ => true
  | _ => false

/-- Whether a value is an integer and no truth value. -/
def isInteger : Value → Bool
  | .int _ | .member _ .int _ _ | .member _ .intFlag _ _ => true
  | _ => false

/-- Whether a value is a number and no truth value. -/
def isNumber : Value → Bool
  | .float _ | .member _ .float _ _ => true
  | value => isInteger value

def isTruth : Value → Bool
  | .bool _ => true
  | _ => false

/-- The JSON type that all values of an enumeration have. -/
def commonType? (values : List Value) : Option String :=
  if values.all isTruth then some "boolean"
  else if values.all isText then some "string"
  else if values.all isInteger then some "integer"
  else if values.all isNumber then some "number"
  else none

/-- The node of an enumeration. -/
def enumerationNode (values : List Value) : Node :=
  (match commonType? values with
    | some type => Node.single "type" (.str type)
    | none => [])
    ++ Node.single "enum" (.list values)

/-! ### Containers and unions -/

/-- The node of null where a property can be left out. -/
def notIncluded : Node := [(.str "type", .str "null"), (.str "title", .str "Not included")]

/-- The node of a union, given those of its options. -/
def unionNode (options : List Node) (nullable : Bool) : Node :=
  let inner :=
    match options with
    | [option] => option
    | options => Node.single "anyOf" (.list (options.map .dict))
  if nullable then Node.single "oneOf" (.list [.dict notIncluded, .dict inner]) else inner

def arrayNode (element : Node) (unique : Bool) : Node :=
  [(.str "type", .str "array"), (.str "items", .dict element)]
    ++ if unique then Node.single "uniqueItems" (.bool true) else []

/-- The node of an array whose items are given one by one. -/
def fixedArrayNode (elements : List Node) : Node :=
  [(.str "type", .str "array"), (.str "items", .list (elements.map .dict)),
    (.str "minItems", .int elements.length), (.str "maxItems", .int elements.length)]

def mapNode (value : Node) : Node :=
  [(.str "type", .str "object"), (.str "additionalProperties", .dict value)]

/-! ### References -/

/-- The keyword under which definitions are kept. -/
def definitionsKeyword : String := "definitions"

/-- A reference to a definition. -/
def definitionReference (name : String) : Node :=
  Node.single "$ref" (.str s!"#/{definitionsKeyword}/{name}")

/-- A reference to the document itself. -/
def rootReference : Node := Node.single "$ref" (.str "#")

/-- A node that exactly one of several nodes has to accept. -/
def branchesNode (branches : List Node) : Node :=
  Node.single "oneOf" (.list (branches.map .dict))

end ModelSchema
