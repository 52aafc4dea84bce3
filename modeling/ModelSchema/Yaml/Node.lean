import ModelSchema.Yaml.Error

/-!
YAML nodes: a document between its text and the values it stands for.

* `YamlTag`: the kinds of node.
* `YamlNode`: scalars, sequences and mappings with their kinds. A scalar holds its text without
  quotes; how it is written follows from the kind and the text.
* `PlacedNode`: a node as it was read, with the place where it begins. An alias is the node it stands
  for, unless it stands inside of that node.
* `PlacedNode.kindName`: the name of the kind of a node in messages.
-/

namespace ModelSchema

/-- The kinds of node. `merge` and `default` are the kinds of the keys `<<` and `=`. -/
inductive YamlTag where
  | null
  | bool
  | int
  | float
  | str
  | binary
  | timestamp
  | merge
  | default
  | sequence
  | mapping
  | set
  | orderedMap
  | pairs
  | other (text : String)
  deriving DecidableEq, Repr, Inhabited

namespace YamlTag

/-- The short name of a kind behind the double exclamation mark. -/
def name : YamlTag → String
  | null => "null"
  | bool => "bool"
  | int => "int"
  | float => "float"
  | str => "str"
  | binary => "binary"
  | timestamp => "timestamp"
  | merge => "merge"
  | default => "value"
  | sequence => "seq"
  | mapping => "map"
  | set => "set"
  | orderedMap => "omap"
  | pairs => "pairs"
  | other text => text

/-- What the full names of the kinds with short names begin with. -/
def standardBase : String := "tag:yaml.org,2002:"

/-- A kind as it is written in front of a node. -/
def label (tag : YamlTag) : String := "!!" ++ tag.name

/-- All kinds that have a name of their own. -/
def named : List YamlTag :=
  [null, bool, int, float, str, binary, timestamp, merge, default, sequence, mapping, set,
    orderedMap, pairs]

end YamlTag

/-- A node. -/
inductive YamlNode where
  | scalar (tag : YamlTag) (text : String)
  | sequence (tag : YamlTag) (items : List YamlNode)
  | mapping (tag : YamlTag) (entries : List (YamlNode × YamlNode))
  deriving Repr, Inhabited

/-! ### Nodes as they were read -/

/-- A node of a text. Collections know the anchor in front of them. -/
inductive PlacedNode where
  | scalar (mark : YamlMark) (tag : YamlTag) (text : String)
  | sequence (mark : YamlMark) (tag : YamlTag) (anchor : Option String) (items : List PlacedNode)
  | mapping (mark : YamlMark) (tag : YamlTag) (anchor : Option String)
      (entries : List (PlacedNode × PlacedNode))
  /-- an alias inside of the collection that it stands for -/
  | enclosing (mark : YamlMark) (tag : YamlTag) (isMapping : Bool) (anchor : String)
  deriving Repr, Inhabited

namespace PlacedNode

/-- The place where a node begins. -/
def mark : PlacedNode → YamlMark
  | scalar mark .. | sequence mark .. | mapping mark .. | enclosing mark .. => mark

def tag : PlacedNode → YamlTag
  | scalar _ tag _ | sequence _ tag .. | mapping _ tag .. | enclosing _ tag .. => tag

def kindName : PlacedNode → String
  | scalar .. => "scalar"
  | sequence .. | enclosing _ _ false _ => "sequence"
  | mapping .. | enclosing _ _ true _ => "mapping"

/-- The same node with another tag. -/
def retagged (tag : YamlTag) : PlacedNode → PlacedNode
  | scalar mark _ text => .scalar mark tag text
  | sequence mark _ anchor items => .sequence mark tag anchor items
  | mapping mark _ anchor entries => .mapping mark tag anchor entries
  | enclosing mark _ isMapping anchor => .enclosing mark tag isMapping anchor

mutual

/-- How many collections stand inside of each other at most. -/
def depth : PlacedNode → Nat
  | scalar .. | enclosing .. => 0
  | sequence _ _ _ items => depthOfItems items + 1
  | mapping _ _ _ entries => depthOfEntries entries + 1

def depthOfItems : List PlacedNode → Nat
  | [] => 0
  | node :: rest => max node.depth (depthOfItems rest)

def depthOfEntries : List (PlacedNode × PlacedNode) → Nat
  | [] => 0
  | (key, node) :: rest => max (max key.depth node.depth) (depthOfEntries rest)

end

end PlacedNode

end ModelSchema
