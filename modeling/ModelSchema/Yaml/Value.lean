import ModelSchema.Yaml.Document
import ModelSchema.Yaml.Scalar

/-!
Values from YAML.

* `PlacedNode.firstFault?`: what is wrong with the values of a document. Outer collections are
  looked at before inner ones, and the items of one collection in their order.
* `PlacedNode.value`: the value of a node without faults.
* `Value.ofYaml`: the value of a text, null if the text holds nothing.

The entries of mappings under a merge key come first; entries of the mapping itself override them.
-/

namespace ModelSchema

namespace PlacedNode

/-! ### Scalars -/

mutual

/-- The text of a scalar. A mapping has the text of its entry under `=`. -/
def scalarText : PlacedNode → Except YamlError String
  | .scalar _ _ text => .ok text
  | .mapping mark _ _ entries => defaultText mark entries
  | node =>
    .error (.simple .constructing s!"expected a scalar node, but found {node.kindName}" node.mark)

/-- The text of the entry under `=` in a mapping that begins at a place. -/
def defaultText (mark : YamlMark) : List (PlacedNode × PlacedNode) → Except YamlError String
  | [] => .error (.simple .constructing "expected a scalar node, but found mapping" mark)
  | (key, node) :: rest => if key.tag = .default then node.scalarText else defaultText mark rest

end

/-- Whether a tag is the tag of a scalar. -/
def isScalarTag : YamlTag → Bool
  | .null | .bool | .int | .float | .str | .binary | .timestamp => true
  | _ => false

/-- The value of a node with the tag of a scalar. Moments have to be scalars themselves. -/
def scalarValue (node : PlacedNode) : Except YamlError Value := do
  if !isScalarTag node.tag then throw (YamlScalar.unknownTag node.tag node.mark)
  let text ← node.scalarText
  match node.tag, node with
  | .timestamp, .mapping .. => throw (.value (.notAText "list"))
  | tag, node => YamlScalar.value node.mark tag text

/-! ### Merging -/

mutual

/-- The entries of a mapping that begins at a place: those that are merged into it, and its own. The
key `=` is a text like others. -/
def flattened (mark : YamlMark) : List (PlacedNode × PlacedNode) →
    Except YamlError (List (PlacedNode × PlacedNode) × List (PlacedNode × PlacedNode))
  | [] => .ok ([], [])
  | (key, node) :: rest => do
    match key.tag with
    | .merge =>
      let first ← mergedEntries mark node
      let (others, own) ← flattened mark rest
      pure (first ++ others, own)
    | .default =>
      let (merged, own) ← flattened mark rest
      pure (merged, (key.retagged .str, node) :: own)
    | _ =>
      let (merged, own) ← flattened mark rest
      pure (merged, (key, node) :: own)

/-- The entries of the mapping or the mappings under a merge key. A mapping that is merged into
itself adds nothing. -/
def mergedEntries (mark : YamlMark) :
    PlacedNode → Except YamlError (List (PlacedNode × PlacedNode))
  | .mapping inner _ _ entries => (flattened inner entries).map fun (merged, own) => merged ++ own
  | .sequence _ _ _ items => mergedAll mark items
  | .enclosing .. => .ok []
  | .scalar place _ _ =>
    .error (.constructing "while constructing a mapping" mark
      "expected a mapping or list of mappings for merging, but found scalar" place)

/-- The entries of several mappings, those of the last one first. -/
def mergedAll (mark : YamlMark) :
    List PlacedNode → Except YamlError (List (PlacedNode × PlacedNode))
  | [] => .ok []
  | .mapping inner _ _ entries :: rest => do
    let (merged, own) ← flattened inner entries
    let others ← mergedAll mark rest
    pure (others ++ merged ++ own)
  | .enclosing _ _ true _ :: rest => mergedAll mark rest
  | node :: _ =>
    .error (.constructing "while constructing a mapping" mark
      s!"expected a mapping for merging, but found {node.kindName}" node.mark)

end

/-! ### Faults -/

/-- Whether a tag is the tag of a collection. What is wrong inside of it is found later. -/
def isCollectionTag : YamlTag → Bool
  | .sequence | .mapping | .set | .orderedMap | .pairs => true
  | _ => false

/-- Looks at a node: the collections that have to be looked into later. -/
def visit (node : PlacedNode) : Except YamlError (List PlacedNode) :=
  if isCollectionTag node.tag then
    match node with
    | .enclosing .. => .ok []
    | node => .ok [node]
  else node.scalarValue.map fun _ => []

def visitAll (nodes : List PlacedNode) : Except YamlError (List PlacedNode) :=
  nodes.foldlM (fun later node => return later ++ (← node.visit)) []

/-- Looks at the entries of a mapping that begins at a place. Keys have to be scalars. -/
def visitEntries (mark : YamlMark) (entries : List (PlacedNode × PlacedNode)) :
    Except YamlError (List PlacedNode) :=
  entries.foldlM (fun later (key, node) => do
    let keyLater ← key.visit
    if isCollectionTag key.tag then
      throw (.constructing "while constructing a mapping" mark "found unhashable key" key.mark)
    return later ++ keyLater ++ (← node.visit)) []

/-- Looks at the pairs of a list of mappings with one entry each. -/
def visitPairs (context : String) (mark : YamlMark) (items : List PlacedNode) :
    Except YamlError (List PlacedNode) :=
  items.foldlM (fun later item => do
    match item with
    | .mapping _ _ _ [(key, node)] => return later ++ (← key.visit) ++ (← node.visit)
    | .mapping place _ _ entries =>
      throw (.constructing context mark
        s!"expected a single mapping item, but found {entries.length} items" place)
    | .enclosing _ _ true _ => return later
    | item =>
      throw (.constructing context mark
        s!"expected a mapping of length 1, but found {item.kindName}" item.mark)) []

/-- What is being made of a list of pairs. -/
def pairsContext : YamlTag → String
  | .orderedMap => "while constructing an ordered map"
  | _ => "while constructing pairs"

/-- Looks into a collection: the collections inside that have to be looked into later. -/
def lookInto (node : PlacedNode) : Except YamlError (List PlacedNode) :=
  let expected (kind : String) : Except YamlError (List PlacedNode) :=
    .error (.simple .constructing s!"expected a {kind} node, but found {node.kindName}" node.mark)
  match node.tag, node with
  | .sequence, .sequence _ _ _ items => visitAll items
  | .sequence, _ => expected "sequence"
  | .orderedMap, .sequence mark tag _ items | .pairs, .sequence mark tag _ items =>
    visitPairs (pairsContext tag) mark items
  | .orderedMap, _ | .pairs, _ =>
    .error (.constructing (pairsContext node.tag) node.mark
      s!"expected a sequence, but found {node.kindName}" node.mark)
  | _, .mapping mark _ _ entries => do
    let (merged, own) ← flattened mark entries
    visitEntries mark (merged ++ own)
  | _, _ => expected "mapping"

/-- Looks into collections, and then into those inside of them. -/
def lookWithin : Nat → List PlacedNode → Except YamlError Unit
  | 0, _ => .ok ()
  | fuel + 1, nodes => do
    if nodes.isEmpty then pure ()
    else
      let later ← nodes.foldlM (fun later node => return later ++ (← node.lookInto)) []
      lookWithin fuel later

/-- What is wrong with the values of a document, if anything. -/
def firstFault? (root : PlacedNode) : Option YamlError :=
  match root.visit.bind (lookWithin (root.depth + 1)) with
  | .error error => some error
  | .ok () => none

/-! ### Values -/

mutual

/-- The value of a node. `around` are the anchors of the collections around it, the nearest first.
-/
def valueWithin (around : List (Option String)) : PlacedNode → Value
  | .scalar mark tag text => (YamlScalar.value mark tag text).toOption.getD .null
  | .sequence _ tag anchor items =>
    match tag with
    | .orderedMap | .pairs => .list (pairValues (none :: anchor :: around) items)
    | _ => .list (itemValues (anchor :: around) items)
  | .mapping mark tag anchor entries =>
    match tag with
    | .mapping =>
      let (merged, own) := entryValues (anchor :: around) entries
      .dict (Value.assocUpdate [] (merged ++ own))
    | .set =>
      let (merged, own) := entryValues (anchor :: around) entries
      .collection .set ((Value.assocUpdate [] (merged ++ own)).map (·.1))
    | _ => (scalarValue (.mapping mark tag anchor entries)).toOption.getD .null
  | .enclosing _ _ isMapping anchor =>
    .enclosing ((around.findIdx? (· = some anchor)).getD 0) isMapping

def itemValues (around : List (Option String)) : List PlacedNode → List Value
  | [] => []
  | node :: rest => node.valueWithin around :: itemValues around rest

/-- The pairs of a list of mappings with one entry each. -/
def pairValues (around : List (Option String)) : List PlacedNode → List Value
  | [] => []
  | .mapping _ _ _ [(key, node)] :: rest =>
    .collection .tuple [key.valueWithin around, node.valueWithin around] :: pairValues around rest
  | _ :: rest => pairValues around rest

/-- The entries of a mapping: those that are merged into it, and its own. -/
def entryValues (around : List (Option String)) :
    List (PlacedNode × PlacedNode) → List (Value × Value) × List (Value × Value)
  | [] => ([], [])
  | (key, node) :: rest =>
    let (merged, own) := entryValues around rest
    if key.tag = .merge then (mergedValues around node ++ merged, own)
    else
      let keyValue :=
        match key with
        | .scalar _ .default text => .str text
        | key => key.valueWithin around
      (merged, (keyValue, node.valueWithin around) :: own)

/-- The entries of the mapping or the mappings under a merge key. -/
def mergedValues (around : List (Option String)) : PlacedNode → List (Value × Value)
  | .mapping _ _ _ entries =>
    let (merged, own) := entryValues around entries
    merged ++ own
  | .sequence _ _ _ items => mergedAllValues around items
  | _ => []

def mergedAllValues (around : List (Option String)) : List PlacedNode → List (Value × Value)
  | [] => []
  | .mapping _ _ _ entries :: rest =>
    let (merged, own) := entryValues around entries
    mergedAllValues around rest ++ merged ++ own
  | _ :: rest => mergedAllValues around rest

end

/-- The value of the root of a document. -/
def value (root : PlacedNode) : Except YamlError Value :=
  match root.firstFault? with
  | some error => .error error
  | none => .ok (root.valueWithin [])

end PlacedNode

/-- The value of the only document of a text. `name` is the name of the text in messages. -/
def Value.ofYaml (name text : String) : Except Fault Value :=
  let value := (PlacedNode.ofText? text).bind fun root =>
    (root.mapM PlacedNode.value).map (·.getD .null)
  value.mapError (YamlError.fault name)

end ModelSchema
