import ModelSchema.Shown
import ModelSchema.Text.Base64
import ModelSchema.Yaml.Node
import ModelSchema.Yaml.Style

/-!
YAML text in block style.

* `Value.yamlNode`: the node of a value; it fails for a value that has none.
* `YamlNode.render`: a node as a document, without the mark in front.
* `Value.toYaml`: the YAML text of a value.

Every node is written with its leading space or line break and ends with a line break. A collection
that stands behind a dash or a question mark begins on the same line; one that is the value of a
simple key begins on the next. Sequences that are such values are not indented.
-/

namespace ModelSchema

/-! ### Nodes of values -/

/-- Doubles in YAML: a point in front of every exponent, and names with a leading point. -/
def NumberFormat.yaml : NumberFormat := ⟨(-4, 15), 2, true, ".inf", "-.inf", ".nan"⟩

/-- The number of base 64 digits on a line. -/
def base64LineLength : Nat := 76

/-- Digits in lines of full length, each of them ended by a line break. -/
def wrappedLines (digits : List Char) : List Char :=
  if _h : digits.isEmpty then []
  else
    digits.take base64LineLength ++ '\n' :: wrappedLines (digits.drop base64LineLength)
  termination_by digits.length
  decreasing_by
    have : digits ≠ [] := by simpa using _h
    have := List.length_pos_iff.mpr this
    simp only [List.length_drop, base64LineLength]
    omega

namespace Value

mutual

/-- The node of a value. -/
def yamlNode (table : ClassTable) : Value → Except Fault YamlNode
  | .null => .ok (.scalar .null "null")
  | .bool b => .ok (.scalar .bool (if b then "true" else "false"))
  | .int n => .ok (.scalar .int s!"{n}")
  | .float x => .ok (.scalar .float (NumberFormat.yaml.render x))
  | .str s => .ok (.scalar .str s)
  | .bytes data => .ok (.scalar .binary (String.ofList (wrappedLines (Base64.encode data))))
  | .date d => .ok (.scalar .timestamp d.iso)
  | .datetime t => .ok (.scalar .timestamp (t.iso ' '))
  | .collection .list items | .collection .tuple items => do
    return .sequence .sequence (← yamlNodes table items)
  | .collection .set items => do
    return .mapping .set ((← yamlNodes table items).map fun item => (item, .scalar .null "null"))
  | .dict entries => do return .mapping .mapping (← yamlEntries table entries)
  | value => .error (.unrepresentable (value.displayed table))

def yamlNodes (table : ClassTable) : List Value → Except Fault (List YamlNode)
  | [] => .ok []
  | value :: rest => do
    let node ← yamlNode table value
    let nodes ← yamlNodes table rest
    return node :: nodes

def yamlEntries (table : ClassTable) :
    List (Value × Value) → Except Fault (List (YamlNode × YamlNode))
  | [] => .ok []
  | (key, value) :: rest => do
    let keyNode ← yamlNode table key
    let valueNode ← yamlNode table value
    let nodes ← yamlEntries table rest
    return (keyNode, valueNode) :: nodes

end

end Value

/-! ### Text -/

/-- Where a node is written. `column` is the column in front of it. The other numbers are the
indentations of a mapping, a sequence and the further lines of a scalar at this place. -/
structure YamlPlace where
  column : Nat
  spaced : Bool
  sameLine : Bool
  mapping : Nat
  sequence : Nat
  fold : Nat
  deriving DecidableEq, Repr, Inhabited

namespace YamlPlace

/-- The place of a whole document. -/
def root : YamlPlace := ⟨0, false, true, 0, 0, 2⟩

/-- The place behind a dash, a question mark or the colon of a long key at an indentation. -/
def behindMark (indent : Nat) : YamlPlace :=
  ⟨indent + 1, true, true, indent + 2, indent + 2, indent + 2⟩

/-- The place behind a simple key and its colon, which end at a column. -/
def behindKey (indent column : Nat) : YamlPlace :=
  ⟨column, true, false, indent + 2, indent, indent + 2⟩

/-- The space in front of a node. -/
def gap (place : YamlPlace) : List Char := if place.spaced then [' '] else []

end YamlPlace

namespace YamlNode

/-- The text of a scalar, with its kind in front unless the style tells it. -/
def scalarText (place : YamlPlace) (asKey : Bool) (tag : YamlTag) (text : String) : List Char :=
  let style := ScalarStyle.choose tag text asKey
  let mark := if style.impliesTag tag text then [] else tag.label.toList ++ [' ']
  let column := place.column + place.gap.length + mark.length
  let chars := text.toList
  let body :=
    match style with
    | .plain => plainText place.fold (!asKey) column chars
    | .singleQuoted => singleQuotedText place.fold (!asKey) column chars
    | .doubleQuoted => doubleQuotedText place.fold (!asKey) column chars
    | .literal => literalText place.fold chars
  place.gap ++ mark ++ body

/-- A scalar with the line break that ends it. -/
def scalarLines (place : YamlPlace) (tag : YamlTag) (text : String) : List Char :=
  let body := scalarText place false tag text
  if ScalarStyle.choose tag text false = .literal then body else body ++ ['\n']

/-- The mark of a set in front of its members. -/
def tagMark (tag : YamlTag) : List Char :=
  match tag with
  | .set => tag.label.toList
  | _ => []

/-- How long the text of a simple key can be, with the mark of its kind. -/
def simpleKeyLimit : Nat := 128

/-- Whether a node can be a key on one line. -/
def isSimpleKey : YamlNode → Bool
  | .scalar tag text =>
    tag.label.length + text.length < simpleKeyLimit && !text.isEmpty
      && !(ScalarTraits.of text.toList).multiline
  | .sequence _ [] | .mapping _ [] => true
  | _ => false

/-- A simple key. -/
def simpleKeyText (indent : Nat) : YamlNode → List Char
  | .scalar tag text =>
    scalarText ⟨indent, false, true, indent + 2, indent + 2, indent + 2⟩ true tag text
  | .sequence _ _ => ['[', ']']
  | .mapping tag _ =>
    (if (tagMark tag).isEmpty then [] else tagMark tag ++ [' ']) ++ ['\x7b', '\x7d']

/-- The beginning of the first line of a collection: on the same line or on the next. -/
def firstIndent (place : YamlPlace) (tag : YamlTag) (indent : Nat) : List Char :=
  let mark := tagMark tag
  if mark.isEmpty && place.sameLine then List.replicate (indent - place.column) ' '
  else (if mark.isEmpty then [] else place.gap ++ mark) ++ newline indent

mutual

/-- The text of a node. -/
def lines (place : YamlPlace) : YamlNode → List Char
  | .scalar tag text => scalarLines place tag text
  | .sequence _ [] => place.gap ++ ['[', ']', '\n']
  | .sequence tag (item :: rest) =>
    let indent := place.sequence
    firstIndent place tag indent ++ '-' :: item.lines (.behindMark indent)
      ++ itemLines indent rest
  | .mapping tag [] =>
    place.gap ++ (if (tagMark tag).isEmpty then [] else tagMark tag ++ [' '])
      ++ ['\x7b', '\x7d', '\n']
  | .mapping tag ((key, value) :: rest) =>
    let indent := place.mapping
    firstIndent place tag indent
      ++ (if key.isSimpleKey then
          let text := key.simpleKeyText indent
          text ++ ':' :: value.lines (.behindKey indent (indent + text.length + 1))
        else
          '?' :: key.lines (.behindMark indent) ++ List.replicate indent ' '
            ++ ':' :: value.lines (.behindMark indent))
      ++ entryLines indent rest

/-- The further items of a sequence. -/
def itemLines (indent : Nat) : List YamlNode → List Char
  | [] => []
  | item :: rest =>
    List.replicate indent ' ' ++ '-' :: item.lines (.behindMark indent) ++ itemLines indent rest

/-- The further entries of a mapping. -/
def entryLines (indent : Nat) : List (YamlNode × YamlNode) → List Char
  | [] => []
  | (key, value) :: rest =>
    List.replicate indent ' '
      ++ (if key.isSimpleKey then
          let text := key.simpleKeyText indent
          text ++ ':' :: value.lines (.behindKey indent (indent + text.length + 1))
        else
          '?' :: key.lines (.behindMark indent) ++ List.replicate indent ' '
            ++ ':' :: value.lines (.behindMark indent))
      ++ entryLines indent rest

end

/-- What follows a document: a plain scalar on its own is followed by a mark, since more text could
belong to it. -/
def closing : YamlNode → List Char
  | .scalar tag text =>
    if ScalarStyle.choose tag text false = .plain then ['.', '.', '.', '\n'] else []
  | _ => []

/-- A node as a document. -/
def render (node : YamlNode) : String := String.ofList (node.lines .root ++ node.closing)

end YamlNode

/-- The YAML text of a value. -/
def Value.toYaml (table : ClassTable) (value : Value) : Except Fault String :=
  (value.yamlNode table).map YamlNode.render

end ModelSchema
