import ModelSchema.Yaml.Node
import ModelSchema.Yaml.Resolution
import ModelSchema.Yaml.Token.Scan

/-!
YAML documents: from tokens to nodes.

* `YamlStream`: the tokens that are still to be read, and the anchors known so far.
* `YamlDocument.node`: the node that begins with the next token.
* `PlacedNode.ofText?`: the only document of a text. An empty text has none.
-/

namespace ModelSchema

/-- The tokens to be read, with the problem behind them if there is one. `depth` is the number of
sequences and mappings that are open. -/
structure YamlStream where
  tokens : List PlacedToken
  failure : Option YamlError
  depth : Nat
  anchors : List (String × PlacedNode)
  handles : List (String × String)
  deriving Repr, Inhabited

/-- Reading from a stream. -/
abbrev YamlParsing (α : Type) := StateT YamlStream (Except YamlError) α

namespace YamlDocument

def defaultHandles : List (String × String) := [("!", "!"), ("!!", YamlTag.standardBase)]

/-- The kind a full tag stands for. -/
def tagOf (text : String) : YamlTag :=
  (YamlTag.named.find? fun tag => YamlTag.standardBase ++ tag.name = text).getD (.other text)

/-! ### Tokens -/

/-- The next token. -/
def peek : YamlParsing PlacedToken := fun stream =>
  match stream.tokens, stream.failure with
  | token :: _, _ => .ok (token, stream)
  | [], some error => .error error
  | [], none => .ok ((.streamEnd, ⟨0, 0, 0⟩), stream)

/-- Takes the next token away. -/
def advance : YamlParsing Unit := fun stream =>
  .ok ((), { stream with tokens := stream.tokens.tail })

/-- Whether the next token satisfies a condition. -/
def sees (condition : YamlToken → Bool) : YamlParsing Bool := return condition (← peek).1

/-- A problem of the grammar at the next token. -/
def unexpected {α : Type} (context : String) (start : YamlMark) (expected : String)
    (verb : String) : YamlParsing α := do
  let (token, mark) ← peek
  throw (.placed ⟨.parsing, some context, some start,
    s!"expected {expected}, but {verb} {quoted token.label}", some mark⟩)

/-! ### Nodes -/

/-- The text of a tag with its handle put in. -/
def fullTag (handle : Option String) (suffix : String) (start mark : YamlMark) :
    YamlParsing String := do
  match handle with
  | none => pure suffix
  | some handle =>
    match (← get).handles.find? (·.1 = handle) with
    | some (_, base) => pure (base ++ suffix)
    | none =>
      throw (.placed ⟨.parsing, some "while parsing a node", some start,
        s!"found undefined tag handle {quoted handle}", some mark⟩)

/-- What stands in front of a node: an anchor and a tag, in any order. -/
structure Properties where
  anchor : Option String
  tag : Option String
  deriving DecidableEq, Repr, Inhabited

/-- Reads the anchor that may come next. -/
def anchor? : YamlParsing (Option String) := do
  match ← peek with
  | (.anchor name, _) => advance; pure (some name)
  | _ => pure none

/-- Reads the tag that may come next. -/
def tag? (start : YamlMark) : YamlParsing (Option String) := do
  match ← peek with
  | (.tag handle suffix, mark) =>
    advance
    pure (some (← fullTag handle suffix start mark))
  | _ => pure none

/-- Reads what stands in front of a node. -/
def properties (start : YamlMark) : YamlParsing Properties := do
  match ← anchor? with
  | some name => pure ⟨some name, ← tag? start⟩
  | none =>
    let tag ← tag? start
    pure ⟨← anchor?, tag⟩

/-- The kind of a scalar: the one of its tag, else what a plain text stands for. -/
def scalarTag (tag : Option String) (text : String) (plain : Bool) : YamlTag :=
  match tag with
  | none => if plain then .ofPlain text else .str
  | some "!" => .ofPlain text
  | some tag => tagOf tag

/-- The kind of a collection. -/
def collectionTag (tag : Option String) (usual : YamlTag) : YamlTag :=
  match tag with
  | none | some "!" => usual
  | some tag => tagOf tag

/-- A scalar that is not there. -/
def emptyScalar (mark : YamlMark) : PlacedNode := .scalar mark (.ofPlain "") ""

/-- The place behind a token of one character. -/
def behind (mark : YamlMark) : YamlMark := ⟨mark.index + 1, mark.line, mark.column + 1⟩

/-- Checks that an anchor is not known yet. -/
def checkAnchor (anchor : Option String) (start : YamlMark) : YamlParsing Unit := do
  match anchor with
  | none => pure ()
  | some name =>
    match (← get).anchors.find? (·.1 = name) with
    | some (_, first) =>
      throw (.placed ⟨.composing, some s!"found duplicate anchor {quoted name}; first occurrence",
        some first.mark, "second occurrence", some start⟩)
    | none => pure ()

/-- Makes an anchor known. -/
def setAnchor (anchor : Option String) (node : PlacedNode) : YamlParsing Unit :=
  match anchor with
  | none => pure ()
  | some name =>
    modify fun stream =>
      { stream with anchors := stream.anchors.filter (·.1 != name) ++ [(name, node)] }

/-- The node an alias stands for. -/
def aliased (name : String) (mark : YamlMark) : YamlParsing PlacedNode := do
  match (← get).anchors.find? (·.1 = name) with
  | some (_, node) => pure node
  | none => throw (.simple .composing s!"found undefined alias {quoted name}" mark)

/-- A scalar, which is known by its anchor from then on. -/
def scalarNode (properties : Properties) (start : YamlMark) (text : String) (plain : Bool) :
    YamlParsing PlacedNode := do
  checkAnchor properties.anchor start
  let node : PlacedNode := .scalar start (scalarTag properties.tag text plain) text
  setAnchor properties.anchor node
  pure node

/-- How many sequences and mappings can be open at most. -/
def depthLimit : Nat := 488

/-- Reads the parts of a sequence or of a mapping. -/
def inside (parts : YamlParsing α) : YamlParsing α := do
  let depth := (← get).depth
  if depthLimit ≤ depth then throw (.value .endless)
  modify fun stream => { stream with depth := depth + 1 }
  let parts ← parts
  modify fun stream => { stream with depth := depth }
  return parts

/-- A sequence, which is known by its anchor also to its own items. -/
def sequenceNode (properties : Properties) (start : YamlMark)
    (items : YamlParsing (List PlacedNode)) : YamlParsing PlacedNode := do
  let tag := collectionTag properties.tag .sequence
  checkAnchor properties.anchor start
  setAnchor properties.anchor (.enclosing start tag false (properties.anchor.getD ""))
  let node : PlacedNode := .sequence start tag properties.anchor (← inside items)
  setAnchor properties.anchor node
  pure node

/-- A mapping, which is known by its anchor also to its own entries. -/
def mappingNode (properties : Properties) (start : YamlMark)
    (entries : YamlParsing (List (PlacedNode × PlacedNode))) : YamlParsing PlacedNode := do
  let tag := collectionTag properties.tag .mapping
  checkAnchor properties.anchor start
  setAnchor properties.anchor (.enclosing start tag true (properties.anchor.getD ""))
  let node : PlacedNode := .mapping start tag properties.anchor (← inside entries)
  setAnchor properties.anchor node
  pure node

/-- Whether nothing can stand behind a dash where a token comes next. -/
def endsEntry (indentless : Bool) : YamlToken → Bool
  | .blockEntry | .blockEnd => true
  | .key | .value => indentless
  | _ => false

def endsPair : YamlToken → Bool
  | .key | .value | .blockEnd => true
  | _ => false

/-- How a node may be written where it stands. -/
inductive Place where
  | block
  | blockOrDashes
  | flow
  deriving DecidableEq, Repr, Inhabited

mutual

/-- The node that begins with the next token. -/
def node : Nat → Place → YamlParsing PlacedNode
  | 0, _ => unexpected "while parsing a node" ⟨0, 0, 0⟩ "the node content" "found"
  | fuel + 1, place => do
    let (token, start) ← peek
    match token with
    | .reference name => advance; aliased name start
    | _ =>
      let properties ← properties start
      let (token, mark) ← peek
      match token, place with
      | .blockEntry, .blockOrDashes => sequenceNode properties start (dashes fuel)
      | .scalar text plain, _ => do
        advance
        scalarNode properties start text plain
      | .flowSequenceStart, _ => do
        advance
        sequenceNode properties start (flowItems fuel mark true)
      | .flowMappingStart, _ => do
        advance
        mappingNode properties start (flowEntries fuel mark true)
      | .blockSequenceStart, .block | .blockSequenceStart, .blockOrDashes => do
        advance
        sequenceNode properties start (blockItems fuel mark)
      | .blockMappingStart, .block | .blockMappingStart, .blockOrDashes => do
        advance
        mappingNode properties start (blockEntries fuel mark)
      | _, _ =>
        if properties.anchor.isSome || properties.tag.isSome then
          scalarNode properties start "" true
        else
          let kind := if place = .flow then "flow" else "block"
          unexpected s!"while parsing a {kind} node" start "the node content" "found"

/-- The node behind an indicator, or an empty scalar if a token comes next that ends it. -/
def nodeBehind : Nat → (YamlToken → Bool) → Place → YamlParsing PlacedNode
  | 0, _, _ => pure (emptyScalar ⟨0, 0, 0⟩)
  | fuel + 1, isEnd, place => do
    let (_, mark) ← peek
    advance
    if ← sees isEnd then pure (emptyScalar (behind mark)) else node fuel place

/-- The value of a pair, which may be missing. -/
def valueNode : Nat → (YamlToken → Bool) → Place → YamlParsing PlacedNode
  | 0, _, _ => pure (emptyScalar ⟨0, 0, 0⟩)
  | fuel + 1, isEnd, place => do
    let (token, mark) ← peek
    if token = .value then nodeBehind fuel isEnd place else pure (emptyScalar mark)

/-- The items of a block sequence. -/
def blockItems : Nat → YamlMark → YamlParsing (List PlacedNode)
  | 0, _ => pure []
  | fuel + 1, start => do
    if ← sees (· = .blockEntry) then
      let item ← nodeBehind fuel (endsEntry false) .block
      let items ← blockItems fuel start
      pure (item :: items)
    else if ← sees (· = .blockEnd) then
      advance
      pure []
    else unexpected "while parsing a block collection" start "<block end>" "found"

/-- The items of a sequence that is not indented. -/
def dashes : Nat → YamlParsing (List PlacedNode)
  | 0 => pure []
  | fuel + 1 => do
    if ← sees (· = .blockEntry) then
      let item ← nodeBehind fuel (endsEntry true) .block
      let items ← dashes fuel
      pure (item :: items)
    else pure []

/-- The entries of a block mapping. -/
def blockEntries : Nat → YamlMark → YamlParsing (List (PlacedNode × PlacedNode))
  | 0, _ => pure []
  | fuel + 1, start => do
    if ← sees (· = .blockEnd) then
      advance
      pure []
    else if ← sees (· = .key) then
      let key ← nodeBehind fuel endsPair .blockOrDashes
      let value ← valueNode fuel endsPair .blockOrDashes
      let entries ← blockEntries fuel start
      pure ((key, value) :: entries)
    else unexpected "while parsing a block mapping" start "<block end>" "found"

/-- The items of a flow sequence. A pair among them is a mapping of its own. -/
def flowItems : Nat → YamlMark → Bool → YamlParsing (List PlacedNode)
  | 0, _, _ => pure []
  | fuel + 1, start, first => do
    if ← sees (· = .flowSequenceEnd) then
      advance
      pure []
    else
      if !first then
        if ← sees (· = .flowEntry) then advance
        else unexpected "while parsing a flow sequence" start "',' or ']'" "got"
      let (token, mark) ← peek
      if token = .key then
        let isEnd (token : YamlToken) : Bool := token = .flowEntry || token = .flowSequenceEnd
        let key ← nodeBehind fuel (fun token => token = .value || isEnd token) .flow
        let value ← valueNode fuel isEnd .flow
        let items ← flowItems fuel start false
        pure (.mapping mark .mapping none [(key, value)] :: items)
      else if token = .flowSequenceEnd then
        advance
        pure []
      else
        let item ← node fuel .flow
        let items ← flowItems fuel start false
        pure (item :: items)

/-- The entries of a flow mapping. -/
def flowEntries : Nat → YamlMark → Bool → YamlParsing (List (PlacedNode × PlacedNode))
  | 0, _, _ => pure []
  | fuel + 1, start, first => do
    if ← sees (· = .flowMappingEnd) then
      advance
      pure []
    else
      if !first then
        if ← sees (· = .flowEntry) then advance
        else unexpected "while parsing a flow mapping" start "',' or '\x7d'" "got"
      let isEnd (token : YamlToken) : Bool := token = .flowEntry || token = .flowMappingEnd
      if ← sees (· = .key) then
        let key ← nodeBehind fuel (fun token => token = .value || isEnd token) .flow
        let value ← valueNode fuel isEnd .flow
        let entries ← flowEntries fuel start false
        pure ((key, value) :: entries)
      else if ← sees (· = .flowMappingEnd) then
        advance
        pure []
      else
        let key ← node fuel .flow
        let (_, mark) ← peek
        let entries ← flowEntries fuel start false
        pure ((key, emptyScalar mark) :: entries)

end

/-! ### Documents -/

def isDirective : YamlToken → Bool
  | .directive _ => true
  | _ => false

/-- Whether a document that begins with a token has a mark in front, if there is one at all. -/
def isMarked (token : YamlToken) : Bool :=
  isDirective token || token = .documentStart || token = .streamEnd

/-- Whether a token is no part of the content of a document. -/
def isBetween (token : YamlToken) : Bool := isMarked token || token = .documentEnd

/-- Reads the directives in front of a document: whether there was a version, and the handles. -/
def directives : Nat → Bool → List (String × String) → YamlParsing (List (String × String))
  | 0, _, handles => pure handles
  | fuel + 1, versioned, handles => do
    let wrong := YamlError.simple .parsing
    match ← peek with
    | (.directive (.version major _), mark) =>
      advance
      if versioned then throw (wrong "found duplicate YAML directive" mark)
      if major != 1 then
        throw (wrong "found incompatible YAML document (version 1.* is required)" mark)
      directives fuel true handles
    | (.directive (.handle name base), mark) =>
      advance
      if handles.any (·.1 = name) then throw (wrong s!"duplicate tag handle {quoted name}" mark)
      directives fuel versioned (handles ++ [(name, base)])
    | (.directive .unknown, _) =>
      advance
      directives fuel versioned handles
    | _ => pure handles

/-- Skips the marks that end a document. -/
def skipEnds : Nat → YamlParsing Unit
  | 0 => pure ()
  | fuel + 1 => do
    if ← sees (· = .documentEnd) then
      advance
      skipEnds fuel

/-- Reads the start of a document that has a mark: the place of the document, or nothing at the end
of the text. -/
def explicitStart (fuel : Nat) : YamlParsing (Option YamlMark) := do
  skipEnds fuel
  if ← sees (· = .streamEnd) then pure none
  else
    let (_, start) ← peek
    let handles ← directives fuel false []
    modify fun stream =>
      { stream with
        handles := handles ++ defaultHandles.filter fun (name, _) => !handles.any (·.1 = name) }
    if ← sees (· = .documentStart) then
      advance
      pure (some start)
    else
      let (token, mark) ← peek
      throw (.simple .parsing s!"expected '<document start>', but found {quoted token.label}" mark)

/-- The only document of a stream, if there is one. -/
def single (fuel : Nat) : YamlParsing (Option PlacedNode) := do
  let (token, mark) ← peek
  let start ←
    if isMarked token then explicitStart fuel
    else do
      modify fun stream => { stream with handles := defaultHandles }
      pure (some mark)
  match start with
  | none => pure none
  | some _ =>
    let (_, content) ← peek
    let root ← if ← sees isBetween then pure (emptyScalar content) else node fuel .block
    if ← sees (· = .documentEnd) then advance
    match ← explicitStart fuel with
    | none => pure (some root)
    | some other =>
      throw (.placed ⟨.composing, some "expected a single document in the stream", some content,
        "but found another document", some other⟩)

end YamlDocument

/-- The only document of a text, or nothing if the text is empty. -/
def PlacedNode.ofText? (text : String) : Except YamlError (Option PlacedNode) :=
  let chars := text.toList
  match chars.findIdx? isForbiddenInYaml with
  | some position =>
    let code := (chars[position]?.map Char.toNat).getD 0
    .error (.simple .reading (s!"unacceptable character #x{String.ofList (hexPadded 4 code)}: "
      ++ "special characters are not allowed") ⟨position, 0, 0⟩)
  | none =>
    let (tokens, failure) := YamlScan.tokensOf chars
    let fuel := 4 * tokens.length + 4
    (YamlDocument.single fuel ⟨tokens, failure, 0, [], []⟩).map (·.1)

end ModelSchema
