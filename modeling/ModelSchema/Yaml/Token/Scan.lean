import ModelSchema.Yaml.Token.Mark
import ModelSchema.Yaml.Token.Scalar

/-!
Cutting a YAML text into tokens.

* `YamlScan`: the state between two tokens. Indentation opens and closes block collections.
* `PossibleKey`: a token that turns out to be a key when a colon follows on the same line; the key
  token is put in front of it then.
* `YamlScan.tokensOf`: the tokens of a text, up to the first problem.
-/

namespace ModelSchema

/-- A token that may begin a simple key. `number` is its place among the tokens. A required key is
one at the indentation of its block: without a colon nothing else can stand there. -/
structure PossibleKey where
  flowLevel : Nat
  number : Nat
  required : Bool
  mark : YamlMark
  deriving DecidableEq, Repr, Inhabited

/-- The state of a scan. The tokens stand last first; `indents` are the indentations of the blocks
around the current one. -/
structure YamlScan where
  cursor : YamlCursor
  flowLevel : Nat
  indent : Int
  indents : List Int
  allowKey : Bool
  possibleKeys : List PossibleKey
  tokens : List PlacedToken
  count : Nat
  deriving Repr, Inhabited

namespace YamlScan

def start (text : List Char) : YamlScan := ⟨.start text, 0, -1, [], true, [], [], 0⟩

/-- How many characters a simple key can take at most. -/
def keyLimit : Nat := 1024

def inFlow (scan : YamlScan) : Bool := scan.flowLevel != 0

/-! ### Tokens -/

def add (scan : YamlScan) (token : YamlToken) (mark : YamlMark) : YamlScan :=
  { scan with tokens := (token, mark) :: scan.tokens, count := scan.count + 1 }

/-- Puts a token at a place among the tokens. -/
def insertAt (scan : YamlScan) (number : Nat) (token : YamlToken) (mark : YamlMark) : YamlScan :=
  let behind := scan.count - number
  { scan with
    tokens := scan.tokens.take behind ++ (token, mark) :: scan.tokens.drop behind
    count := scan.count + 1 }

/-! ### Simple keys -/

def missingColon (scan : YamlScan) (key : PossibleKey) : YamlError :=
  .scanning "while scanning a simple key" key.mark "could not find expected ':'" scan.cursor.mark

/-- Whether a key can not be one any more, as it would be too long or of several lines. -/
def isStale (scan : YamlScan) (key : PossibleKey) : Bool :=
  key.mark.line != scan.cursor.mark.line || keyLimit < scan.cursor.mark.index - key.mark.index

/-- Forgets stale keys. -/
def dropStaleKeys (scan : YamlScan) : Except YamlError YamlScan :=
  match scan.possibleKeys.find? fun key => scan.isStale key && key.required with
  | some key => .error (scan.missingColon key)
  | none =>
    .ok { scan with possibleKeys := scan.possibleKeys.filter fun key => !scan.isStale key }

/-- The possible key of the current flow level. -/
def possibleKey? (scan : YamlScan) : Option PossibleKey :=
  scan.possibleKeys.find? (·.flowLevel = scan.flowLevel)

def eraseKey (scan : YamlScan) : YamlScan :=
  { scan with possibleKeys := scan.possibleKeys.filter (·.flowLevel != scan.flowLevel) }

/-- Gives up the possible key of the current flow level. -/
def removeKey (scan : YamlScan) : Except YamlError YamlScan :=
  match scan.possibleKey? with
  | some key => if key.required then .error (scan.missingColon key) else .ok scan.eraseKey
  | none => .ok scan

/-- Notes that the token that begins here may be a key. -/
def saveKey (scan : YamlScan) : Except YamlError YamlScan :=
  if scan.allowKey then do
    let required := !scan.inFlow && scan.indent = scan.cursor.column
    let scan ← scan.removeKey
    pure { scan with
      possibleKeys :=
        scan.possibleKeys ++ [⟨scan.flowLevel, scan.count, required, scan.cursor.mark⟩] }
  else .ok scan

/-! ### Indentation -/

/-- Opens a block at a column unless one is open there. -/
def addIndent? (scan : YamlScan) (column : Nat) : Option YamlScan :=
  if scan.indent < column then
    some { scan with indent := column, indents := scan.indent :: scan.indents }
  else none

/-- Closes the blocks that are indented more than a column. -/
def unwind (column : Int) (scan : YamlScan) : List Int → YamlScan
  | [] => scan
  | outer :: rest =>
    if column < scan.indent then
      unwind column { scan.add .blockEnd scan.cursor.mark with indent := outer, indents := rest }
        rest
    else scan

/-- Closes blocks, outside of flow collections. -/
def unwindTo (scan : YamlScan) (column : Int) : YamlScan :=
  if scan.inFlow then scan else unwind column scan scan.indents

/-! ### Gaps -/

/-- Skips spaces, comments and line breaks. A key can begin on a new line. -/
def skipGapWithin : Nat → YamlScan → YamlScan
  | 0, scan => scan
  | fuel + 1, scan =>
    let cursor := scan.cursor.dropWhile (· = ' ')
    let cursor :=
      if cursor.peek = some '#' then cursor.dropWhile fun c => !isLineBreak c else cursor
    match cursor.lineBreak? with
    | none => { scan with cursor := cursor }
    | some (_, cursor) =>
      skipGapWithin fuel
        { scan with cursor := cursor, allowKey := scan.allowKey || !scan.inFlow }

/-- Skips everything up to the next token, at the start of the text also a byte order mark. -/
def skipGap (scan : YamlScan) : YamlScan :=
  let cursor := scan.cursor
  let cursor :=
    if cursor.mark.index = 0 && cursor.peek = some (Char.ofNat 0xfeff) then cursor.next else cursor
  skipGapWithin (cursor.rest.length + 1) { scan with cursor := cursor }

/-! ### Fetching -/

/-- Adds a token of some characters that begins here. -/
def mark (scan : YamlScan) (token : YamlToken) (length : Nat) : YamlScan :=
  { scan.add token scan.cursor.mark with cursor := scan.cursor.skip length }

/-- A token that ends all blocks. -/
def fetchTopLevel (scan : YamlScan) : Except YamlError YamlScan := do
  let scan ← (scan.unwindTo (-1)).removeKey
  pure { scan with allowKey := false }

def fetchFlowStart (scan : YamlScan) (token : YamlToken) : Except YamlError YamlScan := do
  let scan ← scan.saveKey
  pure { scan.mark token 1 with flowLevel := scan.flowLevel + 1, allowKey := true }

def fetchFlowEnd (scan : YamlScan) (token : YamlToken) : Except YamlError YamlScan := do
  let scan ← scan.removeKey
  pure { scan.mark token 1 with flowLevel := scan.flowLevel - 1, allowKey := false }

def fetchFlowEntry (scan : YamlScan) : Except YamlError YamlScan := do
  let scan ← { scan with allowKey := true }.removeKey
  pure (scan.mark .flowEntry 1)

def notAllowed (scan : YamlScan) (what : String) : YamlError :=
  .simple .scanning (what ++ " are not allowed here") scan.cursor.mark

/-- Opens a block collection here if its indentation is new. -/
def openBlock (scan : YamlScan) (token : YamlToken) : YamlScan :=
  match scan.addIndent? scan.cursor.column with
  | some opened => opened.add token scan.cursor.mark
  | none => scan

def fetchBlockEntry (scan : YamlScan) : Except YamlError YamlScan := do
  if !scan.inFlow && !scan.allowKey then throw (scan.notAllowed "sequence entries")
  let scan := if scan.inFlow then scan else scan.openBlock .blockSequenceStart
  let scan ← { scan with allowKey := true }.removeKey
  pure (scan.mark .blockEntry 1)

def fetchKey (scan : YamlScan) : Except YamlError YamlScan := do
  if !scan.inFlow && !scan.allowKey then throw (scan.notAllowed "mapping keys")
  let scan := if scan.inFlow then scan else scan.openBlock .blockMappingStart
  let scan ← { scan with allowKey := !scan.inFlow }.removeKey
  pure (scan.mark .key 1)

def fetchValue (scan : YamlScan) : Except YamlError YamlScan :=
  match scan.possibleKey? with
  | some key =>
    let scan := scan.eraseKey.insertAt key.number .key key.mark
    let scan :=
      if scan.inFlow then scan
      else
        match scan.addIndent? key.mark.column with
        | some opened => opened.insertAt key.number .blockMappingStart key.mark
        | none => scan
    .ok ({ scan with allowKey := false }.mark .value 1)
  | none => do
    if !scan.inFlow && !scan.allowKey then throw (scan.notAllowed "mapping values")
    let scan := if scan.inFlow then scan else scan.openBlock .blockMappingStart
    let scan ← { scan with allowKey := !scan.inFlow }.removeKey
    pure (scan.mark .value 1)

/-- A token that may be a key, read by a function of the cursor. -/
def fetchNode (scan : YamlScan) (read : YamlCursor → Except YamlError (YamlToken × YamlCursor)) :
    Except YamlError YamlScan := do
  let scan ← scan.saveKey
  let (token, cursor) ← read scan.cursor
  pure { scan.add token scan.cursor.mark with cursor := cursor, allowKey := false }

def fetchBlockScalar (scan : YamlScan) : Except YamlError YamlScan := do
  let scan ← { scan with allowKey := true }.removeKey
  let (text, cursor) ← scan.cursor.blockScalar scan.indent
  pure { scan.add (.scalar text false) scan.cursor.mark with cursor := cursor }

def fetchPlain (scan : YamlScan) : Except YamlError YamlScan := do
  let scan ← scan.saveKey
  let (read, cursor) := scan.cursor.plainScalar scan.inFlow (scan.indent + 1)
  pure { scan.add (.scalar (String.ofList read.text) true) scan.cursor.mark with
    cursor := cursor, allowKey := read.lineBroken }

/-- Whether a plain scalar can begin with a character. -/
def startsPlain (scan : YamlScan) (c : Char) : Bool :=
  let isIndicator := leadingIndicators.contains c || c = '-' || c = '?' || c = ':'
  (!isSeparator c && !isIndicator)
    || (!scan.cursor.isSeparated 1 && (c = '-' || (!scan.inFlow && (c = '?' || c = ':'))))

/-- The token that begins with a character. -/
def fetchAt (scan : YamlScan) (c : Char) : Except YamlError YamlScan :=
  let cursor := scan.cursor
  let atStart := cursor.column = 0
  let separated := cursor.isSeparated 1
  if c = '%' && atStart then do
    let scan ← scan.fetchTopLevel
    let (directive, behind) ← cursor.directive
    pure { scan.add (.directive directive) cursor.mark with cursor := behind }
  else if atStart && cursor.isAtDocumentMark then do
    let scan ← scan.fetchTopLevel
    pure (scan.mark (if c = '-' then .documentStart else .documentEnd) 3)
  else if c = '[' then scan.fetchFlowStart .flowSequenceStart
  else if c = '\x7b' then scan.fetchFlowStart .flowMappingStart
  else if c = ']' then scan.fetchFlowEnd .flowSequenceEnd
  else if c = '\x7d' then scan.fetchFlowEnd .flowMappingEnd
  else if c = ',' then scan.fetchFlowEntry
  else if c = '-' && separated then scan.fetchBlockEntry
  else if c = '?' && (scan.inFlow || separated) then scan.fetchKey
  else if c = ':' && (scan.inFlow || separated) then scan.fetchValue
  else if c = '*' then
    scan.fetchNode fun cursor =>
      (cursor.anchorName "alias").map fun (name, behind) => (.reference name, behind)
  else if c = '&' then
    scan.fetchNode fun cursor =>
      (cursor.anchorName "anchor").map fun (name, behind) => (.anchor name, behind)
  else if c = '!' then scan.fetchNode YamlCursor.tag
  else if (c = '|' || c = '>') && !scan.inFlow then scan.fetchBlockScalar
  else if c = '\'' || c = '"' then
    scan.fetchNode fun cursor =>
      cursor.quotedScalar.map fun (text, behind) => (.scalar text false, behind)
  else if scan.startsPlain c then scan.fetchPlain
  else
    .error (.placed ⟨.scanning, some "while scanning for the next token", none,
      "found character " ++ shownChar (some c) ++ " that cannot start any token",
      some cursor.mark⟩)

/-- Fetches the next token with those that the indentation asks for, and tells whether the text is
at its end. -/
def fetch (scan : YamlScan) : Except YamlError (YamlScan × Bool) := do
  let scan ← scan.skipGap.dropStaleKeys
  let scan := scan.unwindTo scan.cursor.column
  match scan.cursor.peek with
  | some c => do pure (← scan.fetchAt c, false)
  | none => do
    let scan ← scan.fetchTopLevel
    pure (scan.add .streamEnd scan.cursor.mark, true)

/-- The tokens that are certain: those in front of the first that may still become a key. -/
def certain (scan : YamlScan) : List PlacedToken :=
  let first := scan.possibleKeys.foldl (fun n key => min n key.number) scan.count
  scan.tokens.reverse.take first

/-- Fetches all tokens. -/
def runWithin : Nat → YamlScan → List PlacedToken × Option YamlError
  | 0, scan => (scan.tokens.reverse, none)
  | fuel + 1, scan =>
    match scan.dropStaleKeys with
    | .error error => (scan.certain, some error)
    | .ok scan =>
      match scan.fetch with
      | .error error => (scan.certain, some error)
      | .ok (scan, true) => (scan.tokens.reverse, none)
      | .ok (scan, false) => runWithin fuel scan

end YamlScan

/-- The characters that can not stand in a YAML text. -/
def isForbiddenInYaml (c : Char) : Bool :=
  let code := c.toNat
  !(code = 0x09 || code = 0x0a || code = 0x0d || (0x20 ≤ code && code ≤ 0x7e) || code = 0x85
    || (0xa0 ≤ code && code ≤ 0xd7ff) || (0xe000 ≤ code && code ≤ 0xfffd) || 0x10000 ≤ code)

/-- The tokens of a text, up to the first problem. Every token but the last takes a character. -/
def YamlScan.tokensOf (text : List Char) : List PlacedToken × Option YamlError :=
  runWithin (text.length + 1) (.start text)

end ModelSchema
