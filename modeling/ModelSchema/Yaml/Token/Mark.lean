import ModelSchema.Text.Utf8
import ModelSchema.Yaml.Cursor
import ModelSchema.Yaml.Token.Block

/-!
The tokens of YAML, and reading those that stand around nodes: directives, anchors, aliases and
tags.

* `YamlToken`: a token. A `PlacedToken` has the place with it where it begins.
* `YamlCursor.directive`, `YamlCursor.anchorName`, `YamlCursor.tag`: reading one of them.
-/

namespace ModelSchema

/-! ### Tokens -/

/-- A line that begins with a percent sign. -/
inductive YamlDirective where
  | version (major minor : Nat)
  | handle (name base : String)
  | unknown
  deriving DecidableEq, Repr, Inhabited

/-- A token. A tag without a handle stands for itself. -/
inductive YamlToken where
  | directive (d : YamlDirective)
  | documentStart
  | documentEnd
  | streamEnd
  | blockSequenceStart
  | blockMappingStart
  | blockEnd
  | flowSequenceStart
  | flowSequenceEnd
  | flowMappingStart
  | flowMappingEnd
  | key
  | value
  | blockEntry
  | flowEntry
  | reference (name : String)
  | anchor (name : String)
  | tag (handle : Option String) (suffix : String)
  | scalar (text : String) (plain : Bool)
  deriving DecidableEq, Repr, Inhabited

/-- The name of a token in messages. -/
def YamlToken.label : YamlToken → String
  | directive _ => "<directive>"
  | documentStart => "<document start>"
  | documentEnd => "<document end>"
  | streamEnd => "<stream end>"
  | blockSequenceStart => "<block sequence start>"
  | blockMappingStart => "<block mapping start>"
  | blockEnd => "<block end>"
  | flowSequenceStart => "["
  | flowSequenceEnd => "]"
  | flowMappingStart => "\x7b"
  | flowMappingEnd => "\x7d"
  | key => "?"
  | value => ":"
  | blockEntry => "-"
  | flowEntry => ","
  | reference _ => "<alias>"
  | anchor _ => "<anchor>"
  | tag .. => "<tag>"
  | scalar .. => "<scalar>"

/-- A token and the place where it begins. -/
abbrev PlacedToken := YamlToken × YamlMark

/-! ### Around nodes -/

namespace YamlCursor

def isNameChar (c : Char) : Bool := c.isAlphanum || c = '-' || c = '_'

def isUriChar (c : Char) : Bool := c.isAlphanum || "-;/?:@&=+$,_.!~*'()[]%".toList.contains c

/-- What can stand right behind the name of an anchor besides a gap. -/
def anchorEnds : List Char := "?:,]\x7d%@\x60".toList

/-- Reads the name behind an ampersand or an asterisk. -/
def anchorName (cursor : YamlCursor) (what : String) : YamlReading String :=
  let (name, behind) := cursor.next.takeWhile isNameChar
  let wrong : YamlReading String :=
    .error (.scanning s!"while scanning an {what}" cursor.mark
      ("expected alphabetic or numeric character, but found " ++ shownChar behind.peek)
      behind.mark)
  if name.isEmpty then wrong
  else if behind.peek.all fun c => isSeparator c || anchorEnds.contains c then
    .ok (String.ofList name, behind)
  else wrong

/-- Reads a run of bytes, each of them written as a percent sign and two hexadecimal digits. -/
def escapedBytes (what : String) (start : YamlMark) :
    Nat → YamlCursor → Except YamlError (List UInt8 × YamlCursor)
  | 0, cursor => .ok ([], cursor)
  | fuel + 1, cursor =>
    if cursor.peek != some '%' then .ok ([], cursor)
    else
      let behind := cursor.next
      let wrong (c : Option Char) : YamlReading (List UInt8) :=
        .error (.scanning s!"while scanning a {what}" start
          ("expected URI escape sequence of 2 hexadecimal numbers, but found " ++ shownChar c)
          behind.mark)
      match behind.peek.bind hexDigit?, (behind.peekAt 1).bind hexDigit? with
      | some high, some low =>
        (escapedBytes what start fuel (behind.skip 2)).map fun (bytes, behind) =>
          ((high * 16 + low).toUInt8 :: bytes, behind)
      | none, _ => wrong behind.peek
      | some _, none => wrong (behind.peekAt 1)

/-- Reads the characters of a URI. Those that are given by their bytes are read run by run. -/
def uriChars (what : String) (start : YamlMark) :
    Nat → YamlCursor → Except YamlError (List Char × YamlCursor)
  | 0, cursor => .ok ([], cursor)
  | fuel + 1, cursor =>
    match cursor.peek with
    | none => .ok ([], cursor)
    | some c =>
      if c = '%' then do
        let (bytes, behind) ← escapedBytes what start (fuel + 1) cursor
        match decodeUtf8 bytes with
        | .error error =>
          .error (.scanning s!"while scanning a {what}" start error.message cursor.mark)
        | .ok text =>
          let (chars, behind) ← uriChars what start fuel behind
          pure (text.toList ++ chars, behind)
      else if isUriChar c then
        (uriChars what start fuel cursor.next).map fun (chars, behind) => (c :: chars, behind)
      else .ok ([], cursor)

/-- Reads a URI, in which characters can be given by their bytes. -/
def uri (cursor : YamlCursor) (what : String) (start : YamlMark) :
    Except YamlError (String × YamlCursor) := do
  let (chars, behind) ← uriChars what start cursor.rest.length cursor
  if chars.isEmpty then
    .error (.scanning s!"while parsing a {what}" start
      ("expected URI, but found " ++ shownChar behind.peek) behind.mark)
  else pure (String.ofList chars, behind)

/-- Reads a handle: an exclamation mark, or a name between two of them. -/
def tagHandle (cursor : YamlCursor) (what : String) (start : YamlMark) : YamlReading String :=
  let wrong (at_ : YamlCursor) : YamlReading String :=
    .error (.scanning s!"while scanning a {what}" start
      ("expected '!', but found " ++ shownChar at_.peek) at_.mark)
  if cursor.peek != some '!' then wrong cursor
  else
    let (name, behind) := cursor.next.takeWhile isNameChar
    if name.isEmpty && behind.peek = some ' ' then .ok ("!", behind)
    else if behind.peek = some '!' then .ok ("!" ++ String.ofList name ++ "!", behind.next)
    else wrong behind

/-- Whether another exclamation mark stands in the word that comes next. -/
def hasSecondMark (cursor : YamlCursor) : Bool :=
  ((cursor.next.rest.takeWhile fun c => !(c = ' ' || isLineBreak c)).contains '!')

/-- Reads a tag. -/
def tag (cursor : YamlCursor) : Except YamlError (YamlToken × YamlCursor) := do
  let start := cursor.mark
  let (token, behind) ←
    if cursor.peekAt 1 = some '<' then do
      let (suffix, behind) ← (cursor.skip 2).uri "tag" start
      if behind.peek = some '>' then pure (YamlToken.tag none suffix, behind.next)
      else
        throw (.scanning "while parsing a tag" start
          ("expected '>', but found " ++ shownChar behind.peek) behind.mark)
    else if cursor.isSeparated 1 then pure (YamlToken.tag none "!", cursor.next)
    else do
      let (handle, behind) ←
        if cursor.hasSecondMark then cursor.tagHandle "tag" start else pure ("!", cursor.next)
      let (suffix, behind) ← behind.uri "tag" start
      pure (YamlToken.tag (some handle) suffix, behind)
  if behind.isAtGap then pure (token, behind)
  else
    throw (.scanning "while scanning a tag" start
      ("expected ' ', but found " ++ shownChar behind.peek) behind.mark)

/-- Reads a number of a version. -/
def versionNumber (cursor : YamlCursor) (start : YamlMark) : YamlReading Nat :=
  let (digits, behind) := cursor.takeWhile Char.isDigit
  if digits.isEmpty then
    .error (.scanning "while scanning a directive" start
      ("expected a digit, but found " ++ shownChar behind.peek) behind.mark)
  else .ok (digitsValue digits, behind)

/-- Reads a directive with the rest of its line. -/
def directive (cursor : YamlCursor) : Except YamlError (YamlDirective × YamlCursor) := do
  let start := cursor.mark
  let context := "while scanning a directive"
  let wrong (problem : String) (at_ : YamlCursor) : YamlError :=
    .scanning context start (problem ++ shownChar at_.peek) at_.mark
  let (name, behind) := cursor.next.takeWhile isNameChar
  if name.isEmpty || !behind.isAtGap then
    throw (wrong "expected alphabetic or numeric character, but found " behind)
  let spaced := behind.dropWhile (· = ' ')
  let (directive, behind) ←
    if name = "YAML".toList then do
      let (major, behind) ← spaced.versionNumber start
      if behind.peek != some '.' then throw (wrong "expected a digit or '.', but found " behind)
      let (minor, behind) ← behind.next.versionNumber start
      if !behind.isAtGap then throw (wrong "expected a digit or ' ', but found " behind)
      pure (YamlDirective.version major minor, behind)
    else if name = "TAG".toList then do
      let (handle, behind) ← spaced.tagHandle "directive" start
      if behind.peek != some ' ' then throw (wrong "expected ' ', but found " behind)
      let (base, behind) ← (behind.dropWhile (· = ' ')).uri "directive" start
      if !behind.isAtGap then throw (wrong "expected ' ', but found " behind)
      pure (YamlDirective.handle handle base, behind)
    else pure (YamlDirective.unknown, behind.dropWhile fun c => !isLineBreak c)
  let ((), behind) ← BlockScalar.restOfLine context start behind
  pure (directive, behind)

end YamlCursor

end ModelSchema
