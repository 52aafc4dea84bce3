import ModelSchema.Number.Digits
import ModelSchema.Yaml.Cursor

/-!
Reading scalars in the flow of a text.

* `YamlCursor.plainScalar` reads a scalar without quotes, which ends before a colon with a gap behind
  it, a comment, an indicator of the flow style or a line that is not indented.
* `YamlCursor.quotedScalar` reads a scalar in single or double quotes. A line break becomes a space,
  and a run of line breaks loses one of them.
-/

namespace ModelSchema

/-! ### Plain scalars -/

/-- A plain scalar that was read. `lineBroken` tells whether line breaks stand behind it. -/
structure PlainScalarRead where
  text : List Char
  lineBroken : Bool
  deriving DecidableEq, Repr, Inhabited

namespace PlainScalar

def flowIndicators : List Char := ",[]\x7b\x7d".toList

/-- The characters up to the next gap or the end of the scalar. -/
def chunk (inFlow : Bool) : List Char → List Char
  | [] => []
  | c :: rest =>
    let next := rest.head?
    if isSeparator c then []
    else if c = ':' && (next.all isSeparator || (inFlow && next.any flowIndicators.contains)) then
      []
    else if inFlow && (c = '?' || flowIndicators.contains c) then []
    else c :: chunk inFlow rest

/-- The line breaks that follow, with the spaces between them left out; nothing when a mark between
documents follows. -/
def breaksWithin : Nat → YamlCursor → Option (List Char) × YamlCursor
  | 0, cursor => (some [], cursor)
  | fuel + 1, cursor =>
    if cursor.isAtDocumentMark then (none, cursor)
    else
      let cursor := cursor.dropWhile (· = ' ')
      match cursor.lineBreak? with
      | none => (some [], cursor)
      | some (c, cursor) =>
        let (breaks, cursor) := breaksWithin fuel cursor
        (breaks.map (c :: ·), cursor)

/-- The gap behind a chunk: the characters it stands for, whether there is a line break in it, and
the place behind it. -/
def gap (cursor : YamlCursor) : List Char × Bool × YamlCursor :=
  let (spaces, behind) := cursor.takeWhile (· = ' ')
  match behind.lineBreak? with
  | none => (spaces, false, behind)
  | some (c, behind) =>
    match breaksWithin behind.rest.length behind with
    | (none, behind) => ([], true, behind)
    | (some breaks, behind) =>
      let first := if c != '\n' then [c] else if breaks.isEmpty then [' '] else []
      (first ++ breaks, true, behind)

/-- Reads on. `gap` is the gap in front of the next chunk. -/
def readWithin (inFlow : Bool) (indent : Int) :
    Nat → PlainScalarRead → List Char → YamlCursor → PlainScalarRead × YamlCursor
  | 0, read, _, cursor => (read, cursor)
  | fuel + 1, read, before, cursor =>
    let next := chunk inFlow cursor.rest
    if cursor.peek = some '#' || next.isEmpty then (read, cursor)
    else
      let (after, lineBroken, cursor) := gap (cursor.skip next.length)
      let read : PlainScalarRead := ⟨read.text ++ before ++ next, lineBroken⟩
      if after.isEmpty || cursor.peek = some '#' || (!inFlow && cursor.column < indent) then
        (read, cursor)
      else readWithin inFlow indent fuel read after cursor

end PlainScalar

/-- Reads the plain scalar that begins here. Further lines need an indentation of `indent`. -/
def YamlCursor.plainScalar (cursor : YamlCursor) (inFlow : Bool) (indent : Int) :
    PlainScalarRead × YamlCursor :=
  PlainScalar.readWithin inFlow indent cursor.rest.length ⟨[], false⟩ [] cursor

/-! ### Scalars in quotes -/

namespace QuotedScalar

/-- The escapes of one letter. -/
def letters : List (Char × Char) :=
  [('0', '\u0000'), ('a', '\u0007'), ('b', '\u0008'), ('t', '\t'), ('\t', '\t'), ('n', '\n'),
    ('v', '\u000b'), ('f', '\u000c'), ('r', '\r'), ('e', '\u001b'), (' ', ' '), ('"', '"'),
    ('\\', '\\'), ('/', '/'), ('N', '\u0085'), ('_', '\u00a0'), ('L', '\u2028'), ('P', '\u2029')]

/-- The number of hexadecimal digits behind a letter. -/
def codeLength? (c : Char) : Option Nat :=
  if c = 'x' then some 2
  else if c = 'u' then some 4
  else if c = 'U' then some 8
  else none

def isBlankChar (c : Char) : Bool := c = ' ' || c = '\t'

/-- The line breaks that follow, with the blanks around them left out. -/
def breaksWithin (start : YamlMark) : Nat → YamlCursor → YamlReading (List Char)
  | 0, cursor => .ok ([], cursor)
  | fuel + 1, cursor =>
    if cursor.isAtDocumentMark then
      .error (.scanning "while scanning a quoted scalar" start
        "found unexpected document separator" cursor.mark)
    else
      let cursor := cursor.dropWhile isBlankChar
      match cursor.lineBreak? with
      | none => .ok ([], cursor)
      | some (c, cursor) =>
        (breaksWithin start fuel cursor).map fun (breaks, cursor) => (c :: breaks, cursor)

/-- The gap that comes next: blanks, or a folded run of line breaks. -/
def gap (start : YamlMark) (cursor : YamlCursor) : YamlReading (List Char) :=
  let (blanks, behind) := cursor.takeWhile isBlankChar
  match behind.lineBreak? with
  | some (c, behind) =>
    (breaksWithin start behind.rest.length behind).map fun (breaks, behind) =>
      let first := if c != '\n' then [c] else if breaks.isEmpty then [' '] else []
      (first ++ breaks, behind)
  | none =>
    if behind.rest.isEmpty then
      .error (.scanning "while scanning a quoted scalar" start "found unexpected end of stream"
        behind.mark)
    else .ok (blanks, behind)

/-- What the escape stands for whose backslash was just read. -/
def escape (start : YamlMark) (cursor : YamlCursor) : YamlReading (List Char) :=
  let context := "while scanning a double-quoted scalar"
  match cursor.peek with
  | none =>
    .error (.scanning context start ("found unknown escape character " ++ shownChar none)
      cursor.mark)
  | some c =>
    match (letters.find? (·.1 = c)).map (·.2), codeLength? c with
    | some d, _ => .ok ([d], cursor.next)
    | none, some length =>
      let behind := cursor.next
      let digits := (behind.rest.take length).takeWhile fun d => (hexDigit? d).isSome
      if digits.length < length then
        .error (.scanning context start (s!"expected escape sequence of {length} hexadecimal "
          ++ "numbers, but found " ++ shownChar (behind.peekAt digits.length)) behind.mark)
      else
        match charOfCode? (hexValue digits) with
        | some d => .ok ([d], behind.skip length)
        | none => .error (.noCharacter (hexValue digits))
    | none, none =>
      match cursor.lineBreak? with
      | some (_, behind) => breaksWithin start behind.rest.length behind
      | none =>
        .error (.scanning context start ("found unknown escape character " ++ shownChar (some c))
          cursor.mark)

/-- Reads up to and with the closing quote. -/
def contentWithin (double : Bool) (start : YamlMark) :
    Nat → List Char → YamlCursor → YamlReading (List Char)
  | 0, read, cursor => .ok (read, cursor)
  | fuel + 1, read, cursor =>
    match cursor.rest with
    | [] =>
      .error (.scanning "while scanning a quoted scalar" start "found unexpected end of stream"
        cursor.mark)
    | c :: rest =>
      if isBlankChar c || isLineBreak c then
        match gap start cursor with
        | .error error => .error error
        | .ok (chars, cursor) => contentWithin double start fuel (read ++ chars) cursor
      else if double then
        if c = '"' then .ok (read, cursor.next)
        else if c = '\\' then
          match escape start cursor.next with
          | .error error => .error error
          | .ok (chars, cursor) => contentWithin double start fuel (read ++ chars) cursor
        else contentWithin double start fuel (read ++ [c]) cursor.next
      else if c = '\'' then
        if rest.head? = some '\'' then
          contentWithin double start fuel (read ++ ['\'']) (cursor.skip 2)
        else .ok (read, cursor.next)
      else contentWithin double start fuel (read ++ [c]) cursor.next

end QuotedScalar

/-- Reads the scalar in quotes that begins here. -/
def YamlCursor.quotedScalar (cursor : YamlCursor) : YamlReading String :=
  (QuotedScalar.contentWithin (cursor.peek = some '"') cursor.mark (cursor.rest.length + 1) []
    cursor.next).map fun (chars, behind) => (String.ofList chars, behind)

end ModelSchema
