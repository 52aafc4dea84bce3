import ModelSchema.Yaml.Cursor

/-!
Reading literal and folded scalars.

`YamlCursor.blockScalar` reads a scalar whose lines stand below a bar or an angle bracket. A folded
scalar joins neighbouring lines by spaces.
-/

namespace ModelSchema

/-- What becomes of the line breaks at the end of a scalar. -/
inductive Chomping where
  | strip
  | clip
  | keep
  deriving DecidableEq, Repr, Inhabited

namespace BlockScalar

/-- What stands behind the bar: the chomping and the indentation relative to the parent. -/
structure Header where
  chomping : Chomping
  increment : Option Nat
  deriving DecidableEq, Repr, Inhabited

def chompingOf? (c : Option Char) : Option Chomping :=
  match c with
  | some '+' => some .keep
  | some '-' => some .strip
  | _ => none

def incrementOf? (c : Option Char) : Option Nat :=
  c.bind fun c => if c.isDigit then some (c.toNat - '0'.toNat) else none

/-- Reads the signs behind the bar, in any order. -/
def header (start : YamlMark) (cursor : YamlCursor) : YamlReading Header :=
  let wrong (problem : String) (cursor : YamlCursor) : YamlReading Header :=
    .error (.scanning "while scanning a block scalar" start problem cursor.mark)
  let isZero (n : Option Nat) : Bool := n = some 0
  let finish (chomping : Option Chomping) (increment : Option Nat) (at_ behind : YamlCursor) :
      YamlReading Header :=
    if isZero increment then
      wrong "expected indentation indicator in the range 1-9, but found 0" at_
    else if behind.isAtGap then .ok (⟨chomping.getD .clip, increment⟩, behind)
    else
      wrong ("expected chomping or indentation indicators, but found " ++ shownChar behind.peek)
        behind
  match chompingOf? cursor.peek with
  | some chomping =>
    let behind := cursor.next
    match incrementOf? behind.peek with
    | some n => finish (some chomping) (some n) behind behind.next
    | none => finish (some chomping) none behind behind
  | none =>
    match incrementOf? cursor.peek with
    | some n =>
      let behind := cursor.next
      match chompingOf? behind.peek with
      | some chomping =>
        finish (some chomping) (some n) cursor (if n = 0 then behind else behind.next)
      | none => finish none (some n) cursor behind
    | none => finish none none cursor cursor

/-- Skips the rest of the line, on which only a comment can stand. -/
def restOfLine (context : String) (start : YamlMark) (cursor : YamlCursor) : YamlReading Unit :=
  let cursor := cursor.dropWhile (· = ' ')
  let cursor :=
    if cursor.peek = some '#' then cursor.dropWhile fun c => !isLineBreak c else cursor
  if cursor.isAtLineEnd then .ok ((), cursor.next)
  else
    .error (.scanning context start
      ("expected a comment or a line break, but found " ++ shownChar cursor.peek) cursor.mark)

/-- The empty lines in front of the first line, and the largest indentation met so far. -/
def leadingWithin : Nat → Nat → YamlCursor → List Char × Nat × YamlCursor
  | 0, widest, cursor => ([], widest, cursor)
  | fuel + 1, widest, cursor =>
    if cursor.peek = some ' ' then
      leadingWithin fuel (max widest cursor.next.column) cursor.next
    else
      match cursor.lineBreak? with
      | none => ([], widest, cursor)
      | some (c, cursor) =>
        let (breaks, widest, cursor) := leadingWithin fuel widest cursor
        (c :: breaks, widest, cursor)

/-- Skips spaces up to an indentation. -/
def indentTo (indent : Nat) (cursor : YamlCursor) : YamlCursor :=
  cursor.skip (min (indent - cursor.column) (cursor.rest.takeWhile (· = ' ')).length)

/-- The empty lines that follow, and the start of the next line behind its indentation. -/
def breaksWithin (indent : Nat) : Nat → YamlCursor → List Char × YamlCursor
  | 0, cursor => ([], cursor)
  | fuel + 1, cursor =>
    let cursor := indentTo indent cursor
    match cursor.lineBreak? with
    | none => ([], cursor)
    | some (c, cursor) =>
      let (breaks, cursor) := breaksWithin indent fuel cursor
      (c :: breaks, cursor)

/-- Whether a line begins with a blank, so that it is not folded. -/
def isIndentedMore (cursor : YamlCursor) : Bool := cursor.sees fun c => c = ' ' || c = '\t'

/-- The lines of a scalar. `breaks` are the empty lines in front of the next line. The result is the
text without the last line break, that line break, and the empty lines behind it. -/
def linesWithin (folded : Bool) (indent : Nat) :
    Nat → List Char → List Char → YamlCursor → (List Char × List Char × List Char) × YamlCursor
  | 0, read, breaks, cursor => ((read, [], breaks), cursor)
  | fuel + 1, read, breaks, cursor =>
    if cursor.column = indent && !cursor.rest.isEmpty then
      let flush := !isIndentedMore cursor
      let (line, behind) := cursor.takeWhile fun c => !isLineBreak c
      let read := read ++ breaks ++ line
      let (lineBreak, behind) :=
        match behind.lineBreak? with
        | some (c, behind) => ([c], behind)
        | none => ([], behind)
      let (breaks, behind) := breaksWithin indent behind.rest.length behind
      if behind.column = indent && !behind.rest.isEmpty then
        let joint :=
          if folded && lineBreak = ['\n'] && flush && !isIndentedMore behind then
            if breaks.isEmpty then [' '] else []
          else lineBreak
        linesWithin folded indent fuel (read ++ joint) breaks behind
      else ((read, lineBreak, breaks), behind)
    else ((read, [], breaks), cursor)

end BlockScalar

open BlockScalar in
/-- Reads the literal or folded scalar that begins here below a parent of an indentation. -/
def YamlCursor.blockScalar (cursor : YamlCursor) (parent : Int) :
    Except YamlError (String × YamlCursor) := do
  let start := cursor.mark
  let folded := cursor.peek = some '>'
  let (header, cursor) ← BlockScalar.header start cursor.next
  let ((), cursor) ← restOfLine "while scanning a block scalar" start cursor
  let least := (max (parent + 1) 1).toNat
  let fuel := cursor.rest.length + 1
  let (breaks, indent, cursor) :=
    match header.increment with
    | none =>
      let (breaks, widest, cursor) := leadingWithin fuel 0 cursor
      (breaks, max least widest, cursor)
    | some n =>
      let indent := least + n - 1
      let (breaks, cursor) := breaksWithin indent fuel cursor
      (breaks, indent, cursor)
  let ((read, lineBreak, breaks), cursor) := linesWithin folded indent fuel [] breaks cursor
  let ending :=
    match header.chomping with
    | .strip => []
    | .clip => lineBreak
    | .keep => lineBreak ++ breaks
  pure (String.ofList (read ++ ending), cursor)

end ModelSchema
