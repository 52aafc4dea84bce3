import ModelSchema.Yaml.Error
import ModelSchema.Yaml.Style

/-!
Reading a YAML text character by character.

`YamlCursor` is a place in a text with the rest of the text behind it.
-/

namespace ModelSchema

structure YamlCursor where
  mark : YamlMark
  rest : List Char
  deriving DecidableEq, Repr, Inhabited

namespace YamlCursor

/-- The start of a text. -/
def start (text : List Char) : YamlCursor := ⟨⟨0, 0, 0⟩, text⟩

def column (cursor : YamlCursor) : Nat := cursor.mark.column

/-- The place behind a character. A byte order mark takes no column. -/
def markBehind (mark : YamlMark) (c : Char) : YamlMark :=
  if isLineBreak c then ⟨mark.index + 1, mark.line + 1, 0⟩
  else if c = Char.ofNat 0xfeff then ⟨mark.index + 1, mark.line, mark.column⟩
  else ⟨mark.index + 1, mark.line, mark.column + 1⟩

/-- The place behind the next character. -/
def next (cursor : YamlCursor) : YamlCursor :=
  match cursor.rest with
  | [] => cursor
  | c :: rest => ⟨markBehind cursor.mark c, rest⟩

/-- The place behind some of the next characters. -/
def skip (cursor : YamlCursor) : Nat → YamlCursor
  | 0 => cursor
  | n + 1 => cursor.next.skip n

/-- The next character. -/
def peek (cursor : YamlCursor) : Option Char := cursor.rest.head?

/-- The character some places further on. -/
def peekAt (cursor : YamlCursor) (n : Nat) : Option Char := cursor.rest[n]?

/-- Whether the next character is there and satisfies a condition. -/
def sees (cursor : YamlCursor) (condition : Char → Bool) : Bool := cursor.peek.any condition

/-- The next characters that satisfy a condition, and the place behind them. -/
def takeWhile (cursor : YamlCursor) (condition : Char → Bool) : List Char × YamlCursor :=
  let taken := cursor.rest.takeWhile condition
  (taken, cursor.skip taken.length)

def dropWhile (cursor : YamlCursor) (condition : Char → Bool) : YamlCursor :=
  (cursor.takeWhile condition).2

/-- The line break that comes next, as it is kept in texts, and the place behind it. -/
def lineBreak? (cursor : YamlCursor) : Option (Char × YamlCursor) :=
  match cursor.peek with
  | some c =>
    if c = '\n' || c = '\u0085' then some ('\n', cursor.next)
    else if isLineBreak c then some (c, cursor.next)
    else none
  | none => none

/-- Whether the end of the text or a separator stands some places further on. -/
def isSeparated (cursor : YamlCursor) (n : Nat) : Bool := (cursor.peekAt n).all isSeparator

/-- Whether a mark between documents comes next. -/
def isAtDocumentMark (cursor : YamlCursor) : Bool :=
  ScalarTraits.isDocumentMark cursor.rest && cursor.isSeparated 3

/-- Whether the end of the text, a space or a line break comes next. -/
def isAtGap (cursor : YamlCursor) : Bool := cursor.peek.all fun c => c = ' ' || isLineBreak c

/-- Whether the end of the text or a line break comes next. -/
def isAtLineEnd (cursor : YamlCursor) : Bool := cursor.peek.all isLineBreak

end YamlCursor

/-- A part of a text that was read, and the place behind it. -/
abbrev YamlReading (α : Type) := Except YamlError (α × YamlCursor)

end ModelSchema
