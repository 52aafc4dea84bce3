import ModelSchema.Shown
import ModelSchema.Text.CharClass

/-!
Values over several lines.

`Value.laidOut` shows a value as `Value.displayed` does, but puts the items of a collection on lines
of their own where one line is too narrow. Long texts and bytes are cut into pieces, texts behind
blanks.

The room for a value is the width without its `indent`, the column it begins in, and without its
`reserve`, the characters that have to follow it on its last line.
-/

namespace ModelSchema

namespace Layout

/-! ### Texts -/

/-- Whether a character ends a line of a text. -/
def endsLine (c : Char) : Bool :=
  c = '\n' || c = '\r' || c = '\u000b' || c = '\u000c' || ('\u001c' ≤ c && c ≤ '\u001e')
    || c = '\u0085' || c = '\u2028' || c = '\u2029'

/-- The lines of a text with their ends, behind the characters of the current line, last first. -/
def linesBehind (line : List Char) : List Char → List (List Char)
  | [] => if line.isEmpty then [] else [line.reverse]
  | '\r' :: '\n' :: rest => ('\n' :: '\r' :: line).reverse :: linesBehind [] rest
  | c :: rest =>
    if endsLine c then (c :: line).reverse :: linesBehind [] rest else linesBehind (c :: line) rest

/-- The words of a line, each with the blanks behind it. -/
def words : Nat → List Char → List (List Char)
  | 0, _ | _, [] => []
  | fuel + 1, text =>
    let word := text.takeWhile fun c => !isBlank c
    let blanks := (text.drop word.length).takeWhile isBlank
    (word ++ blanks) :: words fuel (text.drop (word.length + blanks.length))

/-- The length of a text in quotes. -/
def quotedLength (text : List Char) : Int := (quoted (String.ofList text)).length

/-- Puts the pieces of a text together as long as they fit into the room, of which the last piece
has less. -/
def joinedPieces (room lastRoom : Int) (current : List Char) :
    List (List Char) → List (List Char)
  | [] => if current.isEmpty then [] else [current]
  | piece :: rest =>
    let room' := if rest.isEmpty then lastRoom else room
    if room' < quotedLength (current ++ piece) then
      (if current.isEmpty then [] else [current]) ++ joinedPieces room lastRoom piece rest
    else joinedPieces room lastRoom (current ++ piece) rest

/-- The pieces of the lines of a text. -/
def textPieces (room : Int) (reserve : Nat) : List (List Char) → List (List Char)
  | [] => []
  | line :: rest =>
    let lastRoom := if rest.isEmpty then room - reserve else room
    let pieces :=
      if quotedLength line ≤ lastRoom then [line]
      else joinedPieces room lastRoom [] (words line.length line)
    pieces ++ textPieces room reserve rest

/-- Pieces below each other. -/
def stacked (indent : Nat) (pieces : List String) : String :=
  ("\n" ++ String.ofList (List.replicate indent ' ')).intercalate pieces

/-- A text over several lines, in parentheses if nothing is around it. -/
def text (width indent reserve : Nat) (outermost : Bool) (s : String) : String :=
  let indent := if outermost then indent + 1 else indent
  let reserve := if outermost then reserve + 1 else reserve
  let pieces := textPieces ((width : Int) - indent) reserve (linesBehind [] s.toList)
  match pieces with
  | [] | [_] => quoted s
  | pieces =>
    let body := stacked indent (pieces.map fun piece => quoted (String.ofList piece))
    if outermost then "(" ++ body ++ ")" else body

/-! ### Bytes -/

/-- Puts four bytes after four bytes together as long as they fit into the room. The bytes behind
the last whole four have less of it. -/
def bytePieces (room : Int) (reserve : Nat) : Nat → List UInt8 → List UInt8 → List (List UInt8)
  | 0, current, _ | _, current, [] => if current.isEmpty then [] else [current]
  | fuel + 1, current, rest =>
    let candidate := current ++ rest.take 4
    let room' := if rest.length < 4 then room - reserve else room
    if room' < (quotedBytes candidate).length then
      (if current.isEmpty then [] else [current])
        ++ bytePieces room reserve fuel (rest.take 4) (rest.drop 4)
    else bytePieces room reserve fuel candidate (rest.drop 4)

/-- Bytes over several lines, in parentheses if nothing is around them. -/
def bytes (width indent reserve : Nat) (outermost : Bool) (data : List UInt8) : String :=
  if data.length ≤ 4 then quotedBytes data
  else
    let indent := if outermost then indent + 1 else indent
    let reserve := if outermost then reserve + 1 else reserve
    let pieces := bytePieces ((width : Int) - indent) reserve data.length [] data
    let body := stacked indent (pieces.map quotedBytes)
    if outermost then "(" ++ body ++ ")" else body

/-! ### Collections -/

/-- The brackets around a collection that is laid out. -/
def brackets (kind : Collection) (count : Nat) : String × String :=
  match kind with
  | .list => ("[", "]")
  | .tuple => ("(", if count = 1 then ",)" else ")")
  | .set => ("\x7b", "\x7d")
  | .frozenSet => ("frozenset(\x7b", "\x7d)")
  | .deque => ("deque([", "])")

end Layout

namespace Value

mutual

/-- The text of a value over as many lines as the width asks for. -/
def laidOutWithin (table : ClassTable) (width indent reserve : Nat) (outermost : Bool)
    (value : Value) : String :=
  let line := value.displayed table
  if (line.length : Int) ≤ (width : Int) - indent - reserve then line
  else
    match value with
    | .str s => Layout.text width indent reserve outermost s
    | .bytes data => Layout.bytes width indent reserve outermost data
    | .collection kind items =>
      if items.isEmpty then line
      else
        let (opening, closing) := Layout.brackets kind items.length
        let column := indent + opening.length
        let items := laidOutItems table width column (reserve + closing.length) items
        opening ++ (",\n" ++ String.ofList (List.replicate column ' ')).intercalate items ++ closing
    | .dict entries =>
      let column := indent + 1
      let entries := laidOutEntries table width column (reserve + 1) entries
      "\x7b" ++ (",\n" ++ String.ofList (List.replicate column ' ')).intercalate entries ++ "\x7d"
    | _ => line

def laidOutItems (table : ClassTable) (width indent reserve : Nat) : List Value → List String
  | [] => []
  | [item] => [item.laidOutWithin table width indent reserve false]
  | item :: rest =>
    item.laidOutWithin table width indent 1 false :: laidOutItems table width indent reserve rest

def laidOutEntries (table : ClassTable) (width indent reserve : Nat) :
    List (Value × Value) → List String
  | [] => []
  | [(key, value)] =>
    let name := key.displayed table ++ ": "
    [name ++ value.laidOutWithin table width (indent + name.length) reserve false]
  | (key, value) :: rest =>
    let name := key.displayed table ++ ": "
    (name ++ value.laidOutWithin table width (indent + name.length) 1 false)
      :: laidOutEntries table width indent reserve rest

end

/-- The text of a value over as many lines as the width asks for. -/
def laidOut (table : ClassTable) (width : Nat) (value : Value) : String :=
  value.laidOutWithin table width 0 0 true

end Value

end ModelSchema
