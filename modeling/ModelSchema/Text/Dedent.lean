import ModelSchema.Text.CharClass

/-!
Texts written over several indented lines.

`dedented` takes away the indentation that all lines but the first share, and empty lines at both
ends. Tabs count as spaces up to the next multiple of eight columns.
-/

namespace ModelSchema

/-- Replaces tabs by spaces. -/
def expandTabs (column : Nat) : List Char → List Char
  | [] => []
  | c :: rest =>
    if c = '\t' then
      let width := 8 - column % 8
      List.replicate width ' ' ++ expandTabs (column + width) rest
    else if c = '\n' || c = '\r' then c :: expandTabs 0 rest
    else c :: expandTabs (column + 1) rest

/-- The lines of a text. -/
def linesOf : List Char → List (List Char)
  | [] => [[]]
  | c :: rest =>
    match c, linesOf rest with
    | '\n', lines => [] :: lines
    | c, line :: lines => (c :: line) :: lines
    | c, [] => [[c]]

/-- The number of blank characters in front of a line, unless it has no others. -/
def indentOf? (line : List Char) : Option Nat :=
  if line.all isBlank then none else some (line.takeWhile isBlank).length

/-- A text without the indentation its lines share. -/
def dedented (text : String) : String :=
  match linesOf (expandTabs 0 text.toList) with
  | [] => ""
  | first :: others =>
    let margin := ((others.filterMap indentOf?).min?).getD 0
    let lines := first.dropWhile isBlank :: others.map (·.drop margin)
    let kept := ((lines.dropWhile List.isEmpty).reverse.dropWhile List.isEmpty).reverse
    "\n".intercalate (kept.map String.ofList)

end ModelSchema
