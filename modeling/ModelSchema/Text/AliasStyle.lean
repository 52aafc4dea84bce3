import ModelSchema.Text.Case

/-!
Styles of public names made from field names: camel, Pascal and snake case.
-/

namespace ModelSchema

/-- A rule that makes a public name from a field name. -/
inductive AliasStyle where
  | camel
  | pascal
  | snake
  deriving DecidableEq, Repr, Inhabited

namespace AliasStyle

/-- Drops each underscore between a letter or digit and a following capital or digit. -/
def joinWords : List Char → List Char
  | a :: '_' :: b :: rest =>
    if a.isAlphanum && (b.isDigit || b.isUpper) then a :: joinWords (b :: rest)
    else a :: joinWords ('_' :: b :: rest)
  | c :: rest => c :: joinWords rest
  | [] => []

/-- Every word capitalised and joined to the next. -/
def pascalCase (name : List Char) : List Char := joinWords (titleFrom false name)

/-- Whether a digit is followed by a small letter. -/
def digitBeforeLetter : List Char → Bool
  | a :: b :: rest => (a.isDigit && b.isLower) || digitBeforeLetter (b :: rest)
  | _ => false

/-- Whether a name is in camel case already. -/
def isCamel (name : List Char) : Bool :=
  !(name.takeWhile Char.isLower).isEmpty && name.all Char.isAlphanum && !digitBeforeLetter name

/-- Pascal case with the first capital in lower case, behind leading underscores. -/
def camelCase (name : List Char) : List Char :=
  if isCamel name then name
  else
    let pascal := pascalCase name
    let bars := pascal.takeWhile (· == '_')
    match pascal.dropWhile (· == '_') with
    | c :: rest => bars ++ (if c.isUpper then c.toLower else c) :: rest
    | [] => pascal

/-- Inserts an underscore between neighbours of the given classes. -/
def separate (left right : Char → Bool) : List Char → List Char
  | a :: b :: rest =>
    if left a && right b then a :: '_' :: separate left right (b :: rest)
    else a :: separate left right (b :: rest)
  | rest => rest

/-- Inserts an underscore before the last capital of a run that a small letter follows. -/
def separateRuns (afterCapital : Bool) : List Char → List Char
  | a :: b :: rest =>
    if afterCapital && a.isUpper && b.isLower then
      '_' :: a :: separateRuns false (b :: rest)
    else a :: separateRuns a.isUpper (b :: rest)
  | rest => rest

/-- Words in lower case, separated by underscores. -/
def snakeCase (name : List Char) : List Char :=
  let split := separateRuns false name
  let split := separate Char.isLower Char.isUpper split
  let split := separate Char.isDigit Char.isUpper split
  let split := separate Char.isLower Char.isDigit split
  lowerFrom [] (split.map fun c => if c = '-' then '_' else c)

/-- The public name of a field. -/
def apply (style : AliasStyle) (name : String) : String :=
  String.ofList <| match style with
    | camel => camelCase name.toList
    | pascal => pascalCase name.toList
    | snake => snakeCase name.toList

end AliasStyle

end ModelSchema
