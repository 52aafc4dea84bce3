import ModelSchema.Layering.Import
import ModelSchema.Text.CharClass

/-!
Reading the imports of a Python source text.

* `SourceToken`: words, literals and signs; comments and line joins are gone.
* `SourceLine.statements`: the simple statements of a logical line, those behind the colon of a
  compound statement included.
* `importsOf`: the imports of a text in order, or the line of its first syntax error.

Of an expression only this much is checked: no operand stands directly behind another one, and
every sign is one of the language.
-/

namespace ModelSchema

inductive SourceToken where
  | word (text : String)
  | literal
  | sign (char : Char)
  | lineEnd
  deriving DecidableEq, Repr, Inhabited

namespace SourceToken

/-- Whether a character can begin or continue a name or a number. -/
def isNameChar (c : Char) : Bool := c.isAlphanum || c = '_' || 127 < c.toNat

/-- The rest of a text behind a string literal that is ended by the quotes, and the number of line
ends in it; nothing if the literal does not end. -/
def dropString (quotes : List Char) : List Char → Option (List Char × Nat)
  | [] => none
  | '\\' :: '\n' :: rest => (dropString quotes rest).map fun (rest, lines) => (rest, lines + 1)
  | '\\' :: _ :: rest => dropString quotes rest
  | c :: rest =>
    if quotes.isPrefixOf (c :: rest) then some ((c :: rest).drop quotes.length, 0)
    else if c = '\n' then
      if quotes.length = 3 then
        (dropString quotes rest).map fun (rest, lines) => (rest, lines + 1)
      else none
    else dropString quotes rest

/-- The quotes that open a string literal. -/
def openingQuotes? : List Char → Option (List Char)
  | '"' :: '"' :: '"' :: _ => some ['"', '"', '"']
  | '\'' :: '\'' :: '\'' :: _ => some ['\'', '\'', '\'']
  | '"' :: _ => some ['"']
  | '\'' :: _ => some ['\'']
  | _ => none

/-- Whether a word directly before a quote belongs to the literal. -/
def isStringMark (word : String) : Bool :=
  ["r", "u", "b", "f", "br", "rb", "fr", "rf"].contains word.toLower

/-- The signs of the language. An exclamation mark stands only before an equals sign. -/
def isSign (c : Char) (rest : List Char) : Bool :=
  if c = '!' then rest.head? = some '=' else "+-*/%@&|^~<>()[]\x7b\x7d,:.;=".toList.contains c

/-- The tokens of a text with their lines, or the line where it can not be read. Inside brackets
line ends do not count. -/
def ofChars (fuel line depth : Nat) (text : List Char) : Except Nat (List (Nat × SourceToken)) :=
  match fuel, text with
  | 0, _ | _, [] => .ok []
  | fuel + 1, c :: rest => do
    match openingQuotes? (c :: rest) with
    | some quotes =>
      match dropString quotes (rest.drop (quotes.length - 1)) with
      | some (rest, lines) => return (line, literal) :: (← ofChars fuel (line + lines) depth rest)
      | none => throw line
    | none =>
      if c = '\n' then
        let tokens ← ofChars fuel (line + 1) depth rest
        return if depth = 0 then (line, lineEnd) :: tokens else tokens
      else if c = ' ' || c = '\t' || c = '\r' || c = '\x0c' then ofChars fuel line depth rest
      else if c = '#' then ofChars fuel line depth (rest.dropWhile (· ≠ '\n'))
      else if c = '\\' && rest.head? = some '\n' then ofChars fuel (line + 1) depth (rest.drop 1)
      else if isNameChar c then
        let word := String.ofList (c :: rest.takeWhile isNameChar)
        let rest := rest.dropWhile isNameChar
        let tokens ← ofChars fuel line depth rest
        return if isStringMark word && (openingQuotes? rest).isSome then tokens
          else (line, .word word) :: tokens
      else if isSign c rest then
        let depth :=
          if "([\x7b".toList.contains c then depth + 1
          else if ")]\x7d".toList.contains c then depth - 1
          else depth
        return (line, sign c) :: (← ofChars fuel line depth rest)
      else throw line

/-- The tokens of a text. -/
def ofText (text : String) : Except Nat (List (Nat × SourceToken)) :=
  ofChars (text.length + 1) 1 0 text.toList

/-- The words that are no operands. -/
def keywords : List String :=
  ["and", "as", "assert", "async", "await", "break", "class", "continue", "def", "del", "elif",
    "else", "except", "finally", "for", "from", "global", "if", "import", "in", "is", "lambda",
    "nonlocal", "not", "or", "pass", "raise", "return", "try", "while", "with", "yield"]

def isKeyword : SourceToken → Bool
  | word text => keywords.contains text
  | _ => false

/-- Whether a token ends an operand. -/
def endsOperand : SourceToken → Bool
  | word text => !keywords.contains text
  | literal => true
  | sign c => ")]\x7d".toList.contains c
  | lineEnd => false

/-- Whether a token begins an operand and can not follow one. -/
def beginsOperand : SourceToken → Bool
  | word text => !keywords.contains text
  | literal => true
  | _ => false

end SourceToken

open SourceToken

/-- The tokens of one simple statement. -/
abbrev SourceLine := List (Nat × SourceToken)

namespace SourceLine

/-- Cuts tokens at those that satisfy a condition, which are left out. -/
def cut (isEnd : SourceToken → Bool) (tokens : SourceLine) : List SourceLine :=
  tokens.foldr (fun token lines =>
    if isEnd token.2 then [] :: lines
    else match lines with
      | line :: rest => (token :: line) :: rest
      | [] => [[token]]) [[]]

/-- The words that begin a compound statement. -/
def compoundWords : List String :=
  ["if", "elif", "else", "for", "while", "try", "except", "finally", "with", "def", "class",
    "async"]

/-- What stands behind the first colon outside brackets. -/
def afterColon (depth : Nat) : SourceLine → Option SourceLine
  | [] => none
  | (_, .sign c) :: rest =>
    if c = ':' && depth = 0 then some rest
    else if "([\x7b".toList.contains c then afterColon (depth + 1) rest
    else if ")]\x7d".toList.contains c then afterColon (depth - 1) rest
    else afterColon depth rest
  | _ :: rest => afterColon depth rest

/-- The simple statements of a logical line. -/
def statements (line : SourceLine) : List SourceLine :=
  let simple :=
    match line with
    | (_, .word first) :: rest =>
      if compoundWords.contains first then (afterColon 0 rest).getD [] else line
    | _ => line
  (simple.cut (· = .sign ';')).filter (!·.isEmpty)

/-- The line where an operand follows another one; literals may follow each other. -/
def adjacentOperands? : SourceLine → Option Nat
  | (_, first) :: (line, second) :: rest =>
    if first.endsOperand && second.beginsOperand && !(first = .literal && second = .literal) then
      some line
    else adjacentOperands? ((line, second) :: rest)
  | _ => none

/-- A dotted name at the start, and the rest. -/
def dottedName? : SourceLine → Option (String × SourceLine)
  | (_, .word first) :: (_, .sign '.') :: rest =>
    if keywords.contains first then none
    else (dottedName? rest).map fun (name, rest) => (first ++ "." ++ name, rest)
  | (_, .word first) :: rest => if keywords.contains first then none else some (first, rest)
  | _ => none

/-- A name that is imported, whatever it is called afterwards. -/
def importedName? (tokens : SourceLine) : Option String := do
  let (name, rest) ← dottedName? tokens
  match rest with
  | [] => some name
  | [(_, .word "as"), (_, .word other)] => if keywords.contains other then none else some name
  | _ => none

/-- Imported names between commas. -/
def importedNames? (tokens : SourceLine) : Option (List String) :=
  (tokens.cut (· = .sign ',')).mapM importedName?

/-- The names behind `import` in an import of members: a star, or names, which may stand in
brackets with a comma at their end. -/
def memberNames? : SourceLine → Option (List String)
  | [(_, .sign '*')] => some ["*"]
  | (_, .sign '(') :: rest =>
    match rest.reverse with
    | (_, .sign ')') :: (_, .sign ',') :: inner | (_, .sign ')') :: inner =>
      importedNames? inner.reverse
    | _ => none
  | tokens => importedNames? tokens

/-- The import that a simple statement is: none if it is another statement, an error if it is
malformed. -/
def import? : SourceLine → Except Nat (Option ImportStatement)
  | (line, .word "import") :: rest =>
    match importedNames? rest with
    | some names => .ok (some (.modules names))
    | none => .error line
  | (line, .word "from") :: rest =>
    let dots := (rest.takeWhile (·.2 = .sign '.')).length
    let rest := rest.drop dots
    let (module, rest) :=
      match dottedName? rest with
      | some (name, rest) => (some name, rest)
      | none => (none, rest)
    match rest with
    | (_, .word "import") :: names =>
      match memberNames? names with
      | some names =>
        if dots = 0 && module.isNone then .error line else .ok (some (.members dots module names))
      | none => .error line
    | _ => .error line
  | _ => .ok none

end SourceLine

/-- The imports of a text in order, or the line of its first syntax error. -/
def importsOf (text : String) : Except Nat (List SourceStatement) := do
  let tokens ← SourceToken.ofText text
  let lines := SourceLine.cut (· = .lineEnd) tokens
  let found ← lines.mapM fun line => do
    if let some bad := SourceLine.adjacentOperands? line then throw bad
    (SourceLine.statements line).filterMapM fun statement => do
      let found ← SourceLine.import? statement
      pure (found.map (.imports ((statement.head?.map (·.1)).getD 0)))
  pure found.flatten

end ModelSchema
