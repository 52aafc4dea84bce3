import ModelSchema.Pattern.Source
import ModelSchema.Text.CharName

/-!
The escapes of patterns, and sets of characters.

* `PatternReader.escape`: what an escape stands for outside of sets.
* `PatternReader.charSet`: a set between brackets.
-/

namespace ModelSchema

namespace PatternReader

/-- The class of characters that an escaped letter stands for. -/
def escapedKind? (ascii : Bool) (c : Char) : Option CharRange :=
  match c with
  | 'd' => some (.kind .digit ascii false)
  | 'D' => some (.kind .digit ascii true)
  | 's' => some (.kind .blank ascii false)
  | 'S' => some (.kind .blank ascii true)
  | 'w' => some (.kind .word ascii false)
  | 'W' => some (.kind .word ascii true)
  | _ => none

/-- The place that an escaped letter asks for. -/
def escapedAnchor? (ascii : Bool) (c : Char) : Option Anchor :=
  match c with
  | 'A' => some .textStart
  | 'Z' => some .textEnd
  | 'b' => some (.wordEdge ascii false)
  | 'B' => some (.wordEdge ascii true)
  | _ => none

/-- The character that an escaped letter stands for everywhere. -/
def escapedControl? (c : Char) : Option Char :=
  match c with
  | 'a' => some '\u0007'
  | 'f' => some '\u000c'
  | 'n' => some '\n'
  | 'r' => some '\r'
  | 't' => some '\t'
  | 'v' => some '\u000b'
  | '\\' => some '\\'
  | _ => none

def isOctalDigit (c : Char) : Bool := '0' ≤ c && c ≤ '7'

def octalValue (digits : List Char) : Nat :=
  digits.foldl (fun n c => n * 8 + (c.toNat - '0'.toNat)) 0

/-- How many hexadecimal digits an escaped letter has behind it. -/
def codeLength? (c : Char) : Option Nat :=
  match c with
  | 'x' => some 2
  | 'u' => some 4
  | 'U' => some 8
  | _ => none

/-- The text of an escape. -/
def escapeText (c : Char) (behind : List Char) : String := String.ofList ('\\' :: c :: behind)

/-- Reads the digits of an escape that has the code of a character. -/
def codeEscape (c : Char) (length : Nat) : PatternReader Char := do
  let digits ← takeWhile (fun d => (hexDigit? d).isSome) length
  let text := escapeText c digits
  if digits.length < length then fail (.incompleteEscape text) (digits.length + 2)
  else
    let code := hexValue digits
    match charOfCode? code with
    | some d => return d
    | none =>
      if Nat.pow 2 31 ≤ code then throw (.noCharacter code)
      else fail (.badEscape text) (digits.length + 2)

/-- Reads the name of a character. -/
def namedEscape : PatternReader Char := do
  if !(← accept '\x7b') then fail .missingBrace 0
  else
    let charName ← name '\x7d' "character name"
    match charNamed? charName with
    | some c => return c
    | none => fail (.unknownCharacter charName) (charName.length + 4)

/-- A character that was escaped by up to three octal digits. -/
def octalChar (digits : List Char) : PatternReader Char := do
  let code := octalValue digits
  if 0o377 < code then
    fail (.octalEscape (String.ofList ('\\' :: digits))) (digits.length + 1)
  else return Char.ofNat code

/-- Reads the rest of an escape that stands for a character in and outside of sets. -/
def escapedChar (c : Char) : PatternReader Char := do
  match escapedControl? c, codeLength? c with
  | some d, _ => return d
  | none, some length => codeEscape c length
  | none, none =>
    if c = 'N' then namedEscape
    else if c.isAlphanum then fail (.badEscape (escapeText c [])) 2
    else return c

/-- The character or the class that an escape stands for in a set. -/
def setEscape (flags : PatternFlags) (c : Char) : PatternReader CharRange := do
  match escapedKind? flags.ascii c with
  | some range => return range
  | none =>
    let d ←
      if c = 'b' then pure '\u0008'
      else if isOctalDigit c then do octalChar (c :: (← takeWhile isOctalDigit 2))
      else escapedChar c
    return .between d d

/-- Reads the number of a group, or of a character if it has three octal digits. -/
def numberEscape (flags : PatternFlags) (c : Char) : PatternReader Pattern := do
  let second ← takeWhile Char.isDigit 1
  let third ←
    if isOctalDigit c && !second.isEmpty && second.all isOctalDigit then takeWhile isOctalDigit 1
    else pure []
  let digits := c :: second ++ third
  if !third.isEmpty then return .char (.single flags.caseRule (← octalChar digits))
  else
    let number := digitsValue digits
    if number < groupCount (← get) then reference flags number (digits.length + 1)
    else fail (.unknownGroup number) digits.length

/-- What an escape stands for outside of sets. -/
def escape (flags : PatternFlags) (c : Char) : PatternReader Pattern := do
  match escapedAnchor? flags.ascii c, escapedKind? flags.ascii c with
  | some anchor, _ => return .anchor anchor
  | none, some range => return .char ⟨false, [range], .exact⟩
  | none, none =>
    if c = '0' then
      let digits ← takeWhile isOctalDigit 2
      return .char (.single flags.caseRule (Char.ofNat (octalValue digits)))
    else if c.isDigit then numberEscape flags c
    else return .char (.single flags.caseRule (← escapedChar c))

/-! ### Sets -/

/-- An element of a set that begins with a token. -/
def setElement (flags : PatternFlags) (token : List Char) : PatternReader CharRange := do
  match token with
  | ['\\', c] => setEscape flags c
  | c :: _ => return .between c c
  | [] => return .between ' ' ' '

/-- The range between two elements that begin with tokens. -/
def joinedRange (first last : List Char) (low high : CharRange) : PatternReader CharRange := do
  let wrong : PatternReader CharRange :=
    fail (.badRange (String.ofList (first ++ '-' :: last))) (first.length + 1 + last.length)
  match low, high with
  | .between a _, .between b _ => if b < a then wrong else return .between a b
  | _, _ => wrong

/-- The elements of a set up to its closing bracket. `start` is the position of the opening one. -/
def setElements (flags : PatternFlags) (start : Nat) :
    Nat → List CharRange → PatternReader (List CharRange)
  | 0, read => return read.reverse
  | fuel + 1, read => do
    let unterminated : PatternReader (List CharRange) := do
      throw (.placed .unterminatedSet start)
    match ← take with
    | none => unterminated
    | some token =>
      if token = [']'] && !read.isEmpty then return read.reverse
      else
        let low ← setElement flags token
        if ← accept '-' then
          match ← take with
          | none => unterminated
          | some [']'] => return (.between '-' '-' :: low :: read).reverse
          | some last =>
            let high ← setElement flags last
            let range ← joinedRange token last low high
            setElements flags start fuel (range :: read)
        else setElements flags start fuel (low :: read)

/-- The set whose opening bracket was just read. -/
def charSet (flags : PatternFlags) : PatternReader CharSet := do
  let start := (← position) - 1
  let negated ← accept '^'
  let fuel := (← get).source.rest.length + 2
  return ⟨negated, ← setElements flags start fuel [], flags.caseRule⟩

end PatternReader

end ModelSchema
