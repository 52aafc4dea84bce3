import ModelSchema.Number.Numeral
import ModelSchema.Value

/-!
The tokens of a JSON text.

`JsonToken.scan` cuts a text into tokens with their positions. A text that is not closed or holds a
wrong escape becomes a `broken` token, so that the parser can report whatever comes first.
-/

namespace ModelSchema

/-- What is wrong with a JSON text. -/
inductive JsonProblem where
  | expectedValue
  | expectedKey
  | expectedColon
  | expectedComma
  | extraData
  | unterminatedText
  | controlCharacter
  | invalidEscape
  | invalidCodeEscape
  | byteOrderMark
  | longInteger (digits : Nat)
  /-- too many arrays and objects are open -/
  | tooDeep (isArray : Bool)
  deriving DecidableEq, Repr, Inhabited

/-- The wording of a problem. -/
def JsonProblem.text : JsonProblem → String
  | expectedValue => "Expecting value"
  | expectedKey => "Expecting property name enclosed in double quotes"
  | expectedColon => "Expecting ':' delimiter"
  | expectedComma => "Expecting ',' delimiter"
  | extraData => "Extra data"
  | unterminatedText => "Unterminated string starting at"
  | controlCharacter => "Invalid control character at"
  | invalidEscape => "Invalid \\escape"
  | invalidCodeEscape => "Invalid \\uXXXX escape"
  | byteOrderMark => "Unexpected UTF-8 BOM (decode using utf-8-sig)"
  | longInteger digits => (NumeralError.integerTooLong digits).message
  | tooDeep isArray =>
    let kind := if isArray then "array" else "object"
    s!"maximum recursion depth exceeded while decoding a JSON {kind} from a unicode string"

/-- Whether the text is no JSON. Else it is JSON that can not be read. -/
def JsonProblem.isSyntax : JsonProblem → Bool
  | longInteger _ | tooDeep _ => false
  | _ => true

/-- A problem and the position of the character at which it is noticed. -/
structure JsonError where
  problem : JsonProblem
  position : Nat
  deriving DecidableEq, Repr, Inhabited

/-- A token: a text, a number or word, any other character, or the start of a faulty text. -/
inductive JsonToken where
  | text (s : String)
  | plain (value : Value)
  | mark (c : Char)
  | broken (error : JsonError)
  deriving Repr, Inhabited

namespace JsonToken

/-! ### Texts -/

/-- A code unit of four hexadecimal digits. There has to be a character behind it, as texts end
with a quote. -/
def codeUnit? : List Char → Option Nat
  | a :: b :: c :: d :: _ :: _ => do
    some ((((← hexDigit? a) * 16 + (← hexDigit? b)) * 16 + (← hexDigit? c)) * 16 + (← hexDigit? d))
  | _ => none

/-- The low half of a pair of code units at the start of a text. -/
def lowUnit? : List Char → Option Nat
  | '\\' :: 'u' :: rest => do
    let unit ← codeUnit? rest
    if 0xdc00 ≤ unit && unit ≤ 0xdfff then some unit else none
  | _ => none

/-- The character of a one-letter escape. -/
def escapedChar? (c : Char) : Option Char :=
  match c with
  | '"' | '\\' | '/' => some c
  | 'b' => some '\u0008'
  | 'f' => some '\u000c'
  | 'n' => some '\n'
  | 'r' => some '\r'
  | 't' => some '\t'
  | _ => none

/-- What the start of a text between quotes is. -/
inductive TextStep where
  | done
  | char (c : Char) (length : Nat)
  | wrong (error : JsonError)

/-- The first character of the rest of a text, which stands at a position. `start` is the position
of the opening quote. -/
def textStep (start position : Nat) : List Char → TextStep
  | [] => .wrong ⟨.unterminatedText, start⟩
  | '"' :: _ => .done
  | '\\' :: rest =>
    match rest with
    | [] => .wrong ⟨.unterminatedText, start⟩
    | 'u' :: rest =>
      match codeUnit? rest with
      | none => .wrong ⟨.invalidCodeEscape, position + 1⟩
      | some unit =>
        if 0xd800 ≤ unit && unit ≤ 0xdbff then
          match lowUnit? (rest.drop 4) with
          | some low => .char (Char.ofNat (0x10000 + (unit - 0xd800) * 0x400 + (low - 0xdc00))) 12
          | none => .char (Surrogate.standIn unit) 6
        else .char ((charOfCode? unit).getD ' ') 6
    | c :: _ =>
      match escapedChar? c with
      | some c => .char c 2
      | none => .wrong ⟨.invalidEscape, position⟩
  | c :: _ => if c.toNat < 0x20 then .wrong ⟨.controlCharacter, position⟩ else .char c 1

/-- Scans the rest of a text: its characters, or what is wrong with it, and the number of characters
of the source up to and with the closing quote. `skip` counts characters of an escape that are read
already. -/
def scanText (start position skip : Nat) (read : List Char) :
    List Char → Except JsonError (String × Nat)
  | [] => .error ⟨.unterminatedText, start⟩
  | c :: rest =>
    match skip with
    | skip + 1 => scanText start (position + 1) skip read rest
    | 0 =>
      match textStep start position (c :: rest) with
      | .done => .ok (String.ofList read.reverse, position + 1 - start)
      | .wrong error => .error error
      | .char d length => scanText start (position + 1) (length - 1) (d :: read) rest

/-! ### Numbers and words -/

/-- The digits in front of a point: a zero on its own, or digits that do not begin with one. -/
def wholeDigits : List Char → List Char
  | '0' :: _ => ['0']
  | chars => chars.takeWhile Char.isDigit

/-- A point and digits. -/
def fractionDigits : List Char → List Char
  | '.' :: rest => rest.takeWhile Char.isDigit
  | _ => []

/-- An exponent and the number of characters it takes. -/
def exponent : List Char → Option (Int × Nat)
  | e :: rest =>
    if e = 'e' || e = 'E' then
      let (negative, signs, rest) :=
        match rest with
        | '-' :: rest => (true, 1, rest)
        | '+' :: rest => (false, 1, rest)
        | rest => (false, 0, rest)
      let digits := rest.takeWhile Char.isDigit
      if digits.isEmpty then none
      else
        let size : Int := digitsValue digits
        some (if negative then -size else size, 1 + signs + digits.length)
    else none
  | [] => none

/-- A number at the start of a text and how many characters it takes. -/
def number? (text : List Char) : Option (Value × Nat) :=
  let negative := text.head? = some '-'
  let signs := if negative then 1 else 0
  let body := text.drop signs
  let whole := wholeDigits body
  if whole.isEmpty then none
  else
    let rest := body.drop whole.length
    let fraction := fractionDigits rest
    let pointed := if fraction.isEmpty then 0 else fraction.length + 1
    let power := exponent (rest.drop pointed)
    let length := signs + whole.length + pointed + (power.map (·.2)).getD 0
    if fraction.isEmpty && power.isNone then
      let n : Int := digitsValue whole
      some (.int (if negative then -n else n), length)
    else
      let exponent := (power.map (·.1)).getD 0 - fraction.length
      some (.float (.ofDecimal negative (digitsValue (whole ++ fraction)) exponent), length)

/-- The words with a value. -/
def words : List (List Char × Value) :=
  [("null".toList, .null), ("true".toList, .bool true), ("false".toList, .bool false),
    ("NaN".toList, .float .nan), ("Infinity".toList, .float (.infinity false)),
    ("-Infinity".toList, .float (.infinity true))]

/-- A word at the start of a text and how many characters it takes. -/
def word? (text : List Char) : Option (Value × Nat) :=
  (words.find? fun (word, _) => word.isPrefixOf text).map fun (word, value) => (value, word.length)

/-! ### Tokens -/

def isGap (c : Char) : Bool := c = ' ' || c = '\t' || c = '\n' || c = '\r'

/-- The token at the start of a text that begins with `c` and how many characters it takes. -/
def first (position : Nat) (c : Char) (rest : List Char) : JsonToken × Nat :=
  if c = '"' then
    match scanText position (position + 1) 0 [] rest with
    | .ok (s, length) => (.text s, length)
    | .error error => (.broken error, 1)
  else
    match (word? (c :: rest)).orElse fun _ => number? (c :: rest) with
    | some (.int n, length) =>
      let digits := if n < 0 then length - 1 else length
      if Numeral.digitLimit < digits then (.broken ⟨.longInteger digits, position⟩, length)
      else (.plain (.int n), length)
    | some (value, length) => (.plain value, length)
    | none => (.mark c, 1)

/-- The tokens of a text with their positions. `skip` counts the characters that belong to the last
token. -/
def scanFrom (position skip : Nat) : List Char → List (JsonToken × Nat)
  | [] => []
  | c :: rest =>
    match skip with
    | skip + 1 => scanFrom (position + 1) skip rest
    | 0 =>
      if isGap c then scanFrom (position + 1) 0 rest
      else
        let (token, length) := first position c rest
        (token, position) :: scanFrom (position + 1) (length - 1) rest

/-- The tokens of a text. -/
def scan (text : List Char) : List (JsonToken × Nat) := scanFrom 0 0 text

end JsonToken

end ModelSchema
