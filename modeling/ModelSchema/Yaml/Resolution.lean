import ModelSchema.Time.Calendar
import ModelSchema.Yaml.Node

/-!
The kind of a plain scalar.

* `YamlMoment.scan?`: the parts of a moment, which is a date, or a date with a clock time and maybe
  a zone. As a plain scalar, a date on its own has all its zeros (`YamlMoment.isTimestamp`).
* `YamlTag.ofPlain`: what a scalar without quotes stands for. A text is written without quotes only
  when it is read back as a text, so the printer and the reader share this rule.
-/

namespace ModelSchema

/-! ### Moments -/

/-- The clock time of a moment. The offset is in minutes. -/
structure YamlClock where
  hour : Nat
  minute : Nat
  second : Nat
  microsecond : Nat
  offset : Option Int
  deriving DecidableEq, Repr, Inhabited

/-- The parts of a moment. `isPadded` tells whether month and day have two digits. -/
structure YamlMoment where
  year : Nat
  month : Nat
  day : Nat
  isPadded : Bool
  clock : Option YamlClock
  deriving DecidableEq, Repr, Inhabited

namespace YamlMoment

/-- Reads one or two digits: the number, whether there were two, and what follows. -/
def shortNumber? (text : List Char) : Option (Nat × Bool × List Char) :=
  match digits? 2 text with
  | some (n, rest) => some (n, true, rest)
  | none => (digits? 1 text).map fun (n, rest) => (n, false, rest)

/-- The fraction of a second: its digits as microseconds, further ones cut off. -/
def fraction (text : List Char) : Nat × List Char :=
  match text with
  | '.' :: rest =>
    let digits := rest.takeWhile Char.isDigit
    (fractionMicroseconds digits, rest.dropWhile Char.isDigit)
  | text => (0, text)

/-- The zone at the end of a moment, as an offset in minutes. -/
def zone? (text : List Char) : Option (Option Int) :=
  let body := text.dropWhile fun c => c = ' ' || c = '\t'
  match body with
  | [] => if text.isEmpty then some none else none
  | ['Z'] => some (some 0)
  | sign :: rest => do
    guard (sign = '+' || sign = '-')
    let (hour, _, rest) ← shortNumber? rest
    let minute ←
      match rest with
      | [] => some 0
      | ':' :: rest => do
        let (minute, rest) ← digits? 2 rest
        guard rest.isEmpty
        some minute
      | _ => none
    let offset : Int := hour * 60 + minute
    some (some (if sign = '-' then -offset else offset))

/-- The clock time of a moment. -/
def clock? (text : List Char) : Option YamlClock := do
  let (hour, _, text) ← shortNumber? text
  let text ← dropChar? ':' text
  let (minute, text) ← digits? 2 text
  let text ← dropChar? ':' text
  let (second, text) ← digits? 2 text
  let (microsecond, text) := fraction text
  let offset ← zone? text
  some ⟨hour, minute, second, microsecond, offset⟩

/-- What follows the gap between a date and its clock time. -/
def afterGap? : List Char → Option (List Char)
  | 'T' :: rest | 't' :: rest => some rest
  | c :: rest =>
    if c = ' ' || c = '\t' then some (rest.dropWhile fun c => c = ' ' || c = '\t') else none
  | [] => none

/-- A text without the line break that may end it. -/
def withoutLineBreak (text : List Char) : List Char :=
  if text.getLast? = some '\n' then text.dropLast else text

/-- Reads a moment, which a line break may end. -/
def scan? (text : List Char) : Option YamlMoment := do
  let (year, text) ← digits? 4 (withoutLineBreak text)
  let text ← dropChar? '-' text
  let (month, wideMonth, text) ← shortNumber? text
  let text ← dropChar? '-' text
  let (day, wideDay, text) ← shortNumber? text
  if text.isEmpty then some ⟨year, month, day, wideMonth && wideDay, none⟩
  else do
    let text ← afterGap? text
    let clock ← clock? text
    some ⟨year, month, day, wideMonth && wideDay, some clock⟩

/-- Whether a plain scalar is a moment. -/
def isTimestamp (text : List Char) : Bool :=
  match scan? text with
  | some moment => moment.isPadded || moment.clock.isSome
  | none => false

end YamlMoment

namespace PlainScalar

/-! ### Character groups -/

def isDigitOrUnderscore (c : Char) : Bool := c.isDigit || c = '_'

def isHexOrUnderscore (c : Char) : Bool :=
  c.isDigit || ('a' ≤ c && c ≤ 'f') || ('A' ≤ c && c ≤ 'F') || c = '_'

def isOctalOrUnderscore (c : Char) : Bool := ('0' ≤ c && c ≤ '7') || c = '_'

def isBinaryOrUnderscore (c : Char) : Bool := c = '0' || c = '1' || c = '_'

/-- Whether a text is not empty and all its characters satisfy a condition. -/
def isAllOf (holds : Char → Bool) (text : List Char) : Bool := !text.isEmpty && text.all holds

/-- A text without its sign. -/
def unsigned : List Char → List Char
  | '+' :: rest | '-' :: rest => rest
  | text => text

/-- The parts of a text between separators. -/
def parts (separator : Char) : List Char → List (List Char)
  | [] => [[]]
  | c :: rest =>
    if c = separator then [] :: parts separator rest
    else
      match parts separator rest with
      | part :: others => (c :: part) :: others
      | [] => [[c]]

/-- A digit, then digits and underscores. -/
def isDigits : List Char → Bool
  | c :: rest => c.isDigit && rest.all isDigitOrUnderscore
  | [] => false

/-- A number below sixty of one or two digits. -/
def isBelowSixty : List Char → Bool
  | [c] => c.isDigit
  | [c, d] => '0' ≤ c && c ≤ '5' && d.isDigit
  | _ => false

/-! ### Integers -/

def isNonzeroDigits : List Char → Bool
  | c :: rest => '1' ≤ c && c ≤ '9' && rest.all isDigitOrUnderscore
  | [] => false

/-- Whether a text without sign is a decimal, octal, binary, hexadecimal or sexagesimal integer. -/
def isUnsignedInteger (text : List Char) : Bool :=
  match text with
  | ['0'] => true
  | '0' :: 'b' :: rest => isAllOf isBinaryOrUnderscore rest
  | '0' :: 'x' :: rest => isAllOf isHexOrUnderscore rest
  | '0' :: rest => isAllOf isOctalOrUnderscore rest
  | text =>
    match parts ':' text with
    | head :: groups => isNonzeroDigits head && groups.all isBelowSixty
    | [] => false

def isIntegerText (text : List Char) : Bool := isUnsignedInteger (unsigned text)

/-! ### Floats -/

/-- Nothing, or an exponent, which needs a sign. -/
def isExponent : List Char → Bool
  | [] => true
  | e :: sign :: rest =>
    (e = 'e' || e = 'E') && (sign = '+' || sign = '-') && isAllOf Char.isDigit rest
  | _ => false

/-- Whether a text without sign is digits around a point, with an exponent or in groups of sixty. -/
def isPointed (text : List Char) : Bool :=
  match text.dropWhile (· != '.') with
  | [] => false
  | _ :: fraction =>
    match parts ':' (text.takeWhile (· != '.')) with
    | head :: groups =>
      isDigits head
        && (if groups.isEmpty then isExponent (fraction.dropWhile isDigitOrUnderscore)
          else groups.all isBelowSixty && fraction.all isDigitOrUnderscore)
    | [] => false

/-- Whether a text begins with the point and goes on with digits. -/
def isFraction : List Char → Bool
  | '.' :: c :: rest => c.isDigit && isExponent (rest.dropWhile isDigitOrUnderscore)
  | _ => false

def infinityWords : List String := [".inf", ".Inf", ".INF"]

def nanWords : List String := [".nan", ".NaN", ".NAN"]

def isFloat (text : List Char) : Bool :=
  isPointed (unsigned text) || isFraction text
    || infinityWords.contains (String.ofList (unsigned text))
    || nanWords.contains (String.ofList text)

/-! ### Words -/

def trueWords : List String :=
  ["yes", "Yes", "YES", "true", "True", "TRUE", "on", "On", "ON"]

def falseWords : List String :=
  ["no", "No", "NO", "false", "False", "FALSE", "off", "Off", "OFF"]

def nullWords : List String := ["", "~", "null", "Null", "NULL"]

end PlainScalar

open PlainScalar in
/-- The kind of a plain scalar. A line break at the end does not count, unless it stands alone. -/
def YamlTag.ofPlain (scalar : String) : YamlTag :=
  let chars :=
    if scalar = "\n" then ['\n'] else YamlMoment.withoutLineBreak scalar.toList
  let text := String.ofList chars
  if trueWords.contains text || falseWords.contains text then .bool
  else if isFloat chars then .float
  else if isIntegerText chars then .int
  else if text = "<<" then .merge
  else if nullWords.contains text then .null
  else if YamlMoment.isTimestamp chars then .timestamp
  else if text = "=" then .default
  else .str

end ModelSchema
