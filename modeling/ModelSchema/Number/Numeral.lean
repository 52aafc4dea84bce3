import ModelSchema.Number.Binary64
import ModelSchema.Number.Digits
import ModelSchema.Text.Quoted

/-!
Numerals: numbers as people write them, with blanks around them, with digits of any script and with
single underscores between digits.

* `Numeral.integer`: an integer in some base. The marks `0b`, `0o` and `0x` may stand in front of
  digits of their own base.
* `Numeral.double`: a double, in decimal or as a word for an infinity or a not-a-number.
-/

namespace ModelSchema

/-- A text that is no numeral. -/
inductive NumeralError where
  /-- it is no integer in the base -/
  | integer (base : Nat) (text : String)
  /-- it has more decimal digits than can be read -/
  | integerTooLong (digits : Nat)
  /-- it is no double -/
  | double (text : String)
  deriving DecidableEq, Repr, Inhabited

namespace Numeral

/-- How many decimal digits an integer can have at most. -/
def digitLimit : Nat := 4300

/-- How much of a quoted text is shown. -/
def shownLimit : Nat := 200

end Numeral

def NumeralError.message : NumeralError → String
  | integer base text =>
    s!"invalid literal for int() with base {base}: "
      ++ String.ofList ((quoted text).toList.take Numeral.shownLimit)
  | integerTooLong digits =>
    s!"Exceeds the limit ({Numeral.digitLimit} digits) for integer string conversion: "
      ++ s!"value has {digits} digits; use sys.set_int_max_str_digits() to increase the limit"
  | double text => s!"could not convert string to float: {quoted text}"

namespace Numeral

/-- The blanks of ASCII that may stand around a numeral. -/
def isPlainBlank (c : Char) : Bool := c = ' ' || (0x09 ≤ c.toNat && c.toNat ≤ 0x0d)

/-- The characters of a numeral without the blanks around it. -/
def plainChars (text : String) : List Char := trimmed isPlainBlank (text.toList.map plainChar)

/-! ### Integers -/

def isDigitOf (base : Nat) (c : Char) : Bool := (hexDigit? c).any (· < base)

/-- The digits of a text that has nothing but digits and single underscores between them. -/
def groupedDigits? (isDigit : Char → Bool) : List Char → Option (List Char)
  | [] => none
  | [c] => if isDigit c then some [c] else none
  | c :: '_' :: rest => if isDigit c then (groupedDigits? isDigit rest).map (c :: ·) else none
  | c :: rest => if isDigit c then (groupedDigits? isDigit rest).map (c :: ·) else none

/-- The letter of the mark in front of digits of a base. -/
def baseLetter? (base : Nat) : Option Char :=
  if base = 2 then some 'b' else if base = 8 then some 'o' else if base = 16 then some 'x' else none

/-- Digits without the mark of their base, behind which an underscore may stand. -/
def withoutBaseMark (base : Nat) (text : List Char) : List Char :=
  match text with
  | '0' :: letter :: rest =>
    if baseLetter? base = some letter.toLower then
      match rest with
      | '_' :: rest => rest
      | rest => rest
    else text
  | text => text

/-- Reads an integer. -/
def integer (base : Nat) (text : String) : Except NumeralError Int :=
  let (negative, body) := splitSign (plainChars text)
  match groupedDigits? (isDigitOf base) (withoutBaseMark base body) with
  | none => .error (.integer base text)
  | some digits =>
    if base = 10 && digitLimit < digits.length then .error (.integerTooLong digits.length)
    else
      let n : Int := digits.foldl (fun n c => n * base + (hexDigit? c).getD 0) 0
      .ok (if negative then -n else n)

/-! ### Doubles -/

/-- A text without its underscores, all of which stand between digits. `afterDigit` tells whether a
digit stands in front. -/
def withoutUnderscores? (afterDigit : Bool) : List Char → Option (List Char)
  | [] => some []
  | '_' :: c :: rest =>
    if afterDigit && c.isDigit then (withoutUnderscores? true rest).map (c :: ·) else none
  | c :: rest =>
    if c = '_' then none else (withoutUnderscores? c.isDigit rest).map (c :: ·)

/-- Reads a double that has its sign, without blanks around it. -/
def signedDouble? (text : List Char) : Option Binary64 :=
  let (negative, body) := splitSign (text.map Char.toLower)
  if body = "inf".toList || body = "infinity".toList then some (.infinity negative)
  else if body = "nan".toList then some .nan
  else (decimal? body).map fun (digits, exponent) => .ofDecimal negative digits exponent

/-- Reads a double. -/
def double (text : String) : Except NumeralError Binary64 :=
  match (withoutUnderscores? false (plainChars text)).bind signedDouble? with
  | some x => .ok x
  | none => .error (.double text)

end Numeral

end ModelSchema
