import ModelSchema.Text.CharClass

/-!
Digits, and what numerals of all kinds have in common.

* `hexDigit?`: the value of a digit of any base up to sixteen.
* `decimalDigit?`: the value of a decimal digit of any script.
* `Numeral.plainChar`: the ASCII character that counts for a character of a numeral.
* `Numeral.decimal?`: digits with an optional point and exponent, as an exact number.
-/

namespace ModelSchema

/-- The number of a hexadecimal digit. -/
def hexDigit? (c : Char) : Option Nat :=
  if c.isDigit then some (c.toNat - '0'.toNat)
  else if 'a' ≤ c && c ≤ 'f' then some (c.toNat - 'a'.toNat + 10)
  else if 'A' ≤ c && c ≤ 'F' then some (c.toNat - 'A'.toNat + 10)
  else none

/-- The number of a decimal digit. The digits of a script stand next to each other, zero first. -/
def decimalDigit? (c : Char) : Option Nat :=
  if isDecimalDigit c then
    let below := digitBounds.takeWhile (· ≤ c.toNat)
    some ((c.toNat - below.getLastD 0) % 10)
  else none

/-- The number of a run of ASCII digits. -/
def digitsValue (digits : List Char) : Nat :=
  digits.foldl (fun n c => n * 10 + (c.toNat - '0'.toNat)) 0

/-- The number of a run of hexadecimal digits. -/
def hexValue (digits : List Char) : Nat :=
  digits.foldl (fun n c => n * 16 + (hexDigit? c).getD 0) 0

namespace Numeral

/-- The ASCII character that counts for a character; a question mark if there is none. -/
def plainChar (c : Char) : Char :=
  if c.toNat < 0x7f then c
  else if isBlank c then ' '
  else
    match decimalDigit? c with
    | some n => Char.ofNat ('0'.toNat + n)
    | none => '?'

/-- A text without the characters at its ends that satisfy a condition. -/
def trimmed (condition : Char → Bool) (text : List Char) : List Char :=
  ((text.dropWhile condition).reverse.dropWhile condition).reverse

/-- A sign, if there is one: whether it is the negative one, and the rest. -/
def splitSign : List Char → Bool × List Char
  | '-' :: rest => (true, rest)
  | '+' :: rest => (false, rest)
  | text => (false, text)

/-- The exponent part: nothing, or `e` with an optional sign and at least one digit. -/
def exponent? : List Char → Option Int
  | [] => some 0
  | 'e' :: rest =>
    let (negative, digits) := splitSign rest
    if digits.isEmpty || !digits.all Char.isDigit then none
    else some (if negative then -(digitsValue digits : Int) else digitsValue digits)
  | _ => none

/-- The digits and the exponent of an unsigned number in lower case. -/
def decimal? (text : List Char) : Option (Nat × Int) :=
  let whole := text.takeWhile Char.isDigit
  let (fraction, rest) :=
    match text.drop whole.length with
    | '.' :: rest => (rest.takeWhile Char.isDigit, rest.dropWhile Char.isDigit)
    | rest => ([], rest)
  if whole.isEmpty && fraction.isEmpty then none
  else
    (exponent? rest).map fun exponent =>
      (digitsValue (whole ++ fraction), exponent - fraction.length)

end Numeral

end ModelSchema
