import ModelSchema.Number.Binary64
import ModelSchema.Number.Digits

/-!
Decimal numbers that remember their digits: `1.50` and `1.5` are equal in value and different in
text.

* `Decimal.parse?` and `Decimal.text`: the written form.
* `Decimal.plainNumber`: the JSON number a decimal stands for, an integer when it has no fraction.
-/

namespace ModelSchema

/-- A decimal number: `finite s c e` is `± c * 10 ^ e` with the digits of `c` as they were
written. -/
inductive Decimal where
  | finite (negative : Bool) (coefficient : Nat) (exponent : Int)
  | infinity (negative : Bool)
  | nan (negative signaling : Bool) (payload : String)
  deriving DecidableEq, Repr, Inhabited

namespace Decimal

/-! ### Reading -/

/-- A not-a-number in lower case, behind its sign. -/
def nanOf? (negative : Bool) (text : List Char) : Option Decimal :=
  let (signaling, rest) :=
    match text with
    | 's' :: rest => (true, rest)
    | rest => (false, rest)
  match rest with
  | 'n' :: 'a' :: 'n' :: payload =>
    if payload.all Char.isDigit then
      some (.nan negative signaling (String.ofList (payload.dropWhile (· == '0'))))
    else none
  | _ => none

/-- Reads a decimal: digits with an optional point and exponent, an infinity or a not-a-number.
Underscores and the blanks around it do not count. -/
def parse? (text : String) : Option Decimal :=
  let chars := (Numeral.trimmed isBlank text.toList).filter (· != '_')
  let (negative, body) := Numeral.splitSign (chars.map fun c => (Numeral.plainChar c).toLower)
  if body = "inf".toList || body = "infinity".toList then some (.infinity negative)
  else
    (nanOf? negative body).orElse fun _ =>
      (Numeral.decimal? body).map fun (digits, exponent) => .finite negative digits exponent

/-! ### Writing -/

/-- The digits of a finite decimal with its point, in scientific form when the exponent is positive
or the number is small. -/
def finiteText (coefficient : Nat) (exponent : Int) : String :=
  let digits := Nat.toDigits 10 coefficient
  let left : Int := exponent + digits.length
  let point := if exponent ≤ 0 ∧ -6 < left then left else 1
  let body :=
    if point ≤ 0 then ['0', '.'] ++ List.replicate (-point).toNat '0' ++ digits
    else if (digits.length : Int) ≤ point then
      digits ++ List.replicate (point.toNat - digits.length) '0'
    else digits.take point.toNat ++ '.' :: digits.drop point.toNat
  let power := left - point
  let tail :=
    if power = 0 then []
    else ['E', if power < 0 then '-' else '+'] ++ Nat.toDigits 10 power.natAbs
  String.ofList (body ++ tail)

/-- The text of a decimal, which reads back as the same decimal. -/
def text : Decimal → String
  | .finite negative coefficient exponent =>
    (if negative then "-" else "") ++ finiteText coefficient exponent
  | .infinity negative => if negative then "-Infinity" else "Infinity"
  | .nan negative signaling payload =>
    (if negative then "-" else "") ++ (if signaling then "sNaN" else "NaN") ++ payload

/-! ### Value -/

/-- The exact value of a finite decimal as a fraction. -/
def toRatio? : Decimal → Option (Int × Nat)
  | .finite negative coefficient exponent =>
    let (n, d) := Binary64.scaleByTen coefficient 1 exponent
    some (if negative then -(n : Int) else n, d)
  | _ => none

/-- The integer a finite decimal is equal to, if any. -/
def toInt? (x : Decimal) : Option Int :=
  x.toRatio?.bind fun (n, d) => if n % d = 0 then some (n / d) else none

/-- The double nearest to a decimal. -/
def toBinary64 : Decimal → Binary64
  | .finite negative coefficient exponent => .ofDecimal negative coefficient exponent
  | .infinity negative => .infinity negative
  | .nan .. => .nan

/-- Why a decimal has no plain number. -/
inductive Failure where
  | infinite
  | signaling
  deriving DecidableEq, Repr

/-- The plain number of a decimal: an integer when there is no fraction, else the nearest double.
An infinity is its own integral value and yet no integer; a signaling not-a-number fails. -/
def plainNumber (x : Decimal) : Except Failure (Int ⊕ Binary64) :=
  match x with
  | .infinity _ => .error .infinite
  | .nan _ true _ => .error .signaling
  | x =>
    match x.toInt? with
    | some n => .ok (.inl n)
    | none => .ok (.inr x.toBinary64)

end Decimal

end ModelSchema
