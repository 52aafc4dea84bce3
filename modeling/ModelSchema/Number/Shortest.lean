import ModelSchema.Number.Binary64

/-!
The shortest decimal text of a double.

* `Binary64.shortest`: the fewest digits that read back as the same double, nearest first.
* `NumberFormat`: how chosen digits are laid out; `NumberFormat.render` writes a double with it.

The digits are found by trying every digit count: on the grid of `n` digits only the two neighbours
of the value can read back, so the first count with a neighbour inside the rounding interval wins.
-/

namespace ModelSchema

namespace Binary64

/-- The smallest number of decimal digits that always reads back. -/
def digitLimit : Nat := 17

/-- The largest `k` with `10 ^ k ≤ num / den`, for a positive fraction. The binary logarithm gives
a guess that is at most two too small. -/
def floorLogTen (num den : Nat) : Int :=
  let guess : Int := (floorLogTwo num den * 30103).fdiv 100000 - 1
  let reaches (k : Int) : Bool :=
    let (n, d) := scaleByTen num den (-k)
    decide (d ≤ n)
  if reaches (guess + 3) then guess + 3
  else if reaches (guess + 2) then guess + 2
  else if reaches (guess + 1) then guess + 1
  else guess

/-- The doubles around `significand * 2 ^ exponent` leave this interval of reals to it, written as
numerators over one common denominator: lower end, value, upper end. -/
def roundingInterval (significand : Nat) (exponent : Int) : Nat × Nat × Nat × Nat :=
  let below := if significand = hiddenBit ∧ minExponent < exponent then 1 else 2
  let (n, d) := scaleByTwo 1 4 exponent
  ((4 * significand - below) * n, 4 * significand * n, (4 * significand + 2) * n, d)

/-- The candidate with `count` digits nearest to the value that reads back, if there is one. -/
def digitsOfCount? (significand : Nat) (exponent : Int) (magnitude : Int) (count : Nat) :
    Option (Nat × Int) :=
  let (low, value, high, den) := roundingInterval significand exponent
  let unit := magnitude + 1 - count
  let (v, d) := scaleByTen value den (-unit)
  let (l, _) := scaleByTen low den (-unit)
  let (h, _) := scaleByTen high den (-unit)
  let floor := v / d
  let ceiling := floor + 1
  let closed := significand % 2 = 0
  let inside (k : Nat) : Bool :=
    if closed then l ≤ k * d && k * d ≤ h else l < k * d && k * d < h
  let chosen? :=
    match inside floor, inside ceiling with
    | true, true =>
      let down := v - floor * d
      let up := ceiling * d - v
      if down < up then some floor
      else if up < down then some ceiling
      else if floor % 2 = 0 then some floor
      else some ceiling
    | true, false => some floor
    | false, true => some ceiling
    | false, false => none
  chosen?.map (·, unit)

/-- The fewest digits that read back as a positive double, as `(digits, power of ten)`. -/
def shortest (significand : Nat) (exponent : Int) : Nat × Int :=
  let (n, d) := scaleByTwo significand 1 exponent
  let magnitude := floorLogTen n d
  let counts := (List.range digitLimit).map (· + 1)
  (counts.findSome? (digitsOfCount? significand exponent magnitude)).getD (significand, 0)

end Binary64

/-- How a double is laid out once its digits are chosen. -/
structure NumberFormat where
  /-- The smallest and largest scientific exponent that is written positionally. -/
  positional : Int × Int
  /-- The least number of digits of a written exponent. -/
  exponentDigits : Nat
  /-- Whether a single digit before an exponent is followed by `.0`. -/
  pointBeforeExponent : Bool
  positiveInfinity : String
  negativeInfinity : String
  notANumber : String

namespace NumberFormat

/-- Digits with the decimal point behind the first `point` of them; zeros fill the gaps. -/
def positionalText (digits : List Char) (point : Int) : List Char :=
  if point ≤ 0 then ['0', '.'] ++ List.replicate (-point).toNat '0' ++ digits
  else
    let whole := digits.take point.toNat
    let rest := digits.drop point.toNat
    whole ++ List.replicate (point.toNat - whole.length) '0' ++ ['.']
      ++ (if rest.isEmpty then ['0'] else rest)

/-- One digit, the rest behind a point, and the exponent with its sign. -/
def scientificText (format : NumberFormat) (digits : List Char) (exponent : Int) : List Char :=
  let mantissa :=
    match digits with
    | [] => []
    | [d] => if format.pointBeforeExponent then [d, '.', '0'] else [d]
    | d :: rest => d :: '.' :: rest
  let magnitude := Nat.toDigits 10 exponent.natAbs
  mantissa ++ ['e', if exponent < 0 then '-' else '+']
    ++ List.replicate (format.exponentDigits - magnitude.length) '0' ++ magnitude

/-- The text of a double: the shortest digits that read back, laid out by the format. -/
def render (format : NumberFormat) : Binary64 → String
  | .nan => format.notANumber
  | .infinity negative => if negative then format.negativeInfinity else format.positiveInfinity
  | .finite negative significand exponent =>
    let body :=
      if significand = 0 then ['0', '.', '0']
      else
        let (value, unit) := Binary64.shortest significand exponent
        let all := Nat.toDigits 10 value
        let digits := (all.reverse.dropWhile (· == '0')).reverse
        let scientific : Int := unit + all.length - 1
        if format.positional.1 ≤ scientific && scientific ≤ format.positional.2 then
          positionalText digits (scientific + 1)
        else format.scientificText digits scientific
    String.ofList (if negative then '-' :: body else body)

end NumberFormat

end ModelSchema
