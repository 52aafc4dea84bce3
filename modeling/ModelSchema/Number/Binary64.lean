/-!
Double-precision numbers as exact values.

* `Binary64`: a finite number is a sign, a significand and a power of two.
* `Binary64.ofRatio`: the double nearest to a fraction, ties to the even significand.
* `Binary64.order`: comparison by exact value; a comparison with `nan` has no answer.

Every operation is integer arithmetic, so each can be evaluated and reasoned about in the logic.
-/

namespace ModelSchema

/-- A double-precision number. `finite s m e` stands for `± m * 2 ^ e` with `s` true for the
negative sign, so that both zeros are values. -/
inductive Binary64 where
  | finite (negative : Bool) (significand : Nat) (exponent : Int)
  | infinity (negative : Bool)
  | nan
  deriving DecidableEq, Repr, Inhabited

namespace Binary64

/-- The exponent of the smallest positive number. -/
def minExponent : Int := -1074

/-- The largest exponent of a finite number. -/
def maxExponent : Int := 971

/-- The number of significand values: normal numbers lie in `[2 ^ 52, 2 ^ 53)`. -/
def hiddenBit : Nat := Nat.pow 2 52

def zero : Binary64 := .finite false 0 minExponent

/-! ### Fractions of natural numbers -/

/-- `num / den` rounded to the nearest natural number, a half to the even one. -/
def roundHalfEven (num den : Nat) : Nat :=
  let quotient := num / den
  let twice := 2 * (num % den)
  if twice < den then quotient
  else if den < twice then quotient + 1
  else if quotient % 2 = 0 then quotient
  else quotient + 1

/-- The fraction `num / den` multiplied by `2 ^ shift`. -/
def scaleByTwo (num den : Nat) (shift : Int) : Nat × Nat :=
  if 0 ≤ shift then (num * Nat.pow 2 shift.toNat, den) else (num, den * Nat.pow 2 (-shift).toNat)

/-- The fraction `num / den` multiplied by `10 ^ shift`. -/
def scaleByTen (num den : Nat) (shift : Int) : Nat × Nat :=
  if 0 ≤ shift then (num * Nat.pow 10 shift.toNat, den) else (num, den * Nat.pow 10 (-shift).toNat)

/-- The largest `k` with `2 ^ k ≤ num / den`, for a positive fraction. -/
def floorLogTwo (num den : Nat) : Int :=
  let guess : Int := (Nat.log2 num : Int) - (Nat.log2 den : Int)
  let (n, d) := scaleByTwo num den (-guess)
  if d ≤ n then guess else guess - 1

/-- The double nearest to `± num / den`, ties to the even significand; `den` is positive. -/
def ofRatio (negative : Bool) (num den : Nat) : Binary64 :=
  if num = 0 then .finite negative 0 minExponent
  else
    let exponent := max minExponent (floorLogTwo num den - 52)
    let (n, d) := scaleByTwo num den (-exponent)
    let significand := roundHalfEven n d
    let (significand, exponent) :=
      if significand = 2 * hiddenBit then (hiddenBit, exponent + 1) else (significand, exponent)
    if maxExponent < exponent then .infinity negative else .finite negative significand exponent

/-- The double nearest to `± digits * 10 ^ exponent`. Exponents far outside the range of doubles
are answered without building the power of ten. -/
def ofDecimal (negative : Bool) (digits : Nat) (exponent : Int) : Binary64 :=
  if digits = 0 then .finite negative 0 minExponent
  else if 400 < exponent then .infinity negative
  else if exponent + (Nat.log2 digits : Int) < -1200 then .finite negative 0 minExponent
  else
    let (n, d) := scaleByTen digits 1 exponent
    ofRatio negative n d

/-- The double nearest to a quotient of integers; `den` is positive. -/
def ofQuotient (num : Int) (den : Nat) : Binary64 := ofRatio (num < 0) num.natAbs den

/-- The double nearest to an integer, or `none` when it is beyond the finite range. -/
def ofInt? (n : Int) : Option Binary64 :=
  match ofQuotient n 1 with
  | .infinity _ => none
  | x => some x

/-! ### Exact value and order -/

/-- The exact value of a finite number as a fraction. -/
def toRatio? : Binary64 → Option (Int × Nat)
  | .finite negative significand exponent =>
    let (n, d) := scaleByTwo significand 1 exponent
    some (if negative then -(n : Int) else n, d)
  | _ => none

def isNaN : Binary64 → Bool
  | .nan => true
  | _ => false

def isFinite : Binary64 → Bool
  | .finite .. => true
  | _ => false

def isZero : Binary64 → Bool
  | .finite _ 0 _ => true
  | _ => false

def neg : Binary64 → Binary64
  | .finite s m e => .finite (!s) m e
  | .infinity s => .infinity (!s)
  | .nan => .nan

/-- The order of two fractions with positive denominators. -/
def orderRatio (a b : Int × Nat) : Ordering := compare (a.1 * b.2) (b.1 * a.2)

/-- The order of a double and a fraction; `none` for `nan`. -/
def orderWithRatio (x : Binary64) (r : Int × Nat) : Option Ordering :=
  match x with
  | .nan => none
  | .infinity negative => some (if negative then .lt else .gt)
  | .finite .. => x.toRatio?.map fun q => orderRatio q r

/-- The order of two doubles by value; `none` when one of them is `nan`. -/
def order (x y : Binary64) : Option Ordering :=
  match x, y with
  | .nan, _ | _, .nan => none
  | .infinity a, .infinity b => some (compare (!a) (!b))
  | x, .infinity negative => if x.isFinite then some (if negative then .gt else .lt) else none
  | x, y => y.toRatio?.bind fun r => x.orderWithRatio r

/-! ### Arithmetic -/

/-- The sum of two doubles. A sum that is zero is positive unless both are negative zeros. -/
def add (x y : Binary64) : Binary64 :=
  match x, y with
  | .nan, _ | _, .nan => .nan
  | .infinity a, .infinity b => if a = b then .infinity a else .nan
  | .infinity a, _ | _, .infinity a => .infinity a
  | .finite a _ _, .finite b _ _ =>
    match x.toRatio?, y.toRatio? with
    | some p, some q =>
      let sum := p.1 * q.2 + q.1 * p.2
      if sum = 0 then .finite (a && b) 0 minExponent else .ofQuotient sum (p.2 * q.2)
    | _, _ => .nan

/-- The product of two doubles. -/
def mul (x y : Binary64) : Binary64 :=
  match x, y with
  | .nan, _ | _, .nan => .nan
  | .infinity a, .infinity b => .infinity (a != b)
  | .infinity a, .finite b m _ | .finite b m _, .infinity a =>
    if m = 0 then .nan else .infinity (a != b)
  | .finite a _ _, .finite b _ _ =>
    match x.toRatio?, y.toRatio? with
    | some p, some q => .ofRatio (a != b) (p.1 * q.1).natAbs (p.2 * q.2)
    | _, _ => .nan

/-- The integer a finite double is equal to, if any. -/
def toInt? (x : Binary64) : Option Int :=
  x.toRatio?.bind fun (n, d) => if n % d = 0 then some (n / d) else none

end Binary64

end ModelSchema
