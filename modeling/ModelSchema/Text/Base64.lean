/-!
Bytes as text in base 64.

* `Base64.encode`: four characters for three bytes, filled up with `=`.
* `Base64.decode`: the bytes of such a text; characters of no meaning are skipped.
-/

namespace ModelSchema

namespace Base64

/-- The digits, in order. -/
def alphabet : List Char :=
  "ABCDEFGHIJKLMNOPQRSTUVWXYZabcdefghijklmnopqrstuvwxyz0123456789+/".toList

/-- The digit of a number below 64. -/
def digit (n : Nat) : Char := alphabet.getD (n % 64) 'A'

/-- Three bytes, or what is left, at a time. -/
def encode : List UInt8 → List Char
  | [] => []
  | [a] =>
    let n := a.toNat * 65536
    [digit (n / 262144), digit (n / 4096), '=', '=']
  | [a, b] =>
    let n := a.toNat * 65536 + b.toNat * 256
    [digit (n / 262144), digit (n / 4096), digit (n / 64), '=']
  | a :: b :: c :: rest =>
    let n := a.toNat * 65536 + b.toNat * 256 + c.toNat
    digit (n / 262144) :: digit (n / 4096) :: digit (n / 64) :: digit n :: encode rest

/-- The number of a digit. -/
def value? (c : Char) : Option Nat := alphabet.findIdx? (· = c)

/-- Why a text does not end as it should. -/
inductive Error where
  /-- a single digit is left; with it there are so many -/
  | loneDigit (digits : Nat)
  /-- digits are left and not filled up -/
  | padding
  deriving DecidableEq, Repr, Inhabited

def Error.message : Error → String
  | loneDigit digits =>
    s!"Invalid base64-encoded string: number of data characters ({digits}) cannot be 1 more than "
      ++ "a multiple of 4"
  | padding => "Incorrect padding"

/-- What was read of a text: its bytes, last first, the number of digits in the current group of
four with the bits that are left of them, and the number of signs that fill the group up. -/
structure Reading where
  bytes : List UInt8
  position : Nat
  bits : Nat
  fill : Nat
  deriving DecidableEq, Repr, Inhabited

/-- Reads a digit. -/
def Reading.digit (r : Reading) (n : Nat) : Reading :=
  match r.position with
  | 0 => ⟨r.bytes, 1, n, 0⟩
  | 1 => ⟨(r.bits * 4 + n / 16).toUInt8 :: r.bytes, 2, n % 16, 0⟩
  | 2 => ⟨(r.bits * 16 + n / 4).toUInt8 :: r.bytes, 3, n % 4, 0⟩
  | _ => ⟨(r.bits * 64 + n).toUInt8 :: r.bytes, 0, 0, 0⟩

/-- The bytes at the end of a text. -/
def Reading.finish (r : Reading) : Except Error (List UInt8) :=
  match r.position with
  | 0 => .ok r.bytes.reverse
  | 1 => .error (.loneDigit (r.bytes.length / 3 * 4 + 1))
  | _ => .error .padding

/-- Reads on. A group of four that is filled up ends the text; a sign that fills nothing up is
skipped, as is every character of no meaning. -/
def Reading.run (r : Reading) : List Char → Except Error (List UInt8)
  | [] => r.finish
  | c :: rest =>
    if c = '=' then
      if 2 ≤ r.position then
        if 4 ≤ r.position + r.fill + 1 then .ok r.bytes.reverse
        else run { r with fill := r.fill + 1 } rest
      else run r rest
    else
      match value? c with
      | some n => run (r.digit n) rest
      | none => run r rest

/-- The bytes of a text in base 64. -/
def decode (text : List Char) : Except Error (List UInt8) := Reading.run ⟨[], 0, 0, 0⟩ text

end Base64

end ModelSchema
