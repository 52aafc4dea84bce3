import ModelSchema.Text.Quoted

/-!
UTF-8.

* `decodeUtf8`: the text of some bytes, or the first flaw in them.
* `decodeUtf8Lossy`: the text of some bytes, with a replacement character for every flaw.

A flaw covers the bytes that could still have begun a character, so that reading can go on behind
it.
-/

namespace ModelSchema

/-- Why bytes start no character. -/
inductive Utf8Flaw where
  | startByte
  | continuationByte
  | endOfData
  deriving DecidableEq, Repr, Inhabited

def Utf8Flaw.words : Utf8Flaw → String
  | startByte => "invalid start byte"
  | continuationByte => "invalid continuation byte"
  | endOfData => "unexpected end of data"

/-- A flaw with the position of its first byte, that byte, and the number of bytes it covers. -/
structure Utf8Error where
  flaw : Utf8Flaw
  position : Nat
  byte : UInt8
  length : Nat
  deriving DecidableEq, Repr, Inhabited

def Utf8Error.message (error : Utf8Error) : String :=
  let place :=
    if error.length = 1 then
      "byte 0x" ++ String.ofList (hexPadded 2 error.byte.toNat) ++ s!" in position {error.position}"
    else s!"bytes in position {error.position}-{error.position + error.length - 1}"
  s!"'utf-8' codec can't decode {place}: {error.flaw.words}"

namespace Utf8

/-- The bounds of the second byte behind a first one. They leave out the longer forms of characters,
the surrogates and codes that are too large. -/
def secondBounds (first : Nat) : Nat × Nat :=
  if first = 0xe0 then (0xa0, 0xbf)
  else if first = 0xed then (0x80, 0x9f)
  else if first = 0xf0 then (0x90, 0xbf)
  else if first = 0xf4 then (0x80, 0x8f)
  else (0x80, 0xbf)

/-- The bytes at the start of a list that lie in bounds, the first of them in bounds of its own. -/
def continuations (bounds : Nat × Nat) : List UInt8 → List UInt8
  | [] => []
  | byte :: rest =>
    if bounds.1 ≤ byte.toNat && byte.toNat ≤ bounds.2 then
      byte :: continuations (0x80, 0xbf) rest
    else []

/-- The first character and the number of its bytes, or a flaw and the number of bytes it covers. -/
def first (byte : UInt8) (rest : List UInt8) : Except (Utf8Flaw × Nat) (Char × Nat) :=
  let n := byte.toNat
  if n < 0x80 then .ok (Char.ofNat n, 1)
  else if n < 0xc2 || 0xf5 ≤ n then .error (.startByte, 1)
  else
    let (length, bits) :=
      if n < 0xe0 then (2, n - 0xc0) else if n < 0xf0 then (3, n - 0xe0) else (4, n - 0xf0)
    let tail := rest.take (length - 1)
    let good := continuations (secondBounds n) tail
    if good.length = length - 1 then
      .ok (Char.ofNat (good.foldl (fun code b => code * 64 + b.toNat % 64) bits), length)
    else if good.length = tail.length then .error (.endOfData, good.length + 1)
    else .error (.continuationByte, good.length + 1)

/-- Reads bytes from a position on. `skip` counts bytes that are read already. -/
def decodeFrom (position skip : Nat) : List UInt8 → Except Utf8Error (List Char)
  | [] => .ok []
  | byte :: rest =>
    match skip with
    | skip + 1 => decodeFrom (position + 1) skip rest
    | 0 =>
      match first byte rest with
      | .error (flaw, length) => .error ⟨flaw, position, byte, length⟩
      | .ok (c, length) => (decodeFrom (position + 1) (length - 1) rest).map (c :: ·)

/-- Reads bytes with replacements for flaws. `skip` counts bytes that are read already. -/
def decodeLossy (skip : Nat) : List UInt8 → List Char
  | [] => []
  | byte :: rest =>
    match skip with
    | skip + 1 => decodeLossy skip rest
    | 0 =>
      match first byte rest with
      | .error (_, length) => Char.ofNat 0xfffd :: decodeLossy (length - 1) rest
      | .ok (c, length) => c :: decodeLossy (length - 1) rest

end Utf8

/-- The text of some bytes, or the first flaw. -/
def decodeUtf8 (bytes : List UInt8) : Except Utf8Error String :=
  (Utf8.decodeFrom 0 0 bytes).map String.ofList

/-- The text of some bytes with a replacement character for every flaw. -/
def decodeUtf8Lossy (bytes : List UInt8) : String := String.ofList (Utf8.decodeLossy 0 bytes)

end ModelSchema
