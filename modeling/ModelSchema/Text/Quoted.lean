import ModelSchema.Text.Printable

/-!
Quoted text in messages.

* `quoted`: single quotes, or double quotes when the text holds a single quote and no double one;
  control and hidden characters are written as escapes.
* `quotedBytes`: the same for bytes, behind a `b`.
-/

namespace ModelSchema

/-- A number in lower-case hexadecimal, filled with zeros to a width. -/
def hexPadded (width n : Nat) : List Char :=
  let digits := Nat.toDigits 16 n
  List.replicate (width - digits.length) '0' ++ digits

/-- The quote that needs the fewer escapes, the single one if there is a choice. -/
def chooseQuote (text : List Char) : Char :=
  if text.contains '\'' && !text.contains '"' then '"' else '\''

/-- The escape of a character by its code. -/
def codeEscape (code : Nat) : List Char :=
  if code < 0x100 then ['\\', 'x'] ++ hexPadded 2 code
  else if code < 0x10000 then ['\\', 'u'] ++ hexPadded 4 code
  else ['\\', 'U'] ++ hexPadded 8 code

/-- One character between quotes. -/
def quotedChar (quote c : Char) : List Char :=
  if c = quote ∨ c = '\\' then ['\\', c]
  else if c = '\n' then ['\\', 'n']
  else if c = '\r' then ['\\', 'r']
  else if c = '\t' then ['\\', 't']
  else if isPrintable c then [c]
  else codeEscape (codeOfChar c)

/-- A text between quotes, with escapes. -/
def quoted (text : String) : String :=
  let chars := text.toList
  let quote := chooseQuote chars
  String.ofList (quote :: chars.flatMap (quotedChar quote) ++ [quote])

/-- One byte between quotes. -/
def quotedByte (quote : Char) (byte : UInt8) : List Char :=
  let c := Char.ofNat byte.toNat
  if c = quote ∨ c = '\\' then ['\\', c]
  else if c = '\n' then ['\\', 'n']
  else if c = '\r' then ['\\', 'r']
  else if c = '\t' then ['\\', 't']
  else if 0x20 ≤ byte.toNat ∧ byte.toNat < 0x7f then [c]
  else codeEscape byte.toNat

/-- Bytes between quotes, with escapes. -/
def quotedBytes (bytes : List UInt8) : String :=
  let quote := chooseQuote (bytes.map fun byte => Char.ofNat byte.toNat)
  String.ofList ('b' :: quote :: bytes.flatMap (quotedByte quote) ++ [quote])

end ModelSchema
