import ModelSchema.Storage.Path
import ModelSchema.Text.IpAddress
import ModelSchema.Text.Url
import ModelSchema.Time.Iso
import ModelSchema.Value

/-!
Reading descriptions: records, and values that are described by a text or by a few numbers.

A record is a dictionary whose keys are texts. A part of it that is missing, or is not of the kind
that is asked for, reads as nothing, so that every reader has a usual value for it.

`literalValue` reads other values, by the name of their kind. Every kind has one usual form: the
value of two descriptions is the same when they mean the same.
-/

namespace ModelSchema

/-! ### Records -/

/-- The entry of a word. -/
def byWord? (entries : List (String × α)) (word : String) : Option α :=
  (entries.find? (·.1 = word)).map (·.2)

namespace Value

/-- The fields of a record. -/
def fields : Value → List (String × Value)
  | .dict entries => entries.filterMap fun (key, value) => key.text?.map (·, value)
  | _ => []

/-- The items of a list. -/
def items : Value → List Value
  | .collection _ items => items
  | _ => []

def textOrEmpty (value : Value) : String := value.text?.getD ""

def intOrZero : Value → Int
  | .int n => n
  | _ => 0

def isTrue : Value → Bool
  | .bool b => b
  | _ => false

/-- A field of a record. -/
def at? (value : Value) (key : String) : Option Value := (value.fields.find? (·.1 = key)).map (·.2)

/-- A field, or nothing as a value. -/
def atOrNull (value : Value) (key : String) : Value := (value.at? key).getD .null

def textAt? (value : Value) (key : String) : Option String := (value.at? key).bind text?

def textAt (value : Value) (key : String) : String := (value.textAt? key).getD ""

def itemsAt (value : Value) (key : String) : List Value := (value.atOrNull key).items

def textsAt (value : Value) (key : String) : List String := (value.itemsAt key).map textOrEmpty

def flagAt (value : Value) (key : String) : Bool := (value.atOrNull key).isTrue

end Value

/-! ### Numbers -/

/-- A double from a number or from its text. -/
def doubleOf (source : Value) : Except Fault Binary64 :=
  match source with
  | .float x => .ok x
  | .bool b => .ok (.ofQuotient (if b then 1 else 0) 1)
  | .int n =>
    match Binary64.ofInt? n with
    | some x => .ok x
    | none => .error .integerTooLarge
  | .str text => (Numeral.double text).mapError .numeral
  | _ => .error (typeFault "float() argument must be a string or a real number")

/-- The decimal that is exactly a double. -/
def Decimal.ofBinary64 (x : Binary64) : Decimal :=
  match x, x.toRatio? with
  | .infinity negative, _ => .infinity negative
  | .finite negative _ _, some (n, d) =>
    let places := d.log2
    .finite negative (n.natAbs * Nat.pow 5 places) (-places)
  | _, _ => .nan false false ""

/-- A decimal from a number or from its text. -/
def decimalOf (source : Value) : Except Fault Decimal :=
  match source with
  | .float x => .ok (.ofBinary64 x)
  | .bool b => .ok (.finite false (if b then 1 else 0) 0)
  | .int n => .ok (.finite (n < 0) n.natAbs 0)
  | source =>
    match Decimal.parse? source.textOrEmpty with
    | some x => .ok x
    | none => .error (.other "InvalidOperation" "[<class 'decimal.ConversionSyntax'>]")

/-! ### Durations -/

/-- A number as a fraction. -/
def fractionOf : Value → Int × Nat
  | .float x => x.toRatio?.getD (0, 1)
  | value => (value.intOrZero, 1)

/-- The number of days a duration can have at most. -/
def mostDays : Nat := 999999999

/-- A duration of days, seconds and microseconds, of which some can be missing. A fraction of a
microsecond is rounded, a half to the even side. -/
def durationOf (parts : List Value) : Except Fault Duration :=
  let terms := (parts.zip [86400000000, 1000000, 1]).map fun (part, unit) =>
    let (n, d) := fractionOf part
    (n * (unit : Int), d)
  let (num, den) := terms.foldl
    (fun (total, scale) (n, d) => (total * d + n * scale, scale * d)) ((0 : Int), 1)
  let size : Int := Binary64.roundHalfEven num.natAbs den
  let duration := Duration.ofMicroseconds (if num < 0 then -size else size)
  if mostDays < duration.days.natAbs then
    .error (.other "OverflowError"
      s!"days={duration.days}; must have magnitude <= {mostDays}")
  else .ok duration

/-! ### Identifiers -/

/-- Groups of digits with hyphens between them. -/
def hyphenated : List Nat → List Char → List Char
  | [], digits => digits
  | size :: sizes, digits => digits.take size ++ '-' :: hyphenated sizes (digits.drop size)

/-- Reads a universal identifier: 32 hexadecimal digits. Braces around them, the names of their
scheme in front and all hyphens do not count. -/
def uuidOf (text : String) : Except Fault String := do
  let text := (text.replace "urn:" "").replace "uuid:" ""
  let chars := Numeral.trimmed (fun c => c = '\x7b' || c = '\x7d') text.toList
  let digits := String.ofList (chars.filter (· != '-'))
  if digits.length != 32 then throw (valueFault "badly formed hexadecimal UUID string")
  let n ← (Numeral.integer 16 digits).mapError .numeral
  if n < 0 then throw (valueFault "int is out of range (need a 128-bit value)")
  let hex := Nat.toDigits 16 n.toNat
  return String.ofList (hyphenated [8, 4, 4, 4] (List.replicate (32 - hex.length) '0' ++ hex))

/-! ### Bytes -/

/-- A text with something else than hexadecimal digits at a place. -/
def notHexadecimal (place : Nat) : Fault :=
  valueFault s!"non-hexadecimal number found in fromhex() arg at position {place}"

/-- Bytes from pairs of hexadecimal digits, the first of which is at a place. There may be blanks
between the pairs. -/
def bytesFrom (place : Nat) : List Char → Except Fault (List UInt8)
  | [] => .ok []
  | a :: rest =>
    if Numeral.isPlainBlank a then bytesFrom (place + 1) rest
    else
      match hexDigit? a, rest with
      | some high, b :: rest =>
        match hexDigit? b with
        | some low => do
          let bytes ← bytesFrom (place + 2) rest
          return (high * 16 + low).toUInt8 :: bytes
        | none => .error (notHexadecimal (place + 1))
      | some _, [] => .error (notHexadecimal (place + 1))
      | none, _ => .error (notHexadecimal place)

/-- Bytes from their hexadecimal digits. -/
def bytesOf (text : String) : Except Fault (List UInt8) :=
  match text.toList.findIdx? fun c => 0x80 ≤ c.toNat with
  | some place => .error (notHexadecimal place)
  | none => bytesFrom 0 text.toList

/-! ### All kinds -/

/-- An address from a number or from its text. -/
def addressOf (bits version : Nat) (ofNumber : Nat → String)
    (ofText : String → Except Fault String) (source : Value) : Except Fault String :=
  match source with
  | .int n => (addressOfNumber bits version n).map ofNumber
  | source => ofText source.textOrEmpty

/-- A value of a kind that needs nothing but its text or its numbers. -/
def literalValue (kind : String) (source : Value) : Except Fault Value :=
  let text := source.textOrEmpty
  match kind, source.items with
  | "float", _ => (doubleOf source).map .float
  | "decimal", _ => (decimalOf source).map .decimal
  | "uuid", _ => (uuidOf text).map .uuid
  | "date", _ => (Date.ofText text).map .date
  | "datetime", _ => (DateTime.ofText text).map .datetime
  | "time", _ => (Clock.ofText text).map .time
  | "url", _ => (Url.normalText text).map .url
  | "ipv4", _ =>
    (addressOf 32 4 Ipv4.text (fun t => (Ipv4.ofText t).map Ipv4.text) source).map .ipv4
  | "ipv6", _ =>
    (addressOf 128 6 (fun n => Ipv6.text (Ipv6.ofNumber n)) Ipv6.normalText source).map .ipv6
  | "path", _ => .ok (.path (FilePath.ofText text).text)
  | "bytes", _ => (bytesOf text).map .bytes
  | "timedelta", parts => (durationOf parts).map .duration
  | "instant", [seconds] => .ok (.instant ⟨seconds.intOrZero, 0⟩)
  | "instant", [seconds, nanos] => .ok (.instant ⟨seconds.intOrZero, nanos.intOrZero⟩)
  | "complex", [re] => return .complex (← doubleOf re) .zero
  | "complex", [re, im] => return .complex (← doubleOf re) (← doubleOf im)
  | _, _ => .ok .null

end ModelSchema
