import ModelSchema.Failure

/-!
Internet addresses of both lengths, as numbers and as texts.

* `Ipv4.ofText`, `Ipv6.ofText`: read an address; every refusal names its cause.
* `Ipv4.text`, `Ipv6.text`: the usual text. Of the longest run of zeros in a long address, the first
  if there are several, only two colons are written.
-/

namespace ModelSchema

/-- A text that is no address. -/
def addressFault (text : String) : Fault := .other "AddressValueError" text

/-- An address from its number, which has `bits` bits. -/
def addressOfNumber (bits version : Nat) (n : Int) : Except Fault Nat :=
  if n < 0 then .error (addressFault s!"{n} (< 0) is not permitted as an IPv{version} address")
  else if Nat.pow 2 bits ≤ n.toNat then
    .error (addressFault s!"{n} (>= 2**{bits}) is not permitted as an IPv{version} address")
  else .ok n.toNat

/-! ### Short addresses -/

namespace Ipv4

/-- The number of one part of an address, or why it is none. -/
def octet (text : String) : Except String Nat :=
  let digits := text.toList
  if digits.isEmpty then .error "Empty octet not permitted"
  else if !digits.all Char.isDigit then
    .error s!"Only decimal digits permitted in {quoted text}"
  else if 3 < digits.length then .error s!"At most 3 characters permitted in {quoted text}"
  else if text != "0" && digits.head? = some '0' then
    .error s!"Leading zeros are not permitted in {quoted text}"
  else
    let n := digitsValue digits
    if 255 < n then .error s!"Octet {n} (> 255) not permitted" else .ok n

/-- Reads an address of four numbers with dots between them. -/
def ofText (text : String) : Except Fault Nat :=
  if text.toList.contains '/' then .error (addressFault s!"Unexpected '/' in {quoted text}")
  else if text.isEmpty then .error (addressFault "Address cannot be empty")
  else
    let parts := text.splitOn "."
    if parts.length != 4 then
      .error (addressFault s!"Expected 4 octets in {quoted text}")
    else
      match parts.mapM octet with
      | .ok octets => .ok (octets.foldl (fun n octet => n * 256 + octet) 0)
      | .error cause => .error (addressFault s!"{cause} in {quoted text}")

/-- The text of an address. -/
def text (n : Nat) : String :=
  ".".intercalate ([n / 16777216, n / 65536 % 256, n / 256 % 256, n % 256].map fun octet =>
    s!"{octet}")

end Ipv4

/-! ### Long addresses -/

namespace Ipv6

/-- The number of one part of an address, or why it is none. -/
def hextet (text : String) : Except String Nat :=
  let digits := text.toList
  if !digits.all fun c => (hexDigit? c).isSome then
    .error s!"Only hex digits permitted in {quoted text}"
  else if 4 < digits.length then .error s!"At most 4 characters permitted in {quoted text}"
  else .ok (hexValue digits)

/-- The parts with a short address in the last place as two parts of their own. -/
def withoutDots (whole : String) (parts : List String) : Except String (List String) :=
  let last := parts.getLastD ""
  if !last.toList.contains '.' then .ok parts
  else
    match Ipv4.ofText last with
    | .ok n =>
      let hex (n : Nat) : String := String.ofList (Nat.toDigits 16 n)
      .ok (parts.dropLast ++ [hex (n / 65536), hex (n % 65536)])
    | .error fault => .error s!"{fault.message} in {quoted whole}"

/-- The places of empty parts that are neither the first nor the last. -/
def gaps (parts : List String) : List Nat :=
  (List.range parts.length).filter fun i =>
    0 < i && i + 1 < parts.length && (parts.getD i "").isEmpty

/-- The parts in front of the gap and those behind it, with the number of parts left out. -/
def split (whole : String) (parts : List String) :
    Except String (List String × Nat × List String) := do
  let leading := s!"Leading ':' only permitted as part of '::' in {quoted whole}"
  let trailing := s!"Trailing ':' only permitted as part of '::' in {quoted whole}"
  let startsEmpty := parts.head? = some ""
  let endsEmpty := parts.getLast? = some ""
  match gaps parts with
  | [] =>
    if parts.length != 8 then
      throw s!"Exactly 8 parts expected without '::' in {quoted whole}"
    else if startsEmpty then throw leading
    else if endsEmpty then throw trailing
    else return (parts, 0, [])
  | [gap] =>
    let front := parts.take gap
    let back := parts.drop (gap + 1)
    if startsEmpty && gap != 1 then throw leading
    else if endsEmpty && back.length != 1 then throw trailing
    else
      let front := if startsEmpty then [] else front
      let back := if endsEmpty then [] else back
      if 8 ≤ front.length + back.length then
        throw s!"Expected at most 7 other parts with '::' in {quoted whole}"
      else return (front, 8 - front.length - back.length, back)
  | _ => throw s!"At most one '::' permitted in {quoted whole}"

/-- The parts of an address as numbers. -/
def hextets (text : String) : Except String (List Nat) := do
  let parts := text.splitOn ":"
  if text.isEmpty then throw "Address cannot be empty"
  else if parts.length < 3 then throw s!"At least 3 parts expected in {quoted text}"
  else
    let parts ← withoutDots text parts
    if 9 < parts.length then throw s!"At most 8 colons permitted in {quoted text}"
    else
      let (front, skipped, back) ← split text parts
      let numbers (parts : List String) : Except String (List Nat) :=
        (parts.mapM hextet).mapError fun cause => s!"{cause} in {quoted text}"
      let front ← numbers front
      let back ← numbers back
      return front ++ List.replicate skipped 0 ++ back

/-- The longest run of zeros, the first if there are several: its place and its length. -/
def longestRun (numbers : List Nat) : Nat × Nat :=
  (List.range numbers.length).foldl (fun best place =>
    let length := ((numbers.drop place).takeWhile (· = 0)).length
    if best.2 < length then (place, length) else best) (0, 0)

/-- The text of an address given by its eight parts. -/
def text (numbers : List Nat) : String :=
  let hex (numbers : List Nat) : String :=
    ":".intercalate (numbers.map fun n => String.ofList (Nat.toDigits 16 n))
  let (place, length) := longestRun numbers
  if length < 2 then hex numbers
  else hex (numbers.take place) ++ "::" ++ hex (numbers.drop (place + length))

/-- The eight parts of a number. -/
def ofNumber (n : Nat) : List Nat :=
  (List.range 8).map fun i => n / Nat.pow 65536 (7 - i) % 65536

/-- Reads an address, behind which the name of a zone may stand after a percent sign, and gives its
usual text. -/
def normalText (text : String) : Except Fault String :=
  if text.toList.contains '/' then .error (addressFault s!"Unexpected '/' in {quoted text}")
  else
    let address := String.ofList (text.toList.takeWhile (· != '%'))
    let zone := text.toList.drop address.length
    if zone.length = 1 || (zone.drop 1).contains '%' then
      .error (addressFault s!"Invalid IPv6 address: \"{quoted text}\"")
    else
      match hextets address with
      | .ok numbers => .ok (Ipv6.text numbers ++ String.ofList zone)
      | .error cause => .error (addressFault cause)

end Ipv6

end ModelSchema
