import ModelSchema.Text.Case
import ModelSchema.Text.CharClass
import ModelSchema.Text.Identifier
import ModelSchema.Text.Printable

/-!
Domain names of any script, in ASCII.

`domainToAscii?` maps a name to its usual form and writes every label that is not ASCII in Punycode.
A label that is in Punycode already has to be the written form of a label in usual form.

Characters count as the same when they differ in case, or in width, or are ligatures of the first
block behind ASCII. A few characters do not count at all.

Punycode is the form of texts of any characters with ASCII letters, digits and hyphens:
`Punycode.encode` gives the ASCII characters, then the places and codes of all others, and
`Punycode.decode?` the text of a written form. Characters that are not ASCII are inserted in the
order of their codes. What is written for each is how far it is from the one before, as a number
whose last digit is recognised by being small; how small depends on the numbers so far.
-/

namespace ModelSchema

namespace Punycode

/-! ### Digits -/

/-- The character of a digit below 36: letters first. -/
def digitChar (digit : Nat) : Char :=
  if digit < 26 then Char.ofNat ('a'.toNat + digit) else Char.ofNat ('0'.toNat + digit - 26)

/-- The digit a character stands for. -/
def digit? (c : Char) : Option Nat :=
  if c.isLower then some (c.toNat - 'a'.toNat)
  else if c.isUpper then some (c.toNat - 'A'.toNat)
  else if c.isDigit then some (c.toNat - '0'.toNat + 26)
  else none

/-- The digit from which on another digit follows, at a place counted in steps of 36. -/
def threshold (place bias : Nat) : Nat :=
  if place ≤ bias then 1 else if bias + 26 ≤ place then 26 else place - bias

theorem threshold_pos (place bias : Nat) : 1 ≤ threshold place bias := by
  unfold threshold
  split
  · omega
  · split <;> omega

theorem threshold_le (place bias : Nat) : threshold place bias ≤ 26 := by
  unfold threshold
  split
  · omega
  · split <;> omega

/-- Divides a distance by 35 until it is small, and counts the divisions in steps of 36. -/
def scaled (distance steps : Nat) : Nat × Nat :=
  if 455 < distance then scaled (distance / 35) (steps + 36) else (distance, steps)
termination_by distance
decreasing_by exact Nat.div_lt_self (by omega) (by omega)

/-- The bias after a distance was written, when there are `count` characters. -/
def adapted (distance count : Nat) (isFirst : Bool) : Nat :=
  let distance := if isFirst then distance / 700 else distance / 2
  let (rest, steps) := scaled (distance + distance / count) 0
  steps + 36 * rest / (rest + 38)

/-! ### Writing -/

/-- The digits of a number, from a place on. -/
def digits (bias place n : Nat) : List Char :=
  let t := threshold place bias
  if n < t then [digitChar n]
  else digitChar (t + (n - t) % (36 - t)) :: digits bias (place + 36) ((n - t) / (36 - t))
termination_by n
decreasing_by
  have := threshold_pos place bias
  have := threshold_le place bias
  calc (n - threshold place bias) / (36 - threshold place bias)
      ≤ n - threshold place bias := Nat.div_le_self _ _
    _ < n := by omega

/-- How far the writing of a text is: the digits so far, the distance from the last insertion, the
bias, and the number of characters that are written. -/
structure Progress where
  written : List Char
  distance : Nat
  bias : Nat
  count : Nat

/-- Passes one character while those of a code are written. -/
def pass (basics code : Nat) (p : Progress) (c : Char) : Progress :=
  if c.toNat < code then { p with distance := p.distance + 1 }
  else if c.toNat = code then
    { written := p.written ++ digits p.bias 36 p.distance
      distance := 0
      bias := adapted p.distance (p.count + 1) (p.count = basics)
      count := p.count + 1 }
  else p

/-- Writes the characters of some codes, which ascend from `next` on. -/
def writeCodes (text : List Char) (basics : Nat) : List Nat → Nat → Progress → Progress
  | [], _, p => p
  | code :: codes, next, p =>
    let p := { p with distance := p.distance + (code - next) * (p.count + 1) }
    let p := text.foldl (pass basics code) p
    writeCodes text basics codes (code + 1) { p with distance := p.distance + 1 }

/-- The written form of a text. -/
def encode (text : List Char) : List Char :=
  let basics := text.filter fun c => c.toNat < 0x80
  let codes := ((text.filter fun c => 0x80 ≤ c.toNat).map Char.toNat).mergeSort (· ≤ ·)
  let p := writeCodes text basics.length codes.eraseDups 0x80 ⟨[], 0, 72, basics.length⟩
  basics ++ (if basics.isEmpty then [] else ['-']) ++ p.written

/-! ### Reading -/

/-- Reads one number from a place on, and gives the rest of the text. -/
def number? (bias : Nat) : List Char → Nat → Nat → Nat → Option (Nat × List Char)
  | [], _, _, _ => none
  | c :: rest, place, weight, n =>
    match digit? c with
    | none => none
    | some d =>
      let t := threshold place bias
      if d < t then some (n + d * weight, rest)
      else number? bias rest (place + 36) (weight * (36 - t)) (n + d * weight)

theorem length_of_number? {bias : Nat} {text : List Char} {place weight n : Nat}
    {result : Nat × List Char} (h : number? bias text place weight n = some result) :
    result.2.length < text.length := by
  induction text generalizing place weight n with
  | nil => simp [number?] at h
  | cons c rest ih =>
    simp only [number?] at h
    split at h
    · simp at h
    · split at h
      · rw [← Option.some.inj h]; simp
      · have := ih h
        simp only [List.length_cons]
        omega

/-- Inserts the characters whose distances a text gives. -/
def insertAll (bias code place : Nat) (done : List Char) (text : List Char) :
    Option (List Char) :=
  match text with
  | [] => some done
  | c :: rest =>
    match _h : number? bias (c :: rest) 36 1 place with
    | none => none
    | some (reached, rest) =>
      let count := done.length + 1
      let code := code + reached / count
      if code.isValidChar then
        insertAll (adapted (reached - place) count (place = 0)) code (reached % count + 1)
          (done.insertIdx (reached % count) (Char.ofNat code)) rest
      else none
termination_by text.length
decreasing_by simpa using length_of_number? _h

/-- The text of a written form. -/
def decode? (text : List Char) : Option (List Char) :=
  let tail := (text.reverse.takeWhile (· != '-')).reverse
  let basics := (text.take (text.length - tail.length)).dropLast
  insertAll 72 0x80 0 basics tail

end Punycode

/-! ### Domain names -/

namespace DomainName

/-- The characters that do not count in a name. -/
def ignoredCodes : List Nat := [0xad, 0x34f, 0x200b, 0x2060, 0x2064, 0xfeff]

/-- The full stops of other scripts. -/
def fullStops : List Nat := [0x3002, 0xff0e, 0xff61]

/-- Characters of the block behind ASCII that stand for other characters. -/
def compatible : List (Nat × String) :=
  [(0xaa, "a"), (0xb2, "2"), (0xb3, "3"), (0xb5, "μ"), (0xb9, "1"), (0xba, "o"),
    (0xbc, "1⁄4"), (0xbd, "1⁄2"), (0xbe, "3⁄4")]

/-- The characters that a character of a name stands for. -/
def mapped (c : Char) : List Char :=
  let code := c.toNat
  if code < 0x80 then [c.toLower]
  else if ignoredCodes.contains code || (0xfe00 ≤ code && code ≤ 0xfe0f) then []
  else if fullStops.contains code then ['.']
  else if 0xff01 ≤ code && code ≤ 0xff5e then [(Char.ofNat (code - 0xfee0)).toLower]
  else
    match compatible.find? (·.1 = code) with
    | some (_, text) => text.toList
    | none => if code = 0x1e9e then "ss".toList else lowerChar c

/-- The characters of ASCII that no name holds. -/
def isForbidden (c : Char) : Bool :=
  c.toNat ≤ 0x20 || c.toNat = 0x7f || "%#/:<>?@[\\]^|".toList.contains c

/-- Whether a character can stand in a label in usual form. -/
def isLabelChar (c : Char) : Bool :=
  if c.toNat < 0x80 then !isForbidden c
  else isPrintable c && c.toNat != 0xfffd && mapped c = [c]

/-- Whether a character is a mark on the one in front of it. -/
def isMark (c : Char) : Bool :=
  0x80 ≤ c.toNat && isInIdentifier c && !startsIdentifier c && !isWordChar c

/-- Whether a label is in usual form. -/
def isLabel (label : List Char) : Bool :=
  label.all isLabelChar && !label.head?.any isMark

/-- What stands in front of a label in Punycode. -/
def punycodeMark : List Char := "xn--".toList

/-- A label in ASCII. -/
def labelToAscii? (label : List Char) : Option (List Char) :=
  if punycodeMark.isPrefixOf label then
    match Punycode.decode? (label.drop punycodeMark.length) with
    | some text =>
      if text.all (fun c => c.toNat < 0x80) || !isLabel text
          || punycodeMark ++ Punycode.encode text != label then none
      else some label
    | none => none
  else if !isLabel label then none
  else if label.all fun c => c.toNat < 0x80 then some label
  else some (punycodeMark ++ Punycode.encode label)

end DomainName

/-- A domain name in ASCII. -/
def domainToAscii? (name : String) : Option String :=
  let text := String.ofList (name.toList.flatMap DomainName.mapped)
  ((text.splitOn ".").mapM fun label => DomainName.labelToAscii? label.toList).map fun labels =>
    ".".intercalate (labels.map String.ofList)

end ModelSchema
