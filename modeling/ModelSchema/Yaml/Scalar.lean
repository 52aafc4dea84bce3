import ModelSchema.Text.Base64
import ModelSchema.Text.Case
import ModelSchema.Yaml.Node
import ModelSchema.Yaml.Resolution

/-!
The values of YAML scalars.

`YamlScalar.value` gives the value of a scalar by its tag: numbers in the spellings of YAML, words
for truth values, moments, and bytes in base 64.
-/

namespace ModelSchema

namespace YamlScalar

/-! ### Numbers -/

/-- An integer in a base. -/
def numeral (base : Nat) (digits : List Char) : Except Fault Int :=
  (Numeral.integer base (String.ofList digits)).mapError .numeral

/-- A double in decimal. -/
def decimal (digits : List Char) : Except Fault Binary64 :=
  (Numeral.double (String.ofList digits)).mapError .numeral

/-- A sign and what follows it. A number needs at least one character. -/
def splitSign : List Char → Except Fault (Bool × List Char)
  | [] => .error .noCharacterThere
  | '-' :: rest => .ok (true, rest)
  | '+' :: rest => .ok (false, rest)
  | text => .ok (false, text)

/-- The value of an integer behind its sign: in base 2, 8, 10 or 16, or in groups of sixty. -/
def unsignedInteger (text : List Char) : Except Fault Int :=
  match text with
  | [] => .error .noCharacterThere
  | ['0'] => .ok 0
  | '0' :: 'b' :: digits => numeral 2 digits
  | '0' :: 'x' :: digits => numeral 16 digits
  | '0' :: digits => numeral 8 ('0' :: digits)
  | text =>
    (PlainScalar.parts ':' text).foldlM (fun n group => do return n * 60 + (← numeral 10 group)) 0

/-- The value of an integer. Underscores do not count. -/
def integer (text : String) : Except Fault Value := do
  let (negative, digits) ← splitSign (text.toList.filter (· != '_'))
  let n ← unsignedInteger digits
  pure (.int (if negative then -n else n))

/-- The value of groups of sixty, the last group first. -/
def sexagesimal (base : Nat) (total : Binary64) : List Binary64 → Except Fault Binary64
  | [] => .ok total
  | group :: rest =>
    match Binary64.ofInt? base with
    | some factor => sexagesimal (base * 60) (total.add (group.mul factor)) rest
    | none => .error .integerTooLarge

/-- The value of a double. Underscores and case do not count. -/
def double (text : String) : Except Fault Value := do
  let plain := lowerCase (String.ofList (text.toList.filter (· != '_')))
  let (negative, body) ← splitSign plain.toList
  let size ←
    if body = ".inf".toList then pure (Binary64.infinity false)
    else if body = ".nan".toList then pure .nan
    else
      match PlainScalar.parts ':' body with
      | [body] => decimal body
      | groups => do sexagesimal 1 .zero (← groups.mapM decimal).reverse
  pure (.float (if negative then size.neg else size))

/-! ### Words, moments and bytes -/

/-- The value of a word that is true or false. -/
def truth (text : String) : Except Fault Value :=
  let word := lowerCase text
  if PlainScalar.trueWords.contains word then .ok (.bool true)
  else if PlainScalar.falseWords.contains word then .ok (.bool false)
  else .error (.missingKey word)

/-- The offset of a zone in microseconds, if it is less than a day. -/
def zoneOffset (minutes : Int) : Except Fault Int :=
  let offset := minutes * 60000000
  if minutes.natAbs < 1440 then .ok offset
  else .error (.offsetOutOfRange (.ofMicroseconds offset))

/-- The value of a moment: a date, or a date and time. -/
def moment (text : String) : Except Fault Value :=
  match YamlMoment.scan? text.toList with
  | none => .error (.missingAttribute "NoneType" "groupdict")
  | some moment => do
    match moment.clock with
    | none => return .date (← (Date.make moment.year moment.month moment.day).mapError .calendar)
    | some clock =>
      let offset ← clock.offset.mapM zoneOffset
      let date ← (Date.make moment.year moment.month moment.day).mapError .calendar
      let clock ←
        (Clock.make clock.hour clock.minute clock.second clock.microsecond offset).mapError
          .calendar
      return .datetime ⟨date, clock⟩

/-- What can not be told in ASCII: the first run of other characters. -/
def outsideAscii (text : List Char) : Option String :=
  let isOther (c : Char) : Bool := 0x80 ≤ c.toNat
  let start := (text.takeWhile fun c => !isOther c).length
  match (text.drop start).takeWhile isOther with
  | [] => none
  | [c] =>
    some ("'ascii' codec can't encode character '" ++ String.ofList (codeEscape (codeOfChar c))
      ++ s!"' in position {start}: ordinal not in range(128)")
  | run =>
    some (s!"'ascii' codec can't encode characters in position {start}-{start + run.length - 1}: "
      ++ "ordinal not in range(128)")

/-- The value of base 64 digits at a place. -/
def binary (mark : YamlMark) (text : String) : Except YamlError Value :=
  match outsideAscii text.toList with
  | some problem =>
    .error (.simple .constructing s!"failed to convert base64 data into ascii: {problem}" mark)
  | none =>
    match Base64.decode text.toList with
    | .ok bytes => .ok (.bytes bytes)
    | .error error =>
      .error (.simple .constructing s!"failed to decode base64 data: {error.message}" mark)

/-! ### By tag -/

/-- A kind that nothing can be made of. -/
def unknownTag (tag : YamlTag) (mark : YamlMark) : YamlError :=
  let full :=
    match tag with
    | .other text => text
    | tag => YamlTag.standardBase ++ tag.name
  .simple .constructing s!"could not determine a constructor for the tag {quoted full}" mark

/-- The value of a scalar at a place. -/
def value (mark : YamlMark) (tag : YamlTag) (text : String) : Except YamlError Value :=
  match tag with
  | .null => .ok .null
  | .bool => (truth text).mapError .value
  | .int => (integer text).mapError .value
  | .float => (double text).mapError .value
  | .str => .ok (.str text)
  | .binary => binary mark text
  | .timestamp => (moment text).mapError .value
  | tag => .error (unknownTag tag mark)

end YamlScalar

end ModelSchema
