import ModelSchema.Class.Declare
import ModelSchema.Text.IpAddress
import ModelSchema.Text.Utf8

/-!
Enumerations: their names, and the values of their members.

* `memberEntries`: the entries that are members, among those that are only attributes.
* `ClassTable.mixedValue`: the value of a member as its mixin makes it.
* `ClassTable.addMember`: an equal value is another name of the member that has it.
* `ClassTable.declareEnumeration`.
-/

namespace ModelSchema

/-! ### Names -/

namespace MemberName

/-- Whether a name stands between single underscores. -/
def isReserved (name : String) : Bool :=
  match name.toList, name.toList.reverse with
  | '_' :: a :: _ :: _, '_' :: b :: _ => a != '_' && b != '_'
  | _, _ => false

/-- Whether a name stands between double underscores. -/
def isSpecial (name : String) : Bool :=
  match name.toList, name.toList.reverse with
  | '_' :: '_' :: a :: _ :: _ :: _, '_' :: '_' :: b :: _ => a != '_' && b != '_'
  | _, _ => false

/-- Whether a name is private to the class of a name. -/
def isPrivate (owner name : String) : Bool :=
  let start := "_" ++ owner ++ "__"
  name.startsWith start && start.length < name.length && !name.endsWith "__"

/-- The reserved names that an enumeration can set. -/
def settable : List String :=
  ["_order_", "_generate_next_value_", "_missing_", "_ignore_", "_iter_member_",
    "_iter_member_by_value_", "_iter_member_by_def_"]

/-- The names that no member can have. -/
def forbidden : List String := ["mro", ""]

end MemberName

/-- The entries of an enumeration that are members. A name can not be given twice. -/
def memberEntries (table : ClassTable) (owner : String) (entries : List (String × Value)) :
    Except Fault (List (String × Value)) := do
  let members ← entries.foldlM (fun members (name, value) => do
    if MemberName.isPrivate owner name then return members
    else if MemberName.isReserved name then
      if MemberName.settable.contains name then return members
      else
        throw (valueFault <|
          s!"_sunder_ names, such as {quoted name}, are reserved for future Enum use")
    else if MemberName.isSpecial name then return members
    else
      match byName? members name with
      | some first => throw (typeFault s!"{quoted name} already defined as {first.displayed table}")
      | none => return members ++ [(name, value)]) []
  let bad := members.filter fun (name, _) => MemberName.forbidden.contains name
  if bad.isEmpty then return members
  else
    let names := ",".intercalate (bad.map fun (name, _) => quoted name)
    throw (valueFault s!"invalid enum member name(s) {names}")
where
  byName? (members : List (String × Value)) (name : String) : Option Value :=
    (members.find? (·.1 = name)).map (·.2)

/-! ### Values -/

/-- What a member is made from: the items of a tuple, or the value itself. -/
def makingParts : Value → List Value
  | .collection .tuple items => items
  | value => [value]

/-- The characters of bytes that stand for a numeral. -/
def numeralText? (data : List UInt8) : Option String :=
  if data.all (· < 0x80) then some (String.ofList (data.map fun byte => Char.ofNat byte.toNat))
  else none

/-- A numeral from a text or from bytes. -/
def numeralOf (read : String → Except NumeralError α) (message : String) :
    Value → Option (Except Fault α)
  | .bytes data =>
    let fault := valueFault (message ++ quotedBytes data)
    match numeralText? data with
    | some text => some ((read text).mapError fun _ => fault)
    | none => some (.error fault)
  | value => value.text?.map fun text => (read text).mapError .numeral

/-- The integer part of a fraction. -/
def integerPart : Option (Int × Nat) → Int
  | some (n, d) => n.tdiv d
  | none => 0

/-- A number as an integer. -/
def integerFrom? : Value → Option (Except Fault Int)
  | .bool b => some (.ok (if b then 1 else 0))
  | .int n => some (.ok n)
  | .float x =>
    some <| match x with
      | .nan => .error (valueFault "cannot convert float NaN to integer")
      | .infinity _ => .error (.other "OverflowError" "cannot convert float infinity to integer")
      | x => .ok (integerPart x.toRatio?)
  | .decimal x =>
    some <| match x with
      | .nan .. => .error (valueFault "cannot convert NaN to integer")
      | .infinity _ => .error (.other "OverflowError" "cannot convert Infinity to integer")
      | x => .ok (integerPart x.toRatio?)
  | .uuid text =>
    let digits := text.toList.filterMap hexDigit?
    some (.ok (Int.ofNat (digits.foldl (fun n digit => n * 16 + digit) 0)))
  | .ipv4 text => some ((Ipv4.ofText text).map Int.ofNat)
  | .ipv6 text =>
    some (((Ipv6.hextets text).mapError addressFault).map fun numbers =>
      Int.ofNat (numbers.foldl (fun n number => n * 0x10000 + number) 0))
  | .member _ mixin _ value =>
    match mixin with
    | .int | .float | .intFlag => integerFrom? value
    | _ => none
  | _ => none

/-- A number as a double. -/
def doubleFrom? : Value → Option (Except Fault Binary64)
  | .bool b => some (.ok (.ofQuotient (if b then 1 else 0) 1))
  | .int n => some ((Binary64.ofInt? n).elim (.error .integerTooLarge) .ok)
  | .float x => some (.ok x)
  | .decimal x =>
    some <| match x with
      | .nan _ true _ => .error (valueFault "cannot convert signaling NaN to float")
      | x => .ok x.toBinary64
  | .member _ mixin _ value =>
    match mixin with
    | .int | .float | .intFlag => doubleFrom? value
    | _ => none
  | _ => none

namespace ClassTable

/-- An integer from a numeral in a base that is given. -/
def integerInBase (table : ClassTable) (value base : Value) : Except Fault Int :=
  let number : Option Int :=
    match base with
    | .bool b => some (if b then 1 else 0)
    | .int n => some n
    | _ => none
  match number with
  | some base =>
    if base < 0 || base = 1 || 36 < base then
      .error (valueFault "int() base must be >= 2 and <= 36, or 0")
    else
      let base := base.toNat
      (numeralOf (Numeral.integer base) s!"invalid literal for int() with base {base}: " value).getD
        (.error (typeFault "int() can't convert non-string with explicit base"))
  | none =>
    .error (typeFault
      s!"{quoted (base.operandName table)} object cannot be interpreted as an integer")

/-- An integer from what a member is made from. -/
def madeInteger (table : ClassTable) : List Value → Except Fault Int
  | [] => .ok 0
  | [value] =>
    ((integerFrom? value).orElse fun _ =>
      numeralOf (Numeral.integer 10) "invalid literal for int() with base 10: " value).getD
        (.error (typeFault <| "int() argument must be a string, a bytes-like object or a real "
          ++ s!"number, not {quoted (value.operandName table)}"))
  | [value, base] => table.integerInBase value base
  | parts => .error (typeFault s!"int() takes at most 2 arguments ({parts.length} given)")

/-- A double from what a member is made from. -/
def madeDouble (table : ClassTable) : List Value → Except Fault Binary64
  | [] => .ok .zero
  | [value] =>
    ((doubleFrom? value).orElse fun _ =>
      numeralOf Numeral.double "could not convert string to float: " value).getD
        (.error (typeFault <| "float() argument must be a string or a real number, "
          ++ s!"not {quoted (value.operandName table)}"))
  | parts => .error (typeFault s!"float expected at most 1 argument, got {parts.length}")

/-- The names of the encoding of texts. -/
def encodingNames : List String := ["utf-8", "utf8", "utf_8"]

/-- A part of a text's making that has to be a text itself. -/
def textOption (table : ClassTable) (option : String) (value : Value) : Except Fault String :=
  match value.text? with
  | some text => .ok text
  | none =>
    let name := if value matches .null then "None" else value.operandName table
    .error (typeFault s!"str() argument {quoted option} must be str, not {name}")

/-- A text from bytes and the name of their encoding. -/
def decodedText (table : ClassTable) (value : Value) (encoding : String) : Except Fault String :=
  match value with
  | .bytes data =>
    if encodingNames.contains (encoding.map Char.toLower) then
      (decodeUtf8 data).mapError fun error =>
        .invalidUtf8 error.byte.toNat error.position error.flaw.words
    else .error (.other "LookupError" s!"unknown encoding: {encoding}")
  | value =>
    if value.text?.isSome then .error (typeFault "decoding str is not supported")
    else
      .error (typeFault
        s!"decoding to str: need a bytes-like object, {value.operandName table} found")

/-- A text from what a member is made from. -/
def madeText (table : ClassTable) : List Value → Except Fault String
  | [] => .ok ""
  | [value] => .ok (value.shown table)
  | value :: encoding :: rest =>
    let number := rest.length + 2
    if 3 < number then .error (typeFault s!"str() takes at most 3 arguments ({number} given)")
    else do
      let encoding ← table.textOption "encoding" encoding
      for handler in rest do discard <| table.textOption "errors" handler
      table.decodedText value encoding

/-- The value of a member as its mixin makes it. -/
def mixedValue (table : ClassTable) (mixin : Mixin) (value : Value) : Except Fault Value :=
  let parts := makingParts value
  match mixin with
  | .str => (table.madeText parts).map .str
  | .int | .intFlag => (table.madeInteger parts).map .int
  | .float => (table.madeDouble parts).map .float
  | .none | .flag => .ok value

/-! ### Members -/

/-- Why something that is no integer can not be told apart into bits. -/
def bitsFault (table : ClassTable) (value : Value) : Fault :=
  let name := quoted (value.operandName table)
  match value with
  | .float _ | .decimal _ | .complex .. | .ipv4 _ | .ipv6 _ =>
    typeFault s!"unsupported operand type(s) for &=: {name} and {name}"
  | _ => typeFault ("unsupported operand type(s) for -: " ++ name ++ " and 'int'")

/-- Whether a value has exactly one bit. Zero of any kind has none. -/
def hasOneBit (table : ClassTable) (value : Value) : Except Fault Bool :=
  let whole : Option Int :=
    match value with
    | .bool b => some (if b then 1 else 0)
    | .int n => some n
    | .member _ .int _ (.int n) | .member _ .intFlag _ (.int n) => some n
    | _ => none
  match whole with
  | some n => .ok (decide (0 < n) && n.toNat = Nat.pow 2 n.toNat.log2)
  | none => if value.same (.int 0) then .ok false else .error (table.bitsFault value)

/-- Whether iteration meets a member of the mixin with the value. -/
def isIterated (table : ClassTable) (mixin : Mixin) (value : Value) : Except Fault Bool :=
  match mixin with
  | .flag | .intFlag => table.hasOneBit value
  | _ => .ok true

/-- Adds a member: an equal value is another name for the member that has it. -/
def addMember (table : ClassTable) (info : EnumInfo) (entry : String × Value) :
    Except Fault EnumInfo := do
  let (name, value) := entry
  let value ← table.mixedValue info.mixin value
  match info.names.find? fun (_, m) => m.value.same value with
  | some (_, m) => return { info with names := info.names ++ [(name, m)] }
  | none =>
    let m : EnumMember := ⟨name, value⟩
    let iterated ← table.isIterated info.mixin value
    return { info with
      members := if iterated then info.members ++ [m] else info.members
      names := info.names ++ [(name, m)] }

/-! ### Declaring -/

/-- The basic bases of an enumeration with a mixin. -/
def mixinBases : Mixin → List BasicClass
  | .none => [.enumeration]
  | .str => [.str, .enumeration]
  | .int => [.int, .enumeration]
  | .float => [.float, .enumeration]
  | .flag => [.flag]
  | .intFlag => [.intFlag]

/-- Declares an enumeration. -/
def declareEnumeration (table : ClassTable) (id : String) (className : ClassName) (mixin : Mixin)
    (entries : List (String × Value)) : Except Fault (ClassTable × ClassRef) := do
  let bases := (mixinBases mixin).map ClassRef.basic
  let ancestors ← ancestorsOfNew table className.name bases
  let members ← memberEntries table className.name entries
  let info ← members.foldlM table.addMember ⟨mixin, [], []⟩
  let self := ClassRef.declared table.classes.size
  return table.addClass (some id)
    { className := className
      bases := bases
      ancestors := self :: ancestors
      kind := .enumeration info }

end ClassTable

end ModelSchema
