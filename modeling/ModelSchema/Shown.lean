import ModelSchema.Class.Table
import ModelSchema.Number.Shortest

/-!
Values as they are shown in messages.

* `Value.shown`: the plain text of a value, in which a text stands for itself.
* `Value.displayed`: the text with quotes and kinds, by which values can be told apart.
* `Value.kindName`: the name of the kind of a value.
* `Value.asKey`: a value as a key; one that can be changed is none.
-/

namespace ModelSchema

/-- Doubles in messages: positional below `10 ^ 16`, exponents of at least two digits. -/
def NumberFormat.shown : NumberFormat := ⟨(-4, 15), 2, false, "inf", "-inf", "nan"⟩

def Binary64.shown (x : Binary64) : String := NumberFormat.shown.render x

/-- One part of a complex number: integers have no point. -/
def complexPart (x : Binary64) : String :=
  let text := x.shown
  if text.endsWith ".0" then (text.dropEnd 2).copy else text

/-- A complex number; a positive zero in front of an imaginary part is left out. -/
def complexText (re im : Binary64) : String :=
  let imaginary := complexPart im
  if re = .zero then imaginary ++ "j"
  else
    let sign := if imaginary.startsWith "-" then "" else "+"
    "(" ++ complexPart re ++ sign ++ imaginary ++ "j)"

/-- A class as messages show it. -/
def ClassTable.classText (table : ClassTable) (c : ClassRef) : String :=
  let names := table.className c
  let full :=
    if names.module = "builtins" then names.qualname else names.module ++ "." ++ names.qualname
  match table.enumeration? c with
  | some _ =>
    (if table.isBasicSubclass c .flag then "<flag " else "<enum ") ++ quoted names.name ++ ">"
  | none => "<class '" ++ full ++ "'>"

/-- The zone of a clock time, behind a comma. -/
def zoneDisplayed (offset : Option Int) : String :=
  match offset with
  | none => ""
  | some 0 => ", tzinfo=datetime.timezone.utc"
  | some offset =>
    ", tzinfo=datetime.timezone(" ++ (Duration.ofMicroseconds offset).displayed ++ ")"

/-- Numbers with the zeros of the last two places left out, the last one first. -/
def trimZeros (fixed : List Nat) (second micro : Nat) : String :=
  let tail := if micro ≠ 0 then [second, micro] else if second ≠ 0 then [second] else []
  ", ".intercalate ((fixed ++ tail).map fun n => s!"{n}")

def Date.displayed (d : Date) : String := s!"datetime.date({d.year}, {d.month}, {d.day})"

def Clock.displayed (c : Clock) : String :=
  "datetime.time(" ++ trimZeros [c.hour, c.minute] c.second c.microsecond
    ++ zoneDisplayed c.offset ++ ")"

def DateTime.displayed (t : DateTime) : String :=
  "datetime.datetime("
    ++ trimZeros [t.date.year, t.date.month, t.date.day, t.clock.hour, t.clock.minute]
      t.clock.second t.clock.microsecond
    ++ zoneDisplayed t.clock.offset ++ ")"

namespace Value

/-- Items between the brackets of their collection. -/
def bracketed (kind : Collection) (items : List String) : String :=
  let body := ", ".intercalate items
  match kind with
  | .list => "[" ++ body ++ "]"
  | .tuple => match items with
    | [item] => "(" ++ item ++ ",)"
    | _ => "(" ++ body ++ ")"
  | .set => if items.isEmpty then "set()" else "\x7b" ++ body ++ "\x7d"
  | .frozenSet => if items.isEmpty then "frozenset()" else "frozenset(\x7b" ++ body ++ "\x7d)"
  | .deque => "deque([" ++ body ++ "])"

mutual

/-- The text of a value with quotes and kinds. -/
def displayed (table : ClassTable) : Value → String
  | .null => "None"
  | .bool b => if b then "True" else "False"
  | .int n => s!"{n}"
  | .float x => x.shown
  | .str s => quoted s
  | .bytes data => quotedBytes data
  | .decimal x => "Decimal('" ++ x.text ++ "')"
  | .complex re im => complexText re im
  | .uuid text => "UUID('" ++ text ++ "')"
  | .url text => "AnyUrl(" ++ quoted text ++ ")"
  | .ipv4 text => "IPv4Address('" ++ text ++ "')"
  | .ipv6 text => "IPv6Address('" ++ text ++ "')"
  | .path text => "PurePosixPath(" ++ quoted text ++ ")"
  | .date d => d.displayed
  | .datetime t => t.displayed
  | .time c => c.displayed
  | .duration d => d.displayed
  | .instant i => s!"Instant(seconds={i.seconds}, nanos={i.nanos})"
  | .collection kind items => bracketed kind (displayedItems table items)
  | .dict entries => "\x7b" ++ ", ".intercalate (displayedEntries table entries) ++ "\x7d"
  | .mapping entries =>
    "mappingproxy(\x7b" ++ ", ".intercalate (displayedEntries table entries) ++ "\x7d)"
  | .member owner _ name value =>
    "<" ++ table.name owner ++ "." ++ name ++ ": " ++ value.displayed table ++ ">"
  | .classObject c => table.classText c
  | .plainObject c => "<" ++ table.qualifiedName c ++ " object>"
  | .enclosing _ isDict => if isDict then "\x7b...\x7d" else "[...]"
  | .modelInstance c attributes computed =>
    let parts := displayedAttributes table attributes ++ displayedAttributes table computed
    table.name c ++ "(" ++ ", ".intercalate parts ++ ")"

def displayedItems (table : ClassTable) : List Value → List String
  | [] => []
  | v :: vs => v.displayed table :: displayedItems table vs

def displayedEntries (table : ClassTable) : List (Value × Value) → List String
  | [] => []
  | (k, v) :: rest =>
    (k.displayed table ++ ": " ++ v.displayed table) :: displayedEntries table rest

def displayedAttributes (table : ClassTable) : List (String × Value) → List String
  | [] => []
  | (name, v) :: rest => (name ++ "=" ++ v.displayed table) :: displayedAttributes table rest

end

/-- The name of the kind of a value. -/
def kindName (table : ClassTable) : Value → String
  | .null => "NoneType"
  | .bool _ => "bool"
  | .int _ => "int"
  | .float _ => "float"
  | .str _ => "str"
  | .bytes _ => "bytes"
  | .decimal _ => "Decimal"
  | .complex .. => "complex"
  | .uuid _ => "UUID"
  | .url _ => "AnyUrl"
  | .ipv4 _ => "IPv4Address"
  | .ipv6 _ => "IPv6Address"
  | .path _ => "PurePosixPath"
  | .date _ => "date"
  | .datetime _ => "datetime"
  | .time _ => "time"
  | .duration _ => "timedelta"
  | .instant _ => "Instant"
  | .collection .list _ | .enclosing _ false => "list"
  | .collection .tuple _ => "tuple"
  | .collection .set _ => "set"
  | .collection .frozenSet _ => "frozenset"
  | .collection .deque _ => "deque"
  | .dict _ | .enclosing _ true => "dict"
  | .mapping _ => "mappingproxy"
  | .classObject _ => "type"
  | .member c .. | .plainObject c | .modelInstance c _ _ => table.name c

/-- The plain text of a value. -/
def shown (table : ClassTable) : Value → String
  | .str s => s
  | .decimal x => x.text
  | .uuid text | .url text | .ipv4 text | .ipv6 text | .path text => text
  | .date d => d.iso
  | .datetime t => t.iso ' '
  | .time c => c.iso
  | .duration d => d.text
  | .member owner mixin name value =>
    match mixin with
    | .intFlag => value.displayed table
    | _ => table.name owner ++ "." ++ name
  | .modelInstance _ attributes computed =>
    " ".intercalate (displayedAttributes table attributes ++ displayedAttributes table computed)
  | v => v.displayed table

/-- The name of the kind of an operand. -/
def operandName (table : ClassTable) : Value → String
  | .date _ => "datetime.date"
  | .datetime _ => "datetime.datetime"
  | .time _ => "datetime.time"
  | .duration _ => "datetime.timedelta"
  | .decimal _ => "decimal.Decimal"
  | .collection .deque _ => "collections.deque"
  | value => value.kindName table

/-- A value as a key. -/
def asKey (table : ClassTable) (value : Value) : Except Fault Value :=
  match value.changeable? with
  | none => .ok value
  | some container =>
    .error (typeFault s!"unhashable type: {quoted (container.operandName table)}")

end Value

end ModelSchema
