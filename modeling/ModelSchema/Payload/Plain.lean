import ModelSchema.Class.Instance
import ModelSchema.Json.Printer
import ModelSchema.Text.Utf8

/-!
The general JSON form of values.

* `Value.writing`: how a value is written, on its own and in the place of an annotation.
  Discriminators do not count, and a model is written by the annotation it stands for.
* `Value.plainForm`: the form of a value on its own, which every value has that payloads have no
  rule for.
-/

namespace ModelSchema

/-- The ISO 8601 text of a clock time, with `Z` for the offset zero. -/
def Clock.zulu (c : Clock) : String :=
  c.wallText ++ match c.offset with
    | none => ""
    | some 0 => "Z"
    | some offset => Clock.offsetText offset

/-- The ISO 8601 text of a date and time, with `Z` for the offset zero. -/
def DateTime.zulu (t : DateTime) : String := t.date.iso ++ "T" ++ t.clock.zulu

/-- The parts of complex numbers in payloads: always positional. -/
def NumberFormat.plain : NumberFormat := ⟨(-400, 400), 1, false, "inf", "-inf", "NaN"⟩

/-- A part of a complex number: integers have no point. -/
def plainPart (x : Binary64) : String :=
  let text := NumberFormat.plain.render x
  if text.endsWith ".0" then (text.dropEnd 2).copy else text

/-- A complex number: the real part only when it is not zero, then the imaginary part. -/
def plainComplex (re im : Binary64) : String :=
  let sign := if im.order .zero = some .lt || im.isNaN then "" else "+"
  (if re.isZero then "" else plainPart re ++ sign) ++ plainPart im ++ "j"

/-- The text of some bytes. -/
def bytesText (data : List UInt8) : Except Fault String :=
  match decodeUtf8 data with
  | .ok text => .ok text
  | .error error => .error (.invalidUtf8 error.byte.toNat error.position "invalid utf-8")

namespace Value

mutual

/-- The key of an entry in the general form. Containers that are no tuples can not be keys. -/
def plainKey (table : ClassTable) : Value → Except Fault String
  | .null => .ok "None"
  | .bool b => .ok (if b then "true" else "false")
  | .int n => .ok s!"{n}"
  | .float x => .ok (NumberFormat.json.render x)
  | .str s => .ok s
  | .bytes data => bytesText data
  | .decimal x => .ok x.text
  | .complex re im => .ok (plainComplex re im)
  | .uuid text | .url text | .ipv4 text | .ipv6 text => .ok text
  | .date d => .ok d.iso
  | .datetime t => .ok t.zulu
  | .time c => .ok c.zulu
  | .duration d => .ok d.iso
  | .instant i => .ok ((Value.instant i).displayed table)
  | .member _ _ _ value => value.plainKey table
  | .collection .tuple items => do return ",".intercalate (← plainKeys table items)
  | .collection .frozenSet _ => .error (typeFault "`frozenset` not valid as object key")
  | _ => .error (.unserializable "key")

def plainKeys (table : ClassTable) : List Value → Except Fault (List String)
  | [] => .ok []
  | value :: rest => do
    let key ← value.plainKey table
    let keys ← plainKeys table rest
    return key :: keys

end

end Value

/-! ### Fitting annotations -/

/-- How closely a value has to fit an annotation. Where it can fit `loosely`, a value that does not
fit is written as it is on its own. -/
inductive Fit where
  | exactly
  | asDescendant
  | loosely
  deriving DecidableEq, Repr, Inhabited

/-- How a value is written: on its own, and in the place of an annotation that is no union and has
no notes. Durations can be numbers there. Nothing says that the value does not fit. -/
structure Writing where
  plain : Except Fault Value
  inPlace : Bool → Fit → Ty → Option (Except Fault Value)

namespace Writing

mutual

/-- Writes a value in the place of an annotation. Of a union the first member counts that the value
fits exactly, or else as a descendant. -/
def write (writing : Writing) (numericDurations : Bool) (fit : Fit) :
    Ty → Option (Except Fault Value)
  | .annotated t _ => writing.write numericDurations fit t
  | .union _ [t, .none] | .union _ [.none, t] => writing.write numericDurations fit t
  | .union _ members =>
    (writing.writeFirst numericDurations .exactly members).orElse fun _ =>
      (writing.writeFirst numericDurations .asDescendant members).orElse fun _ =>
        if fit = .loosely then some writing.plain else none
  | t =>
    (writing.inPlace numericDurations fit t).orElse fun _ =>
      if fit = .loosely then some writing.plain else none

def writeFirst (writing : Writing) (numericDurations : Bool) (fit : Fit) :
    List Ty → Option (Except Fault Value)
  | [] => none
  | t :: rest =>
    (writing.write numericDurations fit t).orElse fun _ =>
      writing.writeFirst numericDurations fit rest

end

/-- A value that is written in one way. -/
def always (form : Except Fault Value) : Writing :=
  ⟨form, fun _ fit _ => if fit = .loosely then some form else none⟩

/-- A list of forms, unless some value does not fit or can not be written. -/
def sequence : List (Option (Except Fault α)) → Option (Except Fault (List α))
  | [] => some (.ok [])
  | form :: rest => do
    let form ← form
    let forms ← sequence rest
    return do
      let form ← form
      let forms ← forms
      return form :: forms

/-- Items, the first of which have annotations of their own. -/
def writeItems (numericDurations : Bool) (fit : Fit) (other : Ty) :
    List Ty → List Writing → List (Option (Except Fault Value))
  | _, [] => []
  | [], writing :: rest =>
    writing.write numericDurations fit other :: writeItems numericDurations fit other [] rest
  | t :: ts, writing :: rest =>
    writing.write numericDurations fit t :: writeItems numericDurations fit other ts rest

end Writing

/-- The annotations of the items of a collection in the place of an annotation: of the first ones,
and of all others. -/
def Ty.itemTypes? (kind : Collection) : Ty → Option (List Ty × Ty)
  | .array .list t | .array .mutableSequence t => if kind = .list then some ([], t) else Option.none
  | .array .set t | .array .mutableSet t => if kind = .set then some ([], t) else Option.none
  | .array .frozenSet t | .array .abstractSet t =>
    if kind = .frozenSet then some ([], t) else Option.none
  | .array .deque t | .array .sequence t => some ([], t)
  | .tuple [t, .ellipsis] => if kind = .tuple then some ([], t) else Option.none
  | .tuple ts => if kind = .tuple then some (ts, .any) else Option.none
  | _ => Option.none

/-- Whether all values fit an annotation, as nothing is known about their parts. -/
def ClassTable.admitsAll (table : ClassTable) : Ty → Bool
  | .any | .typeVar _ => true
  | .cls c => c = .basic .object || (!c matches .basic _ && (table.model? c).isNone
    && (table.enumeration? c).isNone)
  | _ => false

/-! ### Models -/

/-- The key that a field is written under in the general form. -/
def Field.plainKey (field : Field) : String := field.serializationAlias.getD field.name

def ComputedField.plainKey (field : ComputedField) : String := field.aliasName.getD field.name

namespace ClassTable

/-- The attributes of a model that have fields in a class, under their keys. -/
def fieldForms (table : ClassTable) (numericDurations : Bool) (fit : Fit) (info : ModelInfo)
    (attributes : List (String × Writing)) : List (Option (Except Fault (Value × Value))) :=
  attributes.filterMap fun (name, writing) =>
    (info.fields.find? fun field => field.name = name && !field.excluded).map fun field =>
      let annotation := table.underlying (table.resolve field.annotation)
      (writing.write numericDurations fit annotation).map fun form =>
        form.map (Value.str field.plainKey, ·)

/-- The computed fields of a class, read from a model of class `own`, under their keys. -/
def computedForms (table : ClassTable) (numericDurations : Bool) (fit : Fit) (own : ClassRef)
    (info : ModelInfo) (attributes : List (String × Writing)) :
    List (Option (Except Fault (Value × Value))) :=
  info.computed.map fun field =>
    match attributes.find? (·.1 = field.name) with
    | some (_, writing) =>
      let returns := table.underlying (table.resolve field.returns)
      (writing.write numericDurations fit returns).map fun form =>
        form.map (Value.str field.plainKey, ·)
    | none => some (.error (table.unreadable own ((table.model? own).getD info) field.name))

/-- A model of class `own` written by the fields of a class. -/
def modelForm (table : ClassTable) (fit : Fit) (own c : ClassRef) (info : ModelInfo)
    (attributes computed : List (String × Writing)) : Option (Except Fault Value) :=
  let numericDurations := table.numericDurations c
  let forms := table.fieldForms numericDurations fit info attributes
    ++ table.computedForms numericDurations fit own info (computed ++ attributes)
  (Writing.sequence forms).map fun entries =>
    entries.map fun entries => .dict (Value.assocUpdate [] entries)

/-- A model of a class in the place of another one. -/
def modelInPlace (table : ClassTable) (fit : Fit) (own c : ClassRef)
    (attributes computed : List (String × Writing)) : Option (Except Fault Value) :=
  let fits : Bool :=
    match fit with
    | .exactly => own = c
    | .asDescendant => table.isSubclass own c
    | .loosely => true
  match table.model? c with
  | some info => if fits then table.modelForm fit own c info attributes computed else none
  | none => none

end ClassTable

/-! ### Values -/

namespace Value

/-- A number as a double. -/
def asDouble? : Value → Option Binary64
  | .bool b => some (.ofQuotient (if b then 1 else 0) 1)
  | .int n => Binary64.ofInt? n
  | .float x => some x
  | .decimal (.nan _ true _) => none
  | .decimal x => some x.toBinary64
  | .member _ mixin _ value =>
    match mixin with
    | .int | .float | .intFlag => value.asDouble?
    | _ => none
  | _ => none

/-- How a value without parts is written. -/
def atomWriting (table : ClassTable) (value : Value) (plain : Except Fault Value) : Writing :=
  ⟨plain, fun numericDurations fit t =>
    match value, t with
    | .duration d, .cls (.basic .duration) =>
      if numericDurations then some (.ok (.float d.totalSeconds)) else some plain
    | .path text, .cls (.basic .purePath) => some (.ok (.str text))
    | .bool b, .cls (.basic .int) =>
      if fit = .exactly then none else some (.ok (.int (if b then 1 else 0)))
    | .float _, .cls (.basic .float) => some plain
    | value, .cls (.basic .float) =>
      if fit = .loosely then value.asDouble?.map fun x => .ok (.float x) else none
    | _, t => if table.admitsAll t then some plain else none⟩

/-- How a thing with attributes that is no model is written. -/
def objectWriting (table : ClassTable) (plain : Except Fault Value) : Writing :=
  ⟨plain, fun _ fit t =>
    match t with
    | .cls c =>
      if fit = .loosely && (table.model? c).isSome then some (.ok (.dict []))
      else if table.admitsAll t then some plain
      else none
    | t => if table.admitsAll t then some plain else none⟩

mutual

/-- How a value is written. -/
def writing (table : ClassTable) : Value → Writing
  | .null => .always (.ok .null)
  | .bool b => atomWriting table (.bool b) (.ok (.bool b))
  | .int n => atomWriting table (.int n) (.ok (.int n))
  | .float x => atomWriting table (.float x) (.ok (.float x))
  | .str s => .always (.ok (.str s))
  | .bytes data => .always ((bytesText data).map .str)
  | .decimal x => atomWriting table (.decimal x) (.ok (.str x.text))
  | .complex re im => .always (.ok (.str (plainComplex re im)))
  | .uuid text | .ipv4 text | .ipv6 text => .always (.ok (.str text))
  | .url text => objectWriting table (.ok (.str text))
  | .date d => .always (.ok (.str d.iso))
  | .datetime t => .always (.ok (.str t.zulu))
  | .time c => .always (.ok (.str c.zulu))
  | .duration d => atomWriting table (.duration d) (.ok (.str d.iso))
  | .instant i =>
    objectWriting table (.ok (.record [("seconds", .int i.seconds), ("nanos", .int i.nanos)]))
  | .collection kind items =>
    let parts := writings table items
    let plain := (parts.mapM Writing.plain).map Value.list
    { plain := plain
      inPlace := fun numericDurations fit t =>
        match t.itemTypes? kind with
        | some (first, other) =>
          (Writing.sequence (Writing.writeItems numericDurations fit other first parts)).map
            (·.map .list)
        | none => if table.admitsAll t then some plain else none }
  | .dict entries =>
    let parts := entryWritings table entries
    let form (forms : List (Except Fault String × Except Fault Value)) : Except Fault Value := do
      let entries ← forms.mapM fun (key, form) => do
        let key ← key
        let form ← form
        return (Value.str key, form)
      return .dict (assocUpdate [] entries)
    let plain := form (parts.map fun (key, part) => (key, part.plain))
    { plain := plain
      inPlace := fun numericDurations fit t =>
        match t with
        | .map _ _ t =>
          let forms := parts.map fun (key, part) =>
            (part.write numericDurations fit t).map fun form =>
              (.ok (key, form) : Except Fault _)
          (Writing.sequence forms).map fun forms => forms.bind form
        | t => if table.admitsAll t then some plain else none }
  | .member owner mixin name value =>
    let plain := (value.writing table).plain
    { plain := plain
      inPlace := fun numericDurations fit t =>
        match t with
        | .cls (.basic .float) =>
          (atomWriting table (.member owner mixin name value) plain).inPlace numericDurations fit t
        | t => (objectWriting table plain).inPlace numericDurations fit t }
  | .modelInstance c attributes computed =>
    let attributes := attributeWritings table attributes
    let computed := attributeWritings table computed
    let plain := ((table.modelInPlace .loosely c c attributes computed).getD (.ok (.dict [])))
    { plain := plain
      inPlace := fun _ fit t =>
        match t with
        | .cls d =>
          if (table.model? d).isSome then table.modelInPlace fit c d attributes computed
          else if table.admitsAll t then some plain
          else none
        | t => if table.admitsAll t then some plain else none }
  | .path text => atomWriting table (.path text) (.error (.unserializable "PurePosixPath"))
  | .mapping _ => .always (.error (.unserializable "mappingproxy"))
  | .classObject _ => .always (.error (.unserializable "type"))
  | .plainObject c => objectWriting table (.error (.unserializable (table.name c)))
  | .enclosing .. => .always (.error .endless)

def writings (table : ClassTable) : List Value → List Writing
  | [] => []
  | value :: rest => value.writing table :: writings table rest

def entryWritings (table : ClassTable) :
    List (Value × Value) → List (Except Fault String × Writing)
  | [] => []
  | (key, value) :: rest =>
    (key.plainKey table, value.writing table) :: entryWritings table rest

def attributeWritings (table : ClassTable) : List (String × Value) → List (String × Writing)
  | [] => []
  | (name, value) :: rest => (name, value.writing table) :: attributeWritings table rest

end

/-- The general JSON form of a value on its own. -/
def plainForm (table : ClassTable) (value : Value) : Except Fault Value :=
  (value.writing table).plain

end Value

end ModelSchema
