import ModelSchema.Class.Instance
import ModelSchema.Class.Marker
import ModelSchema.Class.Parametrised
import ModelSchema.Description.Literal
import ModelSchema.Failure

/-!
Descriptions of annotations, of the notes on them and of values, as JSON.

* A word is a class that is described by now, or a basic annotation, or else a forward name.
* A list is a head with its arguments: `["list", T]`, `["dict", K, V]`, `["union", T, U]` and so on.
* A value is itself, except for a record with the field `$`, which names a kind of value.
* `failureOfPair?` reads an error that a callable, a locator or a module raises, as a pair of a kind
  and a text.

The depth that the readers are given bounds how deep a description is followed; a whole description
is read with more than its own depth.
-/

namespace ModelSchema

/-! ### Errors -/

/-- The errors that can be stated, by the name of their kind. -/
def statedErrors : List (String × Raise) :=
  [("RuntimeError", .fault .runtime), ("ValueError", .fault .value), ("TypeError", .fault .type),
    ("ImportError", .fault .importing), ("OSError", .fault .system), ("KeyError", .fault .key),
    ("CoreError", .core), ("IntrospectionError", .introspection),
    ("SubtypeLookupError", .subtypeLookup), ("SchemaBuildError", .schemaBuild)]

/-- The failure of a pair of a kind and a text. -/
def failureOfPair? (pair : Value) : Option Failure :=
  match pair.items with
  | [.str kind, .str text] => (byWord? statedErrors kind).map fun raise => raise.failure text
  | _ => none

/-! ### Readers -/

/-- Reading descriptions adds to a catalog and can fail. What was added before a failure stays. -/
abbrev Describing := ExceptT Failure (StateM Catalog)

namespace Describing

/-- The class table so far. -/
def table : Describing ClassTable := return (← get).table

def setTable (table : ClassTable) : Describing Unit :=
  modify fun catalog => { catalog with table := table }

/-- A result that can fail. -/
def ofExcept (result : Except Fault α) : Describing α :=
  match result with
  | .ok value => pure value
  | .error fault => throw (.fault fault)

end Describing

/-! ### Words -/

/-- The words for basic annotations. -/
def basicAnnotations : List (String × Ty) :=
  [("any", .any), ("object", .basic .object), ("none", .none), ("nonetype", .none),
    ("str", .basic .str), ("bytes", .basic .bytes), ("bool", .basic .bool), ("int", .basic .int),
    ("float", .basic .float), ("decimal", .basic .decimal), ("uuid", .basic .uuid),
    ("date", .basic .date), ("datetime", .basic .datetime), ("time", .basic .time),
    ("timedelta", .basic .duration), ("url", .basic .url), ("httpurl", .basic .httpUrl),
    ("ipv4", .basic .ipv4), ("ipv6", .basic .ipv6), ("ipv4interface", .basic .ipv4Interface),
    ("ipv4network", .basic .ipv4Network), ("purepath", .basic .purePath), ("path", .basic .path),
    ("instant", .basic .instant), ("list", .basic .list), ("set", .basic .set),
    ("frozenset", .basic .frozenSet), ("tuple", .basic .tuple), ("dict", .basic .dict),
    ("deque", .basic .deque), ("complex", .basic .complex), ("List", .bareArray .list),
    ("Set", .bareArray .set), ("Tuple", .bareTuple), ("Dict", .bareMap .dict), ("...", .ellipsis)]

def arrayKinds : List ArrayKind :=
  [.list, .set, .frozenSet, .deque, .sequence, .mutableSequence, .abstractSet, .mutableSet,
    .collection, .iterable]

def mapKinds : List MapKind := [.dict, .ordered, .defaulting, .mapping, .mutableMapping]

def unsupportedKinds : List (String × UnsupportedKind) :=
  [("type", .type), ("iterator", .iterator), ("counter", .counter)]

/-- What a word stands for. -/
def namedType (table : ClassTable) (word : String) : Ty :=
  match table.lookup? word with
  | some t => t
  | none => (byWord? basicAnnotations word).getD (.bareName word)

/-- The class that an annotation is. -/
def Ty.class? (t : Ty) : Option ClassRef :=
  match t with
  | .cls c => some c
  | .none => some (.basic .null)
  | _ => Option.none

/-- The class that is parametrised, and the result. -/
def parametrisedType (table : ClassTable) (t : Ty) (args : List Ty) :
    Except Fault (ClassTable × Ty) :=
  match t with
  | .cls c => do
    let (c, table) ← table.parametrise c args
    return (table, .cls c)
  | t => .ok (table, t)

/-- A union of members that can be told apart. -/
def unionType (table : ClassTable) (piped : Bool) (members : List Ty) : Except Fault Ty := do
  if members.isEmpty then
    throw (typeFault <| if piped then "reduce() of empty iterable with no initial value"
      else "Cannot take a Union of no types.")
  match members.findSome? Ty.changeable? with
  | none => return .unionOf piped members
  | some value =>
    let _ ← value.asKey table
    return .unionOf piped members

/-- An annotation from its head and its arguments, for the heads whose arguments are all
annotations. -/
def appliedType (table : ClassTable) (head : String) (args : List Ty) : Except Fault Ty :=
  match arrayKinds.find? (·.label.toLower = head), mapKinds.find? (·.label.toLower = head),
    byWord? unsupportedKinds head with
  | some kind, _, _ => .ok (.array kind (args.headD .any))
  | none, some kind, _ =>
    .ok (match args with
      | [key, value] => .map kind key value
      | _ => .bareMap kind)
  | none, none, some kind => .ok (.unsupported kind (args.headD .any))
  | none, none, none =>
    match head, args with
    | "tuple", args => .ok (.tuple args)
    | "optional", args => unionType table false [args.headD .any, .none]
    | "union", args => unionType table false args
    | "pipe", args => unionType table true args
    | _, _ => .ok .any

/-! ### Values -/

def collectionKinds : List (String × Collection) :=
  [("tuple", .tuple), ("set", .set), ("frozenset", .frozenSet), ("deque", .deque)]

/-- Items, each of them once. They have to be keys. -/
def distinctItems (table : ClassTable) (items : List Value) : Except Fault (List Value) :=
  items.foldlM (fun kept item => do
    let item ← item.asKey table
    return if kept.any fun k => k.same item then kept else kept ++ [item]) []

/-- The items of a collection: those of a set are keys. -/
def collectionOf (table : ClassTable) (kind : Collection) (items : List Value) :
    Except Fault Value :=
  match kind with
  | .set | .frozenSet => (distinctItems table items).map (.collection kind)
  | kind => .ok (.collection kind items)

/-- Pairs as entries: the value of a key that occurs again takes the place of the first. -/
def entriesOfPairs (table : ClassTable) (pairs : List Value) :
    Except Fault (List (Value × Value)) := do
  let entries ← pairs.mapM fun pair => do
    match pair.items with
    | [key, value] => return (← key.asKey table, value)
    | _ => return (.null, .null)
  return Value.assocUpdate [] entries

/-! ### Notes -/

/-- The limits in a record whose fields are read. A null sets nothing. -/
def limitsOfFields (fields : List (String × Value)) : Constraints :=
  let value? (key : String) : Option Value :=
    match byWord? fields key with
    | some .null | none => none
    | some value => some value
  { gt := value? "gt", ge := value? "ge", lt := value? "lt", le := value? "le"
    multipleOf := value? "multiple_of", minLength := value? "min_length"
    maxLength := value? "max_length", pattern := value? "pattern" }

/-- The notes that set a single limit. -/
def bounds : List (String × Bound) :=
  [("gt", .gt), ("ge", .ge), ("lt", .lt), ("le", .le), ("multiple_of", .multipleOf),
    ("min_len", .minLength), ("max_len", .maxLength)]

/-- A note from the one field that it has, which is read. -/
def noteOfField (key : String) (value : Value) : Note :=
  match byWord? bounds key, key, value.items with
  | some bound, _, _ => .bound bound value
  | none, "len", [least, most] => .length least most
  | none, "interval", _ => .interval (limitsOfFields value.fields)
  | none, "string", _ => .textLimits (limitsOfFields value.fields)
  | none, "attrs", _ => .attributes (limitsOfFields value.fields)
  | none, "compiled", _ => .attributes { Constraints.empty with pattern := some value }
  | none, key, _ => .attributes (limitsOfFields [(key, value)])

/-- The fields of a field description that set limits. -/
def limitNames : List String :=
  ["gt", "ge", "lt", "le", "multiple_of", "min_length", "max_length", "pattern"]

/-- A description of a field can not give a default in two ways. -/
def checkDefault (settings : FieldSettings) : Except Fault Unit :=
  if settings.default.isSome && settings.factory.isSome then
    .error (typeFault "cannot specify both default and default_factory")
  else .ok ()

namespace Describing

mutual

/-- Reads an annotation. -/
def tyWithin : Nat → Value → Describing Ty
  | 0, _ => pure .any
  | depth + 1, description => do
    match description with
    | .str word => return namedType (← table) word
    | .collection _ [.str "annotated", _] =>
      throw (.fault (typeFault <| "Annotated[...] should be used with at least two arguments "
        ++ "(a type and an annotation)."))
    | .collection _ (.str "annotated" :: inner :: notes) =>
      let inner := (← tyWithin depth inner).asArgument
      return .annotate inner (← notes.mapM (noteWithin depth))
    | .collection _ (.str "literal" :: values) =>
      return .literalOf (← values.mapM (valueWithin depth))
    | .collection _ (.str "param" :: t :: args) =>
      let t ← tyWithin depth t
      let args ← args.mapM (tyWithin depth)
      let (table, t) ← ofExcept (parametrisedType (← table) t args)
      setTable table
      return t
    | .collection _ (.str head :: args) =>
      let args ← args.mapM fun arg => return (← tyWithin depth arg).asArgument
      ofExcept (appliedType (← table) head args)
    | .collection _ _ => return .any
    | _ => return .none

/-- Reads a note. -/
def noteWithin : Nat → Value → Describing Note
  | 0, _ => pure (.remark "")
  | depth + 1, description => do
    match description with
    | .str "required" => return .required
    | .str text => return .remark text
    | .dict [(.str "field", source)] => return .field (← settingsWithin depth source)
    | .dict [(.str key, source)] => return noteOfField key (← valueWithin depth source)
    | .dict entries =>
      let fields ← entries.mapM fun (key, value) => do
        return (key.textOrEmpty, ← valueWithin depth value)
      return .attributes (limitsOfFields fields)
    | _ => return .remark ""

/-- Reads the description of a field. -/
def settingsWithin : Nat → Value → Describing FieldSettings
  | 0, _ => pure .empty
  | depth + 1, description => do
    let default ← (description.at? "default").mapM (valueWithin depth)
    let factory ← (description.at? "default_factory").mapM (valueWithin depth)
    let extra ← (description.at? "extra").mapM (fragmentWithin depth)
    let limits ← (description.fields.filter fun (key, _) => limitNames.contains key).mapM
      fun (key, source) => return (key, ← valueWithin depth source)
    let text (key : String) : Option (Option String) := (description.at? key).map Value.text?
    let settings : FieldSettings :=
      { default := default
        factory := factory
        aliasName := text "alias"
        serializationAlias := text "serialization_alias"
        validationAlias := text "validation_alias"
        title := text "title"
        description := text "description"
        excluded := (description.at? "exclude").map Value.isTrue
        extra := extra.join
        limits := limitsOfFields limits }
    ofExcept (checkDefault settings)
    return settings.withAlias

/-- Reads a fragment: a dictionary, or an edit with its number of parameters. -/
def fragmentWithin : Nat → Value → Describing (Option Fragment)
  | 0, _ => pure none
  | depth + 1, description => do
    match description.at? "$call" with
    | some parameters =>
      let assign ← (description.atOrNull "set").fields.mapM fun (key, source) => do
        return (Value.str key, ← valueWithin depth source)
      return some (.edit
        { parameters := parameters.intOrZero.toNat
          remove := description.itemsAt "pop"
          assign := assign
          failure := (description.at? "raise").bind failureOfPair? })
    | none =>
      match ← valueWithin depth description with
      | .dict entries | .mapping entries => return some (.merge entries)
      | _ => return none

/-- Reads a value. -/
def valueWithin : Nat → Value → Describing Value
  | 0, _ => pure .null
  | depth + 1, description => do
    match description with
    | .collection kind items => return .collection kind (← items.mapM (valueWithin depth))
    | .dict entries =>
      match description.textAt? "$", description.atOrNull "v" with
      | none, _ =>
        return .dict (← entries.mapM fun (key, value) => do
          return (key, ← valueWithin depth value))
      | some "dict", source =>
        let pairs ← source.items.mapM (valueWithin depth)
        return .dict (← ofExcept (entriesOfPairs (← table) pairs))
      | some "mapping", .dict entries =>
        return .mapping (← entries.mapM fun (key, value) => do
          return (key, ← valueWithin depth value))
      | some "mapping", source =>
        let pairs ← source.items.mapM (valueWithin depth)
        return .mapping (← ofExcept (entriesOfPairs (← table) pairs))
      | some "member", source =>
        match source.items with
        | [t, .str name] =>
          let t ← tyWithin depth t
          let table ← table
          match t.class?.bind fun c => table.member? c name with
          | some member => return member
          | none => throw (.fault (.missingKey name))
        | _ => return .null
      | some "type", source =>
        return ((← tyWithin depth source).class?.map Value.classObject).getD .null
      | some "new", source =>
        return ((← tyWithin depth source).class?.map Value.plainObject).getD .null
      | some "inst", source =>
        match source.items with
        | [t, given] =>
          let t ← tyWithin depth t
          let given ← given.fields.mapM fun (name, value) => do
            return (name, ← valueWithin depth value)
          match t with
          | .cls c => ExceptT.mk (return (← get).table.instantiate c given)
          | _ => return .null
        | _ => return .null
      | some kind, source =>
        match byWord? collectionKinds kind with
        | some kind =>
          let items ← source.items.mapM (valueWithin depth)
          ofExcept (collectionOf (← table) kind items)
        | none => ofExcept (literalValue kind source)
    | value => return value

end

/-- Reads an annotation. -/
def ty (description : Value) : Describing Ty :=
  tyWithin (description.nesting + 1) description

/-- Reads a value. -/
def value (description : Value) : Describing Value :=
  valueWithin (description.nesting + 1) description

/-- Reads the description of a field. -/
def settings (description : Value) : Describing FieldSettings :=
  settingsWithin (description.nesting + 2) description

/-- Reads a fragment that need not be there. -/
def fragment? (description : Option Value) : Describing (Option Fragment) :=
  match description with
  | some description => fragmentWithin (description.nesting + 2) description
  | none => pure none

end Describing

end ModelSchema
