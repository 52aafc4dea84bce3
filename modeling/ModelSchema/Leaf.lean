import ModelSchema.Class.Table

/-!
Leaf types: classes that are written as one plain value.

* `leafFormat?`: the JSON type and format of a basic class.
* `ClassTable.leafFormat?`: the format of any class, found along its ancestors.
* `objectFormat?`: classes that are written as an object of their own, with its name.
-/

namespace ModelSchema

/-- The JSON type a leaf is written as, and the format of the text. -/
structure LeafFormat where
  type : String
  format : Option String
  deriving DecidableEq, Repr, Inhabited

/-- The schema node of a leaf. -/
def LeafFormat.node (leaf : LeafFormat) : List (Value × Value) :=
  (.str "type", .str leaf.type) ::
    match leaf.format with
    | some format => [(.str "format", .str format)]
    | none => []

/-- The format of a basic class. -/
def BasicClass.leafFormat? : BasicClass → Option LeafFormat
  | .str | .bytes | .purePath => some ⟨"string", none⟩
  | .bool => some ⟨"boolean", none⟩
  | .int => some ⟨"integer", none⟩
  | .float | .decimal => some ⟨"number", none⟩
  | .uuid => some ⟨"string", some "uuid"⟩
  | .datetime => some ⟨"string", some "date-time"⟩
  | .date => some ⟨"string", some "date"⟩
  | .time => some ⟨"string", some "time"⟩
  | .duration => some ⟨"string", some "duration"⟩
  | .url => some ⟨"string", some "uri"⟩
  | .ipv4 => some ⟨"string", some "ipv4"⟩
  | .ipv6 => some ⟨"string", some "ipv6"⟩
  | _ => none

/-- Durations as a number of seconds. -/
def numericDuration : LeafFormat := ⟨"number", none⟩

/-- The definition name and the schema of an instant. -/
def instantFormat : String × Value :=
  ("Instant", .record
    [("type", .str "object"),
      ("additionalProperties", .bool false),
      ("properties", .record
        [("nanos", .record [("type", .str "integer")]),
          ("seconds", .record [("type", .str "integer")])]),
      ("required", .strings ["nanos", "seconds"])])

/-- The definition name and the schema of a basic class that is written as an object. -/
def BasicClass.objectFormat? : BasicClass → Option (String × Value)
  | .instant => some instantFormat
  | _ => none

namespace ClassTable

/-- The first answer along a class's basic ancestors. -/
def firstBasic? {α : Type} (table : ClassTable) (find? : BasicClass → Option α) (c : ClassRef) :
    Option α :=
  (table.ancestors c).findSome? fun
    | .basic b => find? b
    | .declared _ => none

/-- The format of a class. -/
def leafFormat? (table : ClassTable) (numericDurations : Bool) (c : ClassRef) :
    Option LeafFormat :=
  if numericDurations && table.isBasicSubclass c .duration then some numericDuration
  else table.firstBasic? BasicClass.leafFormat? c

/-- The definition name and the schema of a class that is written as an object. -/
def objectFormat? (table : ClassTable) (c : ClassRef) : Option (String × Value) :=
  table.firstBasic? BasicClass.objectFormat? c

/-- Whether a class is a leaf. -/
def isLeaf (table : ClassTable) (c : ClassRef) : Bool :=
  (table.leafFormat? false c).isSome || (table.objectFormat? c).isSome

end ClassTable

end ModelSchema
