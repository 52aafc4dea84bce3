import ModelSchema.Validation.Resource

/-!
Following references in schemas.

* `SchemaLibrary`: the schemas that references can lead to.
* `Viewpoint`: the place in a schema from which a reference is seen.
* `SchemaLibrary.lookup`: what a reference leads to, with the viewpoint there.

A fragment that begins with a slash is a path of keys, in which `~1` stands for a slash and `~0` for
a tilde. Any other fragment is a name.
-/

namespace ModelSchema

/-- The schemas that references can lead to: those that are known from the start, and all of them.
-/
structure SchemaLibrary where
  table : ClassTable
  known : SchemaIndex
  whole : Except Fault SchemaIndex

/-- A place in a schema: the reference of the schema around it, and those of the schemas that were
left on the way, the last one first. After a first search every schema of the library is known. -/
structure Viewpoint where
  base : String
  earlier : List String
  hasSearched : Bool
  deriving DecidableEq, Repr, Inhabited

namespace Viewpoint

/-- The viewpoint in a schema of a dialect, seen from a place around it. -/
def inside (table : ClassTable) (dialect : Dialect) (schema : Value) (viewpoint : Viewpoint) :
    Except Fault Viewpoint := do
  match ← dialect.id? table schema with
  | none => return viewpoint
  | some id => return { viewpoint with base := ← joinedUri viewpoint.base id }

/-- The viewpoint in a schema that a reference leads to. -/
def move (viewpoint : Viewpoint) (base : String) (hasSearched : Bool) : Viewpoint :=
  let leaves :=
    !viewpoint.base.isEmpty && (viewpoint.earlier.isEmpty || base != viewpoint.base)
  { base, hasSearched
    earlier := if leaves then viewpoint.base :: viewpoint.earlier else viewpoint.earlier }

end Viewpoint

namespace SchemaLibrary

/-- The library of a schema document, and the viewpoint at its root. -/
def ofRoot (table : ClassTable) (dialect : Dialect) (root : Value) :
    Except Fault (SchemaLibrary × Viewpoint) := do
  let resource : SchemaResource := ⟨root, dialect⟩
  let uri := (← resource.id? table).getD ""
  return (⟨table, .ofRoot uri resource, SchemaIndex.crawled table uri resource⟩, ⟨uri, [], false⟩)

/-- The index that is searched. -/
def index (library : SchemaLibrary) (hasSearched : Bool) : Except Fault SchemaIndex :=
  if hasSearched then library.whole else .ok library.known

/-- The schema that a reference without a fragment names, and whether the library was searched for
it. -/
def resource (library : SchemaLibrary) (hasSearched : Bool) (reference uri : String) :
    Except Fault (SchemaResource × Bool) := do
  match (← library.index hasSearched).resource? uri with
  | some resource => return (resource, hasSearched)
  | none =>
    match (← library.whole).resource? uri with
    | some resource => return (resource, true)
    | none => throw (.unresolvedReference (.outside reference))

/-! ### Names -/

/-- The schema that a name stands for inside of a schema. -/
def anchor (library : SchemaLibrary) (hasSearched : Bool) (uri name : String) :
    Except Fault (SchemaAnchor × Bool) := do
  match (← library.index hasSearched).anchor? uri name with
  | some anchor => return (anchor, hasSearched)
  | none =>
    let whole ← library.whole
    match whole.anchor? uri name with
    | some anchor => return (anchor, true)
    | none =>
      let (around, _) ← library.resource hasSearched uri uri
      let byItself ← around.id? library.table
      match byItself.bind (whole.anchor? · name) with
      | some anchor => return (anchor, true)
      | none =>
        throw (.unresolvedReference (
          if name.toList.contains '/' then .badName name
          else .name name (around.contents.displayed library.table)))

/-- The schema that a dynamic name stands for: the one in the outermost of the schemas that were
left and have the name. -/
def dynamicTarget (library : SchemaLibrary) (name : String) (viewpoint : Viewpoint)
    (resource : SchemaResource) : Except Fault SchemaResource :=
  viewpoint.earlier.foldlM (fun last uri =>
    match library.anchor viewpoint.hasSearched uri name with
    | .ok (anchor, _) => .ok (if anchor.isDynamic then anchor.resource else last)
    | .error (.unresolvedReference (.name ..)) => .ok last
    | .error fault => .error fault) resource

/-! ### Paths -/

/-- The segments between the slashes of a path. -/
def pathSegments (path : String) : List String :=
  (path.toList.splitOn '/').map String.ofList

/-- A segment with its escapes undone: `~1` stands for a slash and `~0` for a tilde. -/
def unescapedFrom : List Char → List Char
  | '~' :: '1' :: rest => '/' :: unescapedFrom rest
  | '~' :: '0' :: rest => '~' :: unescapedFrom rest
  | c :: rest => c :: unescapedFrom rest
  | [] => []

/-- The key that a segment of a path stands for. -/
def segmentKey (segment : String) : String := String.ofList (unescapedFrom segment.toList)

/-- The part of a value to which a segment of a path leads, if there is one. -/
def segmentPart? (table : ClassTable) (segment : String) (value : Value) :
    Except Fault (Option Value) := do
  let place (count : Nat) : Except Fault (Option Nat) := do
    let n ← (Numeral.integer 10 segment).mapError .numeral
    let n := if n < 0 then n + count else n
    return if n < 0 then none else some n.toNat
  match value with
  | .dict _ => value.partNamed? table (segmentKey segment)
  | value =>
    if Dialect.isSequence value then
      let items ← value.parts table
      return (← place items.length).bind fun n => items[n]?
    else value.partAt table segment

/-- Follows the segments of a path from a part of a schema on. `behind` has the segments since the
last schema on the way. -/
def follow (library : SchemaLibrary) (path : String) (resource : SchemaResource)
    (behind : List String) (viewpoint : Viewpoint) :
    List String → Value → Except Fault (Value × Viewpoint)
  | [], value => .ok (value, viewpoint)
  | segment :: rest, value => do
    match ← segmentPart? library.table segment value with
    | none =>
      throw (.unresolvedReference (.path path (resource.contents.displayed library.table)))
    | some part =>
      let isIndex := Dialect.isSequence value
      let key := if isIndex then "" else segmentKey segment
      let behind := behind ++ [key]
      if resource.dialect.isSubschemaPath (part matches .dict _) behind then
        match ← resource.dialect.id? library.table part with
        | none => follow library path resource behind viewpoint rest part
        | some id =>
          let viewpoint := { viewpoint with base := ← joinedUri viewpoint.base id }
          follow library path resource [] viewpoint rest part
      else follow library path resource behind viewpoint rest part

/-! ### References -/

/-- What a reference leads to, and the viewpoint there. -/
def lookup (library : SchemaLibrary) (viewpoint : Viewpoint) (reference : String) :
    Except Fault (Value × Viewpoint) := do
  let (uri, fragment) ←
    if reference.startsWith "#" then pure (viewpoint.base, (reference.drop 1).copy)
    else splitFragment (← joinedUri viewpoint.base reference)
  let (resource, hasSearched) ← library.resource viewpoint.hasSearched reference uri
  if fragment.startsWith "/" then
    let segments := pathSegments (percentDecoded (fragment.drop 1).copy)
    library.follow fragment resource [] (viewpoint.move uri hasSearched) segments resource.contents
  else if fragment.isEmpty then
    return (resource.contents, viewpoint.move uri hasSearched)
  else
    let (anchor, hasSearched) ← library.anchor hasSearched uri fragment
    let viewpoint := viewpoint.move uri hasSearched
    if anchor.isDynamic then
      let target ← library.dynamicTarget fragment viewpoint anchor.resource
      return (target.contents, ← viewpoint.inside library.table target.dialect target.contents)
    else return (anchor.resource.contents, viewpoint)

/-- Whether a schema is one that recursion can lead out of. -/
def isRecursive (schema : Value) : Bool :=
  match schema with
  | .dict entries => (Value.assoc? (.str "$recursiveAnchor") entries).any Value.isTruthy
  | _ => false

/-- Follows recursion outwards through the schemas that were left, as long as they allow it. -/
def outermost (library : SchemaLibrary) (viewpoint : Viewpoint) :
    List String → Value × Viewpoint → Except Fault (Value × Viewpoint)
  | [], found => .ok found
  | uri :: rest, found => do
    let next ← library.lookup viewpoint uri
    if isRecursive next.1 then outermost library viewpoint rest next else return found

/-- What recursion leads to: the schema around a place, or one further out. -/
def lookupRecursive (library : SchemaLibrary) (viewpoint : Viewpoint) :
    Except Fault (Value × Viewpoint) := do
  let found ← library.lookup viewpoint "#"
  if isRecursive found.1 then library.outermost viewpoint viewpoint.earlier found else return found

end SchemaLibrary

end ModelSchema
