import ModelSchema.Naming
import ModelSchema.Text.Quoted

/-!
Registries: which subtypes belong to which polymorphic class, and the branches of a schema.

* `Registry.subTypesOf` reads a registry; `Registry.summary` lists it by qualified name.
* `SchemaSource.subTypes` gives the subtypes among which a value of a polymorphic class chooses: the
  closed list of the class, or else the subtypes that were found for it.

A class between a polymorphic class and its subtypes has no entry of its own when it was covered
from above; its subtypes are then those of the nearest entry that are below it.
-/

namespace ModelSchema

/-! ### Registries -/

/-- A class with the subtypes found for it. -/
structure PolymorphicType where
  type : ClassRef
  subTypes : List ClassRef
  deriving DecidableEq, Repr, Inhabited

/-- The polymorphic classes that have subtypes, each once. -/
abbrev Registry := List PolymorphicType

namespace ClassTable

/-- Classes in the order of their qualified names. -/
def sortedByQualifiedName (table : ClassTable) (classes : List ClassRef) : List ClassRef :=
  classes.mergeSort fun c d => table.qualifiedName c ≤ table.qualifiedName d

/-- The qualified names of classes, sorted. -/
def sortedQualifiedNames (table : ClassTable) (classes : List ClassRef) : List String :=
  (classes.map table.qualifiedName).mergeSort (· ≤ ·)

end ClassTable

/-- A polymorphic type as text. -/
def PolymorphicType.text (table : ClassTable) (p : PolymorphicType) : String :=
  "PolymorphicType(type=" ++ table.qualifiedName p.type ++ ", sub_types=\x7b"
    ++ ", ".intercalate (table.sortedQualifiedNames p.subTypes) ++ "\x7d)"

namespace Registry

/-- The entry of a class. -/
def entry? (registry : Registry) (c : ClassRef) : Option PolymorphicType :=
  registry.find? (·.type = c)

/-- The subtypes recorded for a class. -/
def subTypesOf (registry : Registry) (c : ClassRef) : List ClassRef :=
  match entry? registry c with
  | some p => p.subTypes
  | none => []

/-- A registry as text. -/
def text (table : ClassTable) (registry : Registry) : String :=
  "PolymorphicRegistry(["
    ++ ", ".intercalate ((table.sortedQualifiedNames (registry.map (·.type))).map quoted) ++ "])"

/-- Every class with its subtypes, by qualified names, in their order. -/
def summary (table : ClassTable) (registry : Registry) : List (String × List String) :=
  (registry.map fun p => (table.qualifiedName p.type, table.sortedQualifiedNames p.subTypes))
    |>.mergeSort fun a b => a.1 ≤ b.1

end Registry

/-! ### Branches -/

/-- What a schema is made from. -/
structure SchemaSource where
  catalog : Catalog
  registry : Registry
  root : ClassRef

namespace SchemaSource

/-- The subtypes of a class among those of its nearest ancestor that has an entry. -/
def inheritedSubTypes (source : SchemaSource) (c : ClassRef) : List ClassRef :=
  let table := source.catalog.table
  match (table.ancestors c).tail.findSome? source.registry.entry? with
  | some entry => entry.subTypes.filter fun s => s != c && table.isSubclass s c
  | none => []

/-- The order of branches: by name, then by qualified name. -/
def branchOrder (table : ClassTable) (c d : ClassRef) : Bool :=
  if table.name c = table.name d then table.qualifiedName c ≤ table.qualifiedName d
  else table.name c ≤ table.name d

/-- The subtypes found for a class. -/
def foundSubTypes (source : SchemaSource) (c : ClassRef) : List ClassRef :=
  let found := source.registry.subTypesOf c
  if found.isEmpty && source.catalog.isOpen c then source.inheritedSubTypes c else found

/-- The subtypes a value of a class can have: its closed list as declared, or those found, sorted.
There are none when the class itself is meant. -/
def subTypes (source : SchemaSource) (c : ClassRef) : List ClassRef :=
  match source.catalog.explicitSubTypes c with
  | [] => (source.foundSubTypes c).mergeSort (branchOrder source.catalog.table)
  | explicit => explicit.map (·.1)

end SchemaSource

end ModelSchema
