import ModelSchema.AnnotationText
import ModelSchema.Class.Table

/-!
Markers: what is declared about classes besides their contents.

* `Markers`: schema roots, discriminator properties, names, closed subtype lists and orders.
* `Catalog`: a class table with its markers.
* `Catalog.typeInfo?`: the nearest discriminator among a class and its ancestors.
-/

namespace ModelSchema

/-- Markers by class. A later declaration for a class replaces an earlier one. -/
structure Markers where
  roots : List ClassRef
  typeInfo : List (ClassRef × String)
  typeNames : List (ClassRef × String)
  subTypes : List (ClassRef × List (ClassRef × Option String))
  orders : List (ClassRef × List String)
  deriving Repr, Inhabited

/-- The discriminator property that is used when none is named. -/
def defaultDiscriminator : String := "@type"

/-- Sets what is recorded for a class. -/
def recordFor {α : Type} (entries : List (ClassRef × α)) (c : ClassRef) (value : α) :
    List (ClassRef × α) :=
  entries.filter (fun entry => entry.1 != c) ++ [(c, value)]

/-- What is recorded for a class. -/
def recordedFor? {α : Type} (entries : List (ClassRef × α)) (c : ClassRef) : Option α :=
  (entries.find? fun entry => entry.1 = c).map (·.2)

/-- A class table with its markers. -/
structure Catalog where
  table : ClassTable
  markers : Markers
  deriving Repr, Inhabited

namespace Catalog

def empty : Catalog := ⟨.empty, ⟨[], [], [], [], []⟩⟩

/-! ### Marking -/

/-- Marks a class as a root that a schema is generated for. -/
def markRoot (catalog : Catalog) (c : ClassRef) : Catalog :=
  if catalog.markers.roots.contains c then catalog
  else { catalog with
    markers := { catalog.markers with roots := catalog.markers.roots ++ [c] } }

/-- Marks a class as the base of a hierarchy that a property tells apart. -/
def markTypeInfo (catalog : Catalog) (c : ClassRef) (property : String) : Catalog :=
  { catalog with markers := { catalog.markers with
    typeInfo := recordFor catalog.markers.typeInfo c property } }

/-- Sets the discriminator value of a class. -/
def markTypeName (catalog : Catalog) (c : ClassRef) (name : String) : Catalog :=
  { catalog with markers := { catalog.markers with
    typeNames := recordFor catalog.markers.typeNames c name } }

/-- Sets which properties of a class come first. -/
def markOrder (catalog : Catalog) (c : ClassRef) (names : List String) : Catalog :=
  { catalog with markers := { catalog.markers with
    orders := recordFor catalog.markers.orders c names } }

/-- The classes of a list of entries, or the first entry that is no subtype of the base. -/
def checkedEntries (table : ClassTable) (base : ClassRef) :
    List (Ty × Option String) → Except Fault (List (ClassRef × Option String))
  | [] => .ok []
  | (entry, name) :: rest => do
    match entry with
    | .cls c =>
      if table.isSubclass c base then
        return (c, name) :: (← checkedEntries table base rest)
      else throw (.notASubtype (table.classText c) (table.qualname base))
    | t => throw (.notASubtype (t.displayed table) (table.qualname base))

/-- Declares the closed, ordered list of subtypes of a class. -/
def declareSubTypes (catalog : Catalog) (base : ClassRef) (entries : List (Ty × Option String)) :
    Except Fault Catalog := do
  let entries ← checkedEntries catalog.table base entries
  pure { catalog with markers := { catalog.markers with
    subTypes := recordFor catalog.markers.subTypes base entries } }

/-! ### Reading markers -/

/-- The nearest discriminator property among a class and its ancestors, and the class it is
declared on. -/
def typeInfo? (catalog : Catalog) (c : ClassRef) : Option (String × ClassRef) :=
  (catalog.table.ancestors c).findSome? fun ancestor =>
    (recordedFor? catalog.markers.typeInfo ancestor).map (·, ancestor)

/-- The discriminator property of a class; an empty one counts as none where it is written. -/
def discriminator? (catalog : Catalog) (c : ClassRef) : Option String :=
  (catalog.typeInfo? c).map (·.1)

/-- The closed list declared for a class itself. -/
def declaredSubTypes (catalog : Catalog) (c : ClassRef) : List (ClassRef × Option String) :=
  (recordedFor? catalog.markers.subTypes c).getD []

/-- The nearest order of properties among a class and its ancestors. -/
def propertyOrder (catalog : Catalog) (c : ClassRef) : List String :=
  ((catalog.table.ancestors c).findSome? (recordedFor? catalog.markers.orders)).getD []

/-- The classes up to and including the first that satisfies a condition. -/
def upTo (stop : ClassRef → Bool) : List ClassRef → List ClassRef
  | [] => []
  | c :: rest => if stop c then [c] else c :: upTo stop rest

/-- Whether the subtypes of a class are found by search: it has a discriminator, and no closed
list stands on it or on an ancestor up to the one that declares the discriminator. -/
def isOpen (catalog : Catalog) (c : ClassRef) : Bool :=
  match catalog.typeInfo? c with
  | none => false
  | some (_, declaring) =>
    (upTo (· = declaring) (catalog.table.ancestors c)).all fun ancestor =>
      (catalog.declaredSubTypes ancestor).isEmpty

end Catalog

end ModelSchema
