import ModelSchema.Class.Table
import ModelSchema.Shown

/-!
The order of a class's ancestors.

* `linearise` merges the orders of the bases so that every class comes before its own ancestors and
  bases keep their order (the C3 rule). It fails when no order does both.
* `ancestorsOfNew` also checks that the bases fit together at all: their values have one layout, and
  at most one of them decides how the class is made.
-/

namespace ModelSchema

/-! ### Merging -/

/-- The first head that stands in no tail: the next ancestor. -/
def nextAncestor? (orders : List (List ClassRef)) : Option ClassRef :=
  (orders.filterMap List.head?).find? fun c => orders.all fun order => !order.tail.contains c

/-- Removes a class from the heads of the orders. -/
def dropAncestor (c : ClassRef) (orders : List (List ClassRef)) : List (List ClassRef) :=
  (orders.map fun order => if order.head? = some c then order.tail else order).filter
    fun order => !order.isEmpty

/-- Merges orders, or gives the heads that all wait for each other. Every step removes at least one
entry, so `size`, the number of entries, is enough. -/
def mergeOrders : Nat → List (List ClassRef) → Except (List ClassRef) (List ClassRef)
  | _, [] => .ok []
  | 0, orders => .error (orders.filterMap List.head?)
  | size + 1, orders =>
    match nextAncestor? orders with
    | some c => (mergeOrders size (dropAncestor c orders)).map (c :: ·)
    | none => .error (orders.filterMap List.head?)

/-- The ancestors of a class with the given bases, without the class itself. -/
def linearise (table : ClassTable) (bases : List ClassRef) :
    Except (List ClassRef) (List ClassRef) :=
  let orders := (bases.map table.ancestors ++ [bases]).filter fun order => !order.isEmpty
  mergeOrders orders.flatten.length orders

/-- The first class that a list of bases names twice. -/
def duplicateBase? : List ClassRef → Option ClassRef
  | [] => none
  | c :: rest => if rest.contains c then some c else duplicateBase? rest

/-! ### Layout -/

/-- Whether a basic class adds parts to its values that no other class can add as well. -/
def BasicClass.hasLayout : BasicClass → Bool
  | object | null | bool | url | httpUrl | ipv4Interface | ipv4Network | path | instant
  | enumeration | flag | intFlag => false
  | _ => true

namespace ClassTable

/-- The nearest ancestor that decides the layout of the values of a class. -/
def layout (table : ClassTable) (c : ClassRef) : ClassRef :=
  ((table.ancestors c).find? fun
    | .basic b => b.hasLayout
    | _ => false).getD (.basic .object)

/-- Whether a class can not be a base. -/
def isClosed (c : ClassRef) : Bool := c = .basic .bool || c = .basic .null

/-- The layout of a class with one more base, when the bases so far have one layout. -/
def layoutWith (table : ClassTable) (layout base : ClassRef) : Except Fault ClassRef :=
  let next := table.layout base
  if isClosed base then
    .error (typeFault s!"type {quoted (table.name base)} is not an acceptable base type")
  else if table.isSubclass layout next then .ok layout
  else if table.isSubclass next layout then .ok next
  else .error (typeFault "multiple bases have instance lay-out conflict")

/-! ### Checks -/

/-- Checks that a class can have enumerations among its bases: one without members, in the last
place. -/
def checkEnumerations (table : ClassTable) (name : String) (bases : List ClassRef) :
    Except Fault Unit :=
  if !bases.any fun c => table.isBasicSubclass c .enumeration then .ok ()
  else
    match (bases.flatMap table.ancestors).find? fun c => !(table.members c).isEmpty with
    | some closed =>
      .error (typeFault s!"<enum {quoted name}> cannot extend {table.classText closed}")
    | none =>
      if bases.getLast?.any fun c => table.isBasicSubclass c .enumeration then .ok ()
      else
        .error (typeFault <| "new enumerations should be created as "
          ++ "`EnumName([mixin_type, ...] [data_type,] enum_type)`")

/-- Checks that no two bases decide how a class is made. -/
def checkMaking (table : ClassTable) (bases : List ClassRef) : Except Fault Unit :=
  if bases.any (table.isBasicSubclass · .enumeration)
      && bases.any (table.isBasicSubclass · .model) then
    .error (typeFault <| "metaclass conflict: the metaclass of a derived class must be a "
      ++ "(non-strict) subclass of the metaclasses of all its bases")
  else .ok ()

/-- Checks that the values of some bases have one layout: that of one of them, which descends from
all others. -/
def checkLayout (table : ClassTable) (bases : List ClassRef) : Except Fault Unit := do
  let _ ← bases.foldlM table.layoutWith (.basic .object)

end ClassTable

/-- The ancestors of a new class, or why there can be no such class. -/
def ancestorsOfNew (table : ClassTable) (name : String) (bases : List ClassRef) :
    Except Fault (List ClassRef) := do
  table.checkMaking bases
  table.checkEnumerations name bases
  table.checkLayout bases
  match duplicateBase? bases, linearise table bases with
  | some c, _ => throw (.duplicateBase (table.name c))
  | none, .ok order => return order
  | none, .error heads => throw (.inconsistentBases (heads.eraseDups.map table.name))

end ModelSchema
