import ModelSchema.Value

/-!
Equality of JSON data, and lists without repetitions.

* `Value.alike`: whether two values are equal. Numbers are compared by value and texts by their
  characters.
* `Likeness`: whether truth values count as numbers, and whether a not-a-number is equal to itself.
* `Value.areDistinct` puts the items of a list in order and compares neighbours. Items that have no
  order, and truth values never have one, are compared with each other. A not-a-number is in no order
  with any number, and a truth value inside of a list counts there as a number. So equal items need
  not come to stand next to each other, and then they are overlooked.
-/

namespace ModelSchema

/-! ### Equality -/

/-- How values are compared. -/
structure Likeness where
  /-- truth values are no numbers -/
  truthApart : Bool
  /-- one not-a-number is like another -/
  nanAlike : Bool
  deriving DecidableEq, Repr, Inhabited

namespace Value

/-- Equality of values that are no containers. -/
def scalarAlike (likeness : Likeness) : Value → Value → Bool
  | .bool a, .bool b => a == b
  | .bool a, b => !likeness.truthApart && (Value.bool a).same b
  | a, .bool b => !likeness.truthApart && a.same (.bool b)
  | .float a, .float b =>
    (likeness.nanAlike && a.isNaN && b.isNaN) || (Value.float a).same (.float b)
  | a, b => a.same b

/-- The items of a sequence that is no text. -/
def sequence? : Value → Option (List Value)
  | .collection .list items | .collection .tuple items | .collection .deque items => some items
  | .bytes data => some (data.map fun byte => .int byte.toNat)
  | _ => none

mutual

/-- Whether two JSON values are equal. -/
def alike (likeness : Likeness) : Value → Value → Bool
  | .collection kind items, b =>
    match kind, b.sequence? with
    | .set, _ | .frozenSet, _ => (Value.collection kind items).same b
    | _, some items' => itemsAlike likeness items items'
    | _, none => false
  | .dict entries, b =>
    match b with
    | .dict entries' =>
      entries.length == entries'.length && entriesAlike likeness entries entries'
    | _ => false
  | a, b =>
    match a.sequence?, b.sequence? with
    | some items, some items' => items.length == items'.length
      && (items.zip items').all fun (item, item') => scalarAlike likeness item item'
    | _, _ => scalarAlike likeness a b

def itemsAlike (likeness : Likeness) : List Value → List Value → Bool
  | [], [] => true
  | a :: as, b :: bs => a.alike likeness b && itemsAlike likeness as bs
  | _, _ => false

/-- Whether every entry on the left has an equal one on the right. -/
def entriesAlike (likeness : Likeness) : List (Value × Value) → List (Value × Value) → Bool
  | [], _ => true
  | (key, value) :: rest, entries =>
    entries.any (fun (key', value') => key.same key' && value.alike likeness value')
      && entriesAlike likeness rest entries

end

end Value

/-! ### Lists without repetitions -/

namespace Value

mutual

/-- Whether a value is less than another one, if there is an order between values like these. -/
def isLess? (likeness : Likeness) : Value → Value → Option Bool
  | .collection .list items, b =>
    match b with
    | .collection .list items' => itemsLess? likeness items items'
    | _ => none
  | a, b =>
    match a.magnitude?, b.magnitude? with
    | some x, some y => some (x.order? y = some .lt)
    | _, _ =>
      match a.text?, b.text? with
      | some s, some t => some (s < t)
      | _, _ => none

/-- The order of lists is that of the first items that differ, or else of the lengths. -/
def itemsLess? (likeness : Likeness) : List Value → List Value → Option Bool
  | [], [] => some false
  | [], _ :: _ => some true
  | _ :: _, [] => some false
  | a :: as, b :: bs =>
    if a.alike { likeness with truthApart := false } b then itemsLess? likeness as bs
    else a.isLess? likeness b

end

/-- The order of the items of a list. -/
def itemLess? (likeness : Likeness) (a b : Value) : Option Bool :=
  match a, b with
  | .bool _, _ | _, .bool _ => none
  | a, b => a.isLess? likeness b

/-- The items at the start of a list that are in order behind an item. `falls` tells whether the
order is the opposite one, in which no items are equal. -/
def runBehind (likeness : Likeness) (falls : Bool) (last : Value) :
    List Value → Option (List Value)
  | [] => some []
  | item :: rest => do
    if (← itemLess? likeness item last) = falls then
      return item :: (← runBehind likeness falls item rest)
    else return []

/-- The first items of a list in order: those that are already, or are in the opposite one. -/
def firstRun (likeness : Likeness) : List Value → Option (List Value)
  | first :: second :: rest => do
    let falls ← itemLess? likeness second first
    let run := first :: second :: (← runBehind likeness falls second rest)
    return if falls then run.reverse else run
  | items => some items

/-- The place between two bounds where an item belongs behind all that are not greater. -/
def insertionPlace (likeness : Likeness) (item : Value) (items : Array Value) :
    Nat → Nat → Nat → Option Nat
  | 0, low, _ => some low
  | fuel + 1, low, high =>
    if high ≤ low then some low
    else do
      let middle := low + (high - low) / 2
      if ← itemLess? likeness item items[middle]! then
        insertionPlace likeness item items fuel low middle
      else insertionPlace likeness item items fuel (middle + 1) high

/-- The list with an item where it belongs. -/
def insertedItem (likeness : Likeness) (items : List Value) (item : Value) :
    Option (List Value) := do
  let place ← insertionPlace likeness item items.toArray items.length 0 items.length
  return items.take place ++ item :: items.drop place

/-- The items of a list in order, if they have one. -/
def inOrder? (likeness : Likeness) (items : List Value) : Option (List Value) := do
  let run ← firstRun likeness items
  (items.drop run.length).foldlM (insertedItem likeness) run

/-- Whether no item is equal to its neighbour. -/
def neighboursDiffer (likeness : Likeness) : List Value → Bool
  | a :: b :: rest => !a.alike likeness b && neighboursDiffer likeness (b :: rest)
  | _ => true

/-- Whether no item is equal to any other one. -/
def allDiffer (likeness : Likeness) : List Value → Bool
  | [] => true
  | item :: rest => !rest.any (item.alike likeness ·) && allDiffer likeness rest

/-- Whether a list has no repetitions. -/
def areDistinct (nanAlike : Bool) (items : List Value) : Bool :=
  let likeness : Likeness := ⟨true, nanAlike⟩
  match inOrder? likeness items with
  | some sorted => neighboursDiffer likeness sorted
  | none => allDiffer likeness items

end Value

end ModelSchema
