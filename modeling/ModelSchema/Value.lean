import ModelSchema.ClassRef
import ModelSchema.Number.Decimal
import ModelSchema.Time.Duration

/-!
Values: everything a field, a default, an enumeration member, a schema or a payload can hold.

* `Value`: one type for all of them, so that schema trees and payloads are values as well.
* `Value.same`: equality of values across kinds, by which dictionary keys are told apart.
* `Value.assoc?`, `Value.assocSet`, `Value.assocUpdate`: ordered dictionaries as lists of entries.
* `Value.changeable?`: what keeps a value from being a key.
-/

namespace ModelSchema

/-- The kinds of sequences and sets. -/
inductive Collection where
  | list
  | tuple
  | set
  | frozenSet
  | deque
  deriving DecidableEq, Repr, Inhabited

/-- What the members of an enumeration are besides being members. -/
inductive Mixin where
  | none
  | str
  | int
  | float
  | flag
  | intFlag
  deriving DecidableEq, Repr, Inhabited

/-- A value. Dictionaries keep the order of their entries. `mapping` is a dictionary-like value of
another class. A `plainObject` has no readable parts. A `modelInstance` has attributes for its
fields, in the order in which they were set, and the computed ones that can be read. A list or a
dictionary can hold itself: `enclosing` is the container around it that is so many levels further
out than the nearest one. -/
inductive Value where
  | null
  | bool (b : Bool)
  | int (n : Int)
  | float (x : Binary64)
  | str (s : String)
  | bytes (data : List UInt8)
  | decimal (x : Decimal)
  | complex (re im : Binary64)
  | uuid (text : String)
  | url (text : String)
  | ipv4 (text : String)
  | ipv6 (text : String)
  | path (text : String)
  | date (d : Date)
  | datetime (t : DateTime)
  | time (c : Clock)
  | duration (d : Duration)
  | instant (i : Instant)
  | collection (kind : Collection) (items : List Value)
  | dict (entries : List (Value × Value))
  | mapping (entries : List (Value × Value))
  | member (owner : ClassRef) (mixin : Mixin) (name : String) (value : Value)
  | classObject (c : ClassRef)
  | plainObject (c : ClassRef)
  | modelInstance (c : ClassRef) (attributes computed : List (String × Value))
  | enclosing (levels : Nat) (isDict : Bool)
  deriving Repr, Inhabited

namespace Value

@[match_pattern]
abbrev list (items : List Value) : Value := .collection .list items

/-- A dictionary with text keys. -/
def record (fields : List (String × Value)) : Value :=
  .dict (fields.map fun (key, value) => (.str key, value))

/-- A list of texts. -/
def strings (texts : List String) : Value := .list (texts.map .str)

/-! ### Numbers -/

/-- The exact or extended value of a number. -/
inductive Magnitude where
  | ratio (num : Int) (den : Nat)
  | infinity (negative : Bool)
  | nan

/-- The numeric value of a double. -/
def doubleMagnitude (x : Binary64) : Magnitude :=
  match x, x.toRatio? with
  | .infinity negative, _ => .infinity negative
  | _, some (n, d) => .ratio n d
  | _, none => .nan

/-- The numeric value of a truth value, integer, double, decimal, numeric enumeration member or
complex number without an imaginary part. -/
def magnitude? : Value → Option Magnitude
  | .bool b => some (.ratio (if b then 1 else 0) 1)
  | .int n => some (.ratio n 1)
  | .float x => some (doubleMagnitude x)
  | .complex re im => if im.isZero then some (doubleMagnitude re) else none
  | .decimal x =>
    match x, x.toRatio? with
    | .infinity negative, _ => some (.infinity negative)
    | _, some (n, d) => some (.ratio n d)
    | _, none => some .nan
  | .member _ mixin _ value =>
    match mixin with
    | .int | .float | .intFlag => value.magnitude?
    | _ => none
  | _ => none

/-- Whether two numbers are equal; a not-a-number equals nothing. -/
def Magnitude.same : Magnitude → Magnitude → Bool
  | .ratio n d, .ratio n' d' => n * d' = n' * d
  | .infinity a, .infinity b => a = b
  | _, _ => false

/-- The order of two numbers; a not-a-number has none. -/
def Magnitude.order? : Magnitude → Magnitude → Option Ordering
  | .nan, _ | _, .nan => none
  | .ratio n d, .ratio n' d' => some (compare (n * d') (n' * d))
  | .infinity a, .infinity b => some (if a = b then .eq else if a then .lt else .gt)
  | .infinity a, .ratio _ _ => some (if a then .lt else .gt)
  | .ratio _ _, .infinity b => some (if b then .gt else .lt)

/-- The text of a text or of a member that is a text as well. -/
def text? : Value → Option String
  | .str s => some s
  | .member _ .str _ value => value.text?
  | _ => none

/-! ### Truth -/

/-- Whether a value counts as true: it is not null, false, zero or empty. -/
def isTruthy : Value → Bool
  | .null => false
  | .bool b => b
  | .str s => !s.isEmpty
  | .bytes data => !data.isEmpty
  | .collection _ items => !items.isEmpty
  | .dict entries | .mapping entries => !entries.isEmpty
  | value =>
    match value.magnitude? with
    | some x => !x.same (.ratio 0 1)
    | none => true

/-! ### Equality -/

mutual

/-- Whether two values are equal: numbers by value, texts by their characters, containers of one
kind by their items, members by name, all else by kind and content. -/
def same : Value → Value → Bool
  | .null, b => match b with
    | .null => true
    | _ => false
  | .bytes a, b => match b with
    | .bytes b => a == b
    | _ => false
  | .complex re im, b => match b with
    | .complex re' im' => re.order re' = some .eq && im.order im' = some .eq
    | b => sameByContent (.complex re im) b
  | .uuid a, b => match b with
    | .uuid b => a == b
    | _ => false
  | .url a, b => match b with
    | .url b => a == b
    | _ => false
  | .ipv4 a, b => match b with
    | .ipv4 b => a == b
    | _ => false
  | .ipv6 a, b => match b with
    | .ipv6 b => a == b
    | _ => false
  | .path a, b => match b with
    | .path b => a == b
    | _ => false
  | .date a, b => match b with
    | .date b => a == b
    | _ => false
  | .datetime a, b => match b with
    | .datetime b =>
      a.clock.offset.isSome == b.clock.offset.isSome && a.microseconds == b.microseconds
    | _ => false
  | .time a, b => match b with
    | .time b =>
      a.offset.isSome == b.offset.isSome
        && a.sinceMidnight - a.offset.getD 0 == b.sinceMidnight - b.offset.getD 0
    | _ => false
  | .duration a, b => match b with
    | .duration b => a == b
    | _ => false
  | .instant a, b => match b with
    | .instant b => a == b
    | _ => false
  | .collection kind items, b => match b with
    | .collection kind' items' =>
      match kind, kind' with
      | .set, .set | .set, .frozenSet | .frozenSet, .set | .frozenSet, .frozenSet =>
        items.length == items'.length && sameAsSet items items'
      | _, _ => kind == kind' && sameItems items items'
    | _ => false
  | .dict entries, b => match b with
    | .dict entries' => entries.length == entries'.length && sameEntries entries entries'
    | .mapping entries' => entries.length == entries'.length && sameEntries entries entries'
    | _ => false
  | .mapping entries, b => match b with
    | .dict entries' => entries.length == entries'.length && sameEntries entries entries'
    | .mapping entries' => entries.length == entries'.length && sameEntries entries entries'
    | _ => false
  | .member owner mixin name value, b =>
    match b with
    | .member owner' _ name' _ =>
      if owner = owner' then name == name'
      else sameByContent (.member owner mixin name value) b
    | _ => sameByContent (.member owner mixin name value) b
  | .classObject a, b => match b with
    | .classObject b => a == b
    | _ => false
  | .plainObject _, _ => false
  | .modelInstance c attributes _, b => match b with
    | .modelInstance c' attributes' _ =>
      c == c' && attributes.length == attributes'.length
        && sameAttributes attributes attributes'
    | _ => false
  | a, b => sameByContent a b

/-- Equality of numbers and of texts across kinds. -/
def sameByContent (a b : Value) : Bool :=
  match a.magnitude?, b.magnitude? with
  | some x, some y => x.same y
  | _, _ =>
    match a.text?, b.text? with
    | some s, some t => s == t
    | _, _ => false

def sameItems : List Value → List Value → Bool
  | [], [] => true
  | a :: as, b :: bs => a.same b && sameItems as bs
  | _, _ => false

/-- Whether every item on the left has an equal on the right. -/
def sameAsSet : List Value → List Value → Bool
  | [], _ => true
  | a :: as, bs => bs.any (fun b => a.same b) && sameAsSet as bs

/-- Whether every entry on the left has an equal on the right. -/
def sameEntries : List (Value × Value) → List (Value × Value) → Bool
  | [], _ => true
  | (key, value) :: rest, bs =>
    bs.any (fun (key', value') => key.same key' && value.same value') && sameEntries rest bs

def sameAttributes : List (String × Value) → List (String × Value) → Bool
  | [], _ => true
  | (name, value) :: rest, bs =>
    bs.any (fun (name', value') => name == name' && value.same value') && sameAttributes rest bs

end

/-! ### Dictionaries as lists of entries -/

/-- The value behind a key. -/
def assoc? (key : Value) (entries : List (Value × Value)) : Option Value :=
  (entries.find? fun (k, _) => k.same key).map (·.2)

/-- Sets a key: an existing key keeps its place, a new one comes last. -/
def assocSet (entries : List (Value × Value)) (key value : Value) : List (Value × Value) :=
  if entries.any fun (k, _) => k.same key then
    entries.map fun (k, v) => if k.same key then (k, value) else (k, v)
  else entries ++ [(key, value)]

/-- Removes a key. -/
def assocErase (entries : List (Value × Value)) (key : Value) : List (Value × Value) :=
  entries.filter fun (k, _) => !k.same key

/-- Sets the keys of the second dictionary in the first, in order. -/
def assocUpdate (entries added : List (Value × Value)) : List (Value × Value) :=
  added.foldl (fun entries (key, value) => assocSet entries key value) entries

/-- The entries of a dictionary or of another mapping. -/
def entries? : Value → Option (List (Value × Value))
  | .dict entries | .mapping entries => some entries
  | _ => none

/-- The value behind a text key of a dictionary. -/
def field? (value : Value) (key : String) : Option Value :=
  value.entries?.bind (assoc? (.str key))

/-! ### Keys -/

mutual

/-- The container that keeps a value from being a key, if there is one: it can be changed. -/
def changeable? : Value → Option Value
  | .collection kind items =>
    match kind with
    | .tuple => itemsChangeable? items
    | .frozenSet => none
    | kind => some (.collection kind items)
  | .dict entries => some (.dict entries)
  | .mapping entries => some (.mapping entries)
  | .modelInstance c attributes computed => some (.modelInstance c attributes computed)
  | .enclosing levels isDict => some (.enclosing levels isDict)
  | _ => none

def itemsChangeable? : List Value → Option Value
  | [] => none
  | item :: rest => item.changeable?.orElse fun _ => itemsChangeable? rest

end

/-! ### Size -/

mutual

/-- The number of values in a value, itself included. -/
def nodeCount : Value → Nat
  | .collection _ items => itemsCount items + 1
  | .dict entries => entriesCount entries + 1
  | _ => 1

def itemsCount : List Value → Nat
  | [] => 0
  | value :: rest => value.nodeCount + itemsCount rest

def entriesCount : List (Value × Value) → Nat
  | [] => 0
  | (_, value) :: rest => value.nodeCount + entriesCount rest

end

mutual

/-- How many containers are inside of each other at most. -/
def nesting : Value → Nat
  | .collection _ items => itemsNesting items + 1
  | .dict entries => entriesNesting entries + 1
  | _ => 0

def itemsNesting : List Value → Nat
  | [] => 0
  | value :: rest => max value.nesting (itemsNesting rest)

def entriesNesting : List (Value × Value) → Nat
  | [] => 0
  | (_, value) :: rest => max value.nesting (entriesNesting rest)

end

mutual

/-- Whether a value that was read holds itself somewhere. -/
def isEndless : Value → Bool
  | .enclosing .. => true
  | .collection _ items => itemsEndless items
  | .dict entries => entriesEndless entries
  | _ => false

def itemsEndless : List Value → Bool
  | [] => false
  | value :: rest => value.isEndless || itemsEndless rest

def entriesEndless : List (Value × Value) → Bool
  | [] => false
  | (_, value) :: rest => value.isEndless || entriesEndless rest

end

end Value

end ModelSchema
