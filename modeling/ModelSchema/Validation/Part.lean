import ModelSchema.Failure
import ModelSchema.Shown
import ModelSchema.Unfolding

/-!
Looking into the parts of a schema, whatever stands there.

A schema document can have any value in any place, and a keyword takes its argument as it is: it
asks for the items, the entries, the size or a part of it. Not every value has them. Each function
here answers with the part, or with the fault of asking in vain. Parts are values of their own.
-/

namespace ModelSchema

namespace Value

/-! ### Parts -/

/-- Whether a value has a part: an object a key, a collection an item, a text a shorter text. -/
def hasPart (table : ClassTable) (value part : Value) : Except Fault Bool :=
  match value with
  | .dict entries => do
    let key ← part.asKey table
    return (assoc? key entries).isSome
  | .collection kind items => do
    let part ← match kind with
      | .set | .frozenSet => part.asKey table
      | _ => pure part
    return items.any (·.same part)
  | .str s =>
    match part.text? with
    | some part => .ok ((s.splitOn part).length > 1 || part.isEmpty)
    | none =>
      .error (typeFault
        s!"'in <string>' requires string as left operand, not {part.operandName table}")
  | .bytes data =>
    match part with
    | .int n => .ok (data.any fun byte => (byte.toNat : Int) = n)
    | part =>
      .error (typeFault s!"a bytes-like object is required, not {quoted (part.operandName table)}")
  | value =>
    .error (typeFault s!"argument of type {quoted (value.operandName table)} is not iterable")

/-- The value behind a key of an object. -/
def entryNamed? (key : String) (container : Value) (entries : List (Value × Value)) :
    Option Value :=
  (entries.findIdx? fun (k, _) => k.same (.str key)).bind fun place =>
    entries[place]?.map fun (_, value) => container.unfoldedPart place value

/-- The value behind a key, if a value is an object. -/
def partNamed? (table : ClassTable) (key : String) (value : Value) : Except Fault (Option Value) :=
  match value with
  | .dict entries => .ok (entryNamed? key value entries)
  | value => .error (.missingAttribute (value.operandName table) "get")

/-- The value behind a key that is known to be a part. -/
def partAt (table : ClassTable) (key : String) (value : Value) : Except Fault Value :=
  match value with
  | .dict entries =>
    match entryNamed? key value entries with
    | some value => .ok value
    | none => .error (.missingKey key)
  | .collection .list _ => .error (typeFault "list indices must be integers or slices, not str")
  | .collection .tuple _ => .error (typeFault "tuple indices must be integers or slices, not str")
  | .str _ => .error (typeFault "string indices must be integers, not 'str'")
  | .bytes _ => .error (typeFault "byte indices must be integers or slices, not str")
  | value =>
    .error (typeFault s!"{quoted (value.operandName table)} object is not subscriptable")

/-- The items of a collection, the keys of an object, the characters of a text. -/
def parts (table : ClassTable) (value : Value) : Except Fault (List Value) :=
  match value with
  | .collection .. => .ok value.unfoldedChildren
  | .str s => .ok (s.toList.map fun c => .str (String.singleton c))
  | .bytes data => .ok (data.map fun byte => .int byte.toNat)
  | .dict entries => .ok (entries.map (·.1))
  | value =>
    .error (typeFault s!"{quoted (value.operandName table)} object is not iterable")

/-- The entries of an object. -/
def partEntries (table : ClassTable) (value : Value) : Except Fault (List (Value × Value)) :=
  match value with
  | .dict entries => .ok ((entries.map (·.1)).zip value.unfoldedChildren)
  | value => .error (.missingAttribute (value.operandName table) "items")

/-- The values of an object. -/
def partValues (table : ClassTable) (value : Value) : Except Fault (List Value) :=
  match value with
  | .dict _ => .ok value.unfoldedChildren
  | value => .error (.missingAttribute (value.operandName table) "values")

/-- The number of parts. -/
def partCount (table : ClassTable) : Value → Except Fault Nat
  | .collection _ items => .ok items.length
  | .dict entries => .ok entries.length
  | .str s => .ok s.length
  | .bytes data => .ok data.length
  | value =>
    .error (typeFault s!"object of type {quoted (value.operandName table)} has no len()")

/-- Whether a text that has to be one begins with a sign. -/
def beginsWith (table : ClassTable) (sign : String) (value : Value) : Except Fault Bool :=
  match value with
  | .str s => .ok (s.startsWith sign)
  | .bytes _ =>
    .error (typeFault "startswith first arg must be bytes or a tuple of bytes, not str")
  | value => .error (.missingAttribute (value.operandName table) "startswith")

end Value

end ModelSchema
