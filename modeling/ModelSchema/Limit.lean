import ModelSchema.Annotation
import ModelSchema.Failure

/-!
Limits: the schema keywords that the notes around an annotation ask for.

* `LimitKey`: the keywords. Lengths have no keyword yet, as it depends on the node they land on.
* `limitsOf`: the limits of a list of notes. A later note wins, the keyword keeps its place.
* `withLimits`: a schema node with limits set.
-/

namespace ModelSchema

/-- What a limit restricts. -/
inductive LimitKey where
  | exclusiveMinimum
  | minimum
  | exclusiveMaximum
  | maximum
  | multipleOf
  | minLength
  | maxLength
  | pattern
  deriving DecidableEq, Repr, Inhabited

/-- Limits in the order in which they were first set. -/
abbrev Limits := List (LimitKey × Value)

namespace LimitKey

/-- The name of a limit before it is put on a node. -/
def name : LimitKey → String
  | exclusiveMinimum => "exclusiveMinimum"
  | minimum => "minimum"
  | exclusiveMaximum => "exclusiveMaximum"
  | maximum => "maximum"
  | multipleOf => "multipleOf"
  | minLength => "min_length"
  | maxLength => "max_length"
  | pattern => "pattern"

/-- The end of a length keyword for a JSON type. -/
def lengthUnit (type : Option String) : String :=
  if type = some "array" then "Items"
  else if type = some "object" then "Properties"
  else "Length"

/-- The keyword of a limit on a node of a JSON type. -/
def keyword (type : Option String) : LimitKey → String
  | minLength => "min" ++ lengthUnit type
  | maxLength => "max" ++ lengthUnit type
  | key => key.name

end LimitKey

namespace Limits

/-- Sets a limit: a limit that is set already keeps its place. -/
def set (limits : Limits) (key : LimitKey) (value : Value) : Limits :=
  if limits.any (·.1 = key) then
    limits.map fun (k, v) => if k = key then (k, value) else (k, v)
  else limits ++ [(key, value)]

/-- Sets all limits of another list, in order. -/
def update (limits added : Limits) : Limits :=
  added.foldl (fun limits (key, value) => limits.set key value) limits

end Limits

/-- A number as schemas write it: a decimal becomes an integer or a double. -/
def plainNumber (value : Value) : Except Fault Value :=
  match value with
  | .decimal x =>
    match x.plainNumber with
    | .ok (.inl n) => .ok (.int n)
    | .ok (.inr y) => .ok (.float y)
    | .error .infinite => .error .infiniteInteger
    | .error .signaling => .error .signalingDecimal
  | value => .ok value

/-- The numeric limits that constraints can set, in order. -/
def Constraints.numeric (c : Constraints) : List (LimitKey × Option Value) :=
  [(.exclusiveMinimum, c.gt), (.minimum, c.ge), (.exclusiveMaximum, c.lt), (.maximum, c.le),
    (.multipleOf, c.multipleOf)]

/-- The other limits that constraints can set, in order. -/
def Constraints.other (c : Constraints) : List (LimitKey × Option Value) :=
  [(.minLength, c.minLength), (.maxLength, c.maxLength), (.pattern, c.pattern)]

/-- A limit to set, unless its value is absent or null. -/
def presentLimit : LimitKey × Option Value → Option (LimitKey × Value)
  | (_, none) | (_, some .null) => none
  | (key, some value) => some (key, value)

/-- Limits with those of one note set on top. -/
def addConstraints (limits : Limits) (c : Constraints) : Except Fault Limits := do
  let numeric ← (c.numeric.filterMap presentLimit).mapM fun (key, value) => do
    return (key, ← plainNumber value)
  pure ((limits.update numeric).update (c.other.filterMap presentLimit))

/-- The limits of a list of notes. -/
def limitsOf (notes : List Note) : Except Fault Limits :=
  (notes.map Note.constraints).foldlM addConstraints []

/-- The text a node has as its type. -/
def typeKeyword? (node : List (Value × Value)) : Option String :=
  (Value.assoc? (.str "type") node).bind fun
    | .str s => some s
    | _ => none

/-- Sets limits on a node. Lengths follow the given JSON type, or else the one of the node. -/
def withLimits (node : List (Value × Value)) (limits : Limits) (type : Option String) :
    List (Value × Value) :=
  let type := type.orElse fun _ => typeKeyword? node
  limits.foldl (fun node (key, value) => Value.assocSet node (.str (key.keyword type)) value) node

end ModelSchema
