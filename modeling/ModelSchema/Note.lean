import ModelSchema.Failure

/-!
Notes: what can be attached to an annotation.

* `Constraints`: the limits a note sets; `Note.constraints` reads them off.
* `Fragment`: what a class or a field adds to its node in a schema.
* `FieldSettings`: what the description of a field sets. One description can stand over another.
* `Note.same`: equality of notes. A description of a field, or a thing with attributes of its own,
  is equal to nothing.
-/

namespace ModelSchema

/-! ### Fragments -/

/-- An edit of a finished schema node by a callable: keys are removed, keys are set, the owner is
noted when there is a second parameter, and last the callable may fail. -/
structure NodeEdit where
  parameters : Nat
  remove : List Value
  assign : List (Value × Value)
  failure : Option Failure
  deriving Repr, Inhabited

/-- A fragment injected into a schema node: entries to merge, or an edit. -/
inductive Fragment where
  | merge (entries : List (Value × Value))
  | edit (change : NodeEdit)
  deriving Repr, Inhabited

/-! ### Limits -/

/-- The limits a note can set; an absent one sets nothing. -/
structure Constraints where
  gt : Option Value
  ge : Option Value
  lt : Option Value
  le : Option Value
  multipleOf : Option Value
  minLength : Option Value
  maxLength : Option Value
  pattern : Option Value
  deriving Repr, Inhabited

namespace Constraints

/-- Limits that set nothing. -/
def empty : Constraints := ⟨none, none, none, none, none, none, none, none⟩

/-- All limits, absent ones included. -/
def toList (c : Constraints) : List (Option Value) :=
  [c.gt, c.ge, c.lt, c.le, c.multipleOf, c.minLength, c.maxLength, c.pattern]

/-- Whether two values that may be absent are equal. -/
def sameOption : Option Value → Option Value → Bool
  | none, none => true
  | some a, some b => a.same b
  | _, _ => false

/-- Whether the same limits are set, to equal values. -/
def same (c d : Constraints) : Bool :=
  (c.toList.zip d.toList).all fun (a, b) => sameOption a b

end Constraints

/-- The notes that set a single limit. -/
inductive Bound where
  | gt
  | ge
  | lt
  | le
  | multipleOf
  | minLength
  | maxLength
  deriving DecidableEq, Repr, Inhabited

/-- The limits of a single bound. -/
def Bound.constraints (value : Value) : Bound → Constraints
  | gt => { Constraints.empty with gt := some value }
  | ge => { Constraints.empty with ge := some value }
  | lt => { Constraints.empty with lt := some value }
  | le => { Constraints.empty with le := some value }
  | multipleOf => { Constraints.empty with multipleOf := some value }
  | minLength => { Constraints.empty with minLength := some value }
  | maxLength => { Constraints.empty with maxLength := some value }

/-! ### Descriptions of fields -/

/-- What the description of a field sets. A text that is set can be set to nothing. -/
structure FieldSettings where
  default : Option Value
  factory : Option Value
  aliasName : Option (Option String)
  serializationAlias : Option (Option String)
  validationAlias : Option (Option String)
  title : Option (Option String)
  description : Option (Option String)
  excluded : Option Bool
  extra : Option Fragment
  limits : Constraints
  deriving Repr, Inhabited

namespace FieldSettings

/-- A description that sets nothing. -/
def empty : FieldSettings :=
  ⟨none, none, none, none, none, none, none, none, none, .empty⟩

/-- Two fragments in one: of two lists of entries the second is put on top of the first. -/
def mergedExtra : Option Fragment → Option Fragment → Option Fragment
  | some (.merge below), some (.merge above) => some (.merge (Value.assocUpdate below above))
  | below, above => above.orElse fun _ => below

/-- A description with what another one sets on top. The limits are those of the one on top. -/
def merge (below above : FieldSettings) : FieldSettings :=
  { default := above.default.orElse fun _ => below.default
    factory := above.factory.orElse fun _ => below.factory
    aliasName := above.aliasName.orElse fun _ => below.aliasName
    serializationAlias := above.serializationAlias.orElse fun _ => below.serializationAlias
    validationAlias := above.validationAlias.orElse fun _ => below.validationAlias
    title := above.title.orElse fun _ => below.title
    description := above.description.orElse fun _ => below.description
    excluded := above.excluded.orElse fun _ => below.excluded
    extra := mergedExtra below.extra above.extra
    limits := above.limits }

/-- A description in which an alias is also the name to write under and the name to read under,
unless these are given. -/
def withAlias (settings : FieldSettings) : FieldSettings :=
  let given (own : Option (Option String)) : Option (Option String) :=
    match own.join, settings.aliasName.join with
    | none, some name => some (some name)
    | _, _ => own
  { settings with
    serializationAlias := given settings.serializationAlias
    validationAlias := given settings.validationAlias }

end FieldSettings

/-! ### Notes -/

/-- Something attached to an annotation. `required` forces the property into the required list, a
`remark` says nothing, and `attributes` are those of a thing of its own. -/
inductive Note where
  | required
  | remark (text : String)
  | bound (kind : Bound) (value : Value)
  | length (least most : Value)
  | interval (limits : Constraints)
  | textLimits (limits : Constraints)
  | attributes (limits : Constraints)
  | field (settings : FieldSettings)
  deriving Repr, Inhabited

namespace Note

/-- The limits a note sets. The description of a field shows none. -/
def constraints : Note → Constraints
  | required | remark _ | field _ => .empty
  | bound kind value => kind.constraints value
  | length least most =>
    { Constraints.empty with minLength := some least, maxLength := some most }
  | interval limits | textLimits limits | attributes limits => limits

/-- Whether two notes are equal. -/
def same : Note → Note → Bool
  | required, required => true
  | remark a, remark b => a == b
  | bound k a, bound k' b => k == k' && a.same b
  | length a b, length a' b' => a.same a' && b.same b'
  | interval a, interval b => a.same b
  | textLimits a, textLimits b => a.same b
  | _, _ => false

/-- The values by which a note is told apart. -/
def values : Note → List Value
  | required | remark _ | attributes _ | field _ => []
  | bound _ value => [value]
  | length least most => [least, most]
  | interval limits | textLimits limits => limits.toList.filterMap id

/-- Whether the notes of two lists are equal, one by one. -/
def sameInOrder : List Note → List Note → Bool
  | [], [] => true
  | a :: as, b :: bs => a.same b && sameInOrder as bs
  | _, _ => false

end Note

end ModelSchema
