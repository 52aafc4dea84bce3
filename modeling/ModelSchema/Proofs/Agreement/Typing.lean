import Mathlib.Data.List.Pairwise
import ModelSchema.Leaf
import ModelSchema.Payload.Basic
import ModelSchema.Polymorphism.Registry
import ModelSchema.Proofs.Payload.Parts

/-!
Values of annotations.

* `Ty.BuiltFrom`: annotations that are built from some classes by lists, tuples, dictionaries and
  unions.
* `Catalog.HasRegularParts`: models whose annotations are built from some classes, without limits, and
  whose properties are written under names of their own.
* `Catalog.IsRegular`: models with regular parts, in whose annotations all names are known.
* `ClassTable.HasType`, `SchemaSource.HasType`: the values of an annotation. For a schema those of a
  model are instances of the classes that the schema lets choose from.
* `SchemaSource.TellsApart`: classes whose branches have different values for one discriminator.
-/

namespace ModelSchema

/-! ### Annotations -/

/-- Whether the values of a basic class are scalars. An instant is one although it is written as an
object. -/
def BasicClass.isScalar : BasicClass → Bool
  | .str | .bool | .int | .float | .decimal | .uuid | .date | .datetime | .time | .duration
  | .instant => true
  | _ => false

namespace Ty

def isUnion : Ty → Bool
  | .union _ _ => true
  | _ => false

/-- Annotations that are built from some classes. The members of a union are no unions, as they are
flattened when a union is made. -/
inductive BuiltFrom (isPart : ClassRef → Prop) : Ty → Prop where
  | cls {c : ClassRef} : isPart c → BuiltFrom isPart (.cls c)
  | list {t : Ty} : BuiltFrom isPart t → BuiltFrom isPart (.array .list t)
  | sequence {t : Ty} : BuiltFrom isPart t → BuiltFrom isPart (.tuple [t, .ellipsis])
  | tuple {ts : List Ty} : ts ≠ [] → (∀ t ∈ ts, BuiltFrom isPart t) →
      BuiltFrom isPart (.tuple ts)
  | map {t : Ty} : BuiltFrom isPart t →
      BuiltFrom isPart (.map .dict (.cls (.basic .str)) t)
  | union {piped : Bool} {ts : List Ty} : (∀ t ∈ ts, t.isUnion = false) →
      (∀ t ∈ ts, t ≠ .none → BuiltFrom isPart t) → BuiltFrom isPart (.union piped ts)

end Ty

namespace ClassTable

/-- Whether a class is a model that is written as an object. -/
def IsObject (table : ClassTable) (c : ClassRef) : Prop :=
  table.isBasicSubclass c .model = true ∧ table.isLeaf c = false

/-- Whether a class is a scalar or a model that is written as an object. -/
def IsPart (table : ClassTable) (c : ClassRef) : Prop :=
  (∃ b, c = .basic b ∧ b.isScalar = true) ∨ table.IsObject c

/-- Whether a class is a scalar or a model, be it written as an object or as a leaf. -/
def IsScalarOrModel (table : ClassTable) (c : ClassRef) : Prop :=
  (∃ b, c = .basic b ∧ b.isScalar = true) ∨ table.isBasicSubclass c .model = true

/-- No scalar is a model. -/
theorem isBasicSubclass_of_isScalar {table : ClassTable} {b : BasicClass}
    (isScalar : b.isScalar = true) : table.isBasicSubclass (.basic b) .model = false := by
  cases b <;> first
    | rfl
    | cases isScalar

end ClassTable

namespace Catalog

/-- Whether what a model consists of is built from some classes, without limits, and named and written
under names of its own. -/
structure HasRegularParts (catalog : Catalog) (isPart : ClassRef → Prop) (c : ClassRef)
    (info : ModelInfo) : Prop where
  annotation : ∀ field ∈ info.fields, field.excluded = false →
    (catalog.table.resolve field.annotation).BuiltFrom isPart
  returns : ∀ field ∈ info.computed, (catalog.table.resolve field.returns).BuiltFrom isPart
  unlimited : ∀ field ∈ info.fields, field.excluded = false → limitsOf field.notes = .ok []
  fieldNames : (info.fields.map (·.name)).Nodup
  computedNames : (info.computed.map (·.name)).Nodup
  distinct : ((info.fields.filter fun field => !field.excluded).map Field.publicName
    ++ info.computed.map ComputedField.publicName).Nodup
  apart : ∀ field ∈ info.computed, catalog.writtenDiscriminator? c ≠ some field.publicName

/-- Whether all names in the annotations of a class are known, and it is regular in its parts if it
is a model. -/
structure IsRegular (catalog : Catalog) (isPart : ClassRef → Prop) (c : ClassRef) : Prop where
  resolved : catalog.table.unresolvedName? c = none
  parts : ∀ info, catalog.table.model? c = some info → catalog.HasRegularParts isPart c info

end Catalog

/-! ### Values -/

/-- The values of an annotation, where it is given which instances a model has as its values. Decimal
numbers are finite. Excluded fields of a model do not count. -/
inductive ClassTable.HasType (table : ClassTable) (hasInstance : ClassRef → ClassRef → Prop) :
    Ty → Value → Prop where
  | none : HasType table hasInstance .none .null
  | str (s : String) : HasType table hasInstance (.cls (.basic .str)) (.str s)
  | bool (b : Bool) : HasType table hasInstance (.cls (.basic .bool)) (.bool b)
  | int (n : Int) : HasType table hasInstance (.cls (.basic .int)) (.int n)
  | float (x : Binary64) : HasType table hasInstance (.cls (.basic .float)) (.float x)
  | decimal (negative : Bool) (coefficient : Nat) (exponent : Int) :
      HasType table hasInstance (.cls (.basic .decimal))
        (.decimal (.finite negative coefficient exponent))
  | uuid (text : String) : HasType table hasInstance (.cls (.basic .uuid)) (.uuid text)
  | date (d : Date) : HasType table hasInstance (.cls (.basic .date)) (.date d)
  | datetime (t : DateTime) : HasType table hasInstance (.cls (.basic .datetime)) (.datetime t)
  | time (c : Clock) : HasType table hasInstance (.cls (.basic .time)) (.time c)
  | duration (d : Duration) : HasType table hasInstance (.cls (.basic .duration)) (.duration d)
  | instant (i : Instant) : HasType table hasInstance (.cls (.basic .instant)) (.instant i)
  | list {t : Ty} {items : List Value} : (∀ item ∈ items, HasType table hasInstance t item) →
      HasType table hasInstance (.array .list t) (.list items)
  | sequence {t : Ty} {items : List Value} : (∀ item ∈ items, HasType table hasInstance t item) →
      HasType table hasInstance (.tuple [t, .ellipsis]) (.collection .tuple items)
  | tuple {ts : List Ty} {items : List Value} : ts.length = items.length →
      (∀ pair ∈ ts.zip items, HasType table hasInstance pair.1 pair.2) →
      HasType table hasInstance (.tuple ts) (.collection .tuple items)
  | map {t : Ty} {entries : List (String × Value)} :
      (∀ entry ∈ entries, HasType table hasInstance t entry.2) →
      HasType table hasInstance (.map .dict (.cls (.basic .str)) t) (.record entries)
  | union {piped : Bool} {ts : List Ty} {t : Ty} {value : Value} : t ∈ ts →
      HasType table hasInstance t value → HasType table hasInstance (.union piped ts) value
  | model {c d : ClassRef} {info : ModelInfo} {attributes computed : List (String × Value)} :
      table.isBasicSubclass c .model = true → hasInstance c d → table.model? d = some info →
      (∀ field ∈ info.fields, field.excluded = false →
        (attributeValue? attributes field.name).isSome) →
      (∀ field ∈ info.fields, field.excluded = false → ∀ value,
        attributeValue? attributes field.name = some value →
        HasType table hasInstance (table.resolve field.annotation) value) →
      (∀ field ∈ info.computed, (attributeValue? computed field.name).isSome) →
      (∀ field ∈ info.computed, ∀ value, attributeValue? computed field.name = some value →
        HasType table hasInstance (table.resolve field.returns) value) →
      HasType table hasInstance (.cls c) (.modelInstance d attributes computed)

namespace SchemaSource

/-- The classes that the instances of a class have for a schema: its subtypes, or else the class
itself. -/
def choices (source : SchemaSource) (c : ClassRef) : List ClassRef :=
  match source.subTypes c with
  | [] => [c]
  | subTypes => subTypes

/-- The values of an annotation for a schema, in which a class with subtypes stands for these. -/
def HasType (source : SchemaSource) (t : Ty) (value : Value) : Prop :=
  source.catalog.table.HasType (fun c d => d ∈ source.choices c) t value

/-- Whether the branches of a class have one discriminator, with different values. -/
def TellsApart (source : SchemaSource) (c : ClassRef) : Prop :=
  (source.subTypes c).Pairwise fun d e => ∃ property,
    source.catalog.writtenDiscriminator? d = some property
      ∧ source.catalog.writtenDiscriminator? e = some property
      ∧ source.catalog.typeName d ≠ source.catalog.typeName e

namespace TellsApart

variable {source : SchemaSource} {c d e : ClassRef} (apart : source.TellsApart c)
include apart

theorem nodup : (source.subTypes c).Nodup := by
  refine List.Pairwise.imp ?_ apart
  rintro d _ ⟨_, -, -, names⟩ rfl
  exact names rfl

theorem differ (here : d ∈ source.subTypes c) (there : e ∈ source.subTypes c) (differs : d ≠ e) :
    ∃ property, source.catalog.writtenDiscriminator? d = some property
      ∧ source.catalog.writtenDiscriminator? e = some property
      ∧ source.catalog.typeName d ≠ source.catalog.typeName e := by
  have symmetric : Std.Symm fun d e => ∃ property,
      source.catalog.writtenDiscriminator? d = some property
        ∧ source.catalog.writtenDiscriminator? e = some property
        ∧ source.catalog.typeName d ≠ source.catalog.typeName e :=
    ⟨fun _ _ ⟨property, ofFirst, ofSecond, names⟩ => ⟨property, ofSecond, ofFirst, Ne.symm names⟩⟩
  exact List.Pairwise.forall apart here there differs

end TellsApart

end SchemaSource

end ModelSchema
