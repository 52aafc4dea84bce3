import ModelSchema.Class.Marker

/-!
Names derived from classes: discriminator values, titles, file stems and paths.

* `Catalog.typeName`: the discriminator value written for a class.
* `subtypeName`: the default value, the class name without the name of its base in snake case.
* `fileStem`: nested names joined by a dollar sign.
-/

namespace ModelSchema

/-- Puts an underscore before every capital of a name but the first character. -/
def breakAtCapitals : List Char → List Char
  | [] => []
  | c :: rest => c :: rest.flatMap fun d => if d.isUpper then ['_', d] else [d]

/-- A name without a suffix that it does not consist of. The characters before an empty suffix are none. -/
def dropSuffix (name suffix : List Char) : List Char :=
  if name ≠ suffix ∧ suffix.isSuffixOf name then
    if suffix.isEmpty then [] else name.take (name.length - suffix.length)
  else name

/-- The default discriminator value of a class named `name` in the hierarchy of a class named
`base`. -/
def subtypeName (name base : String) : String :=
  lowerCase (String.ofList (breakAtCapitals (dropSuffix name.toList base.toList)))

/-- A text, unless it is empty. -/
def nonEmpty? (text : String) : Option String := if text.isEmpty then none else some text

namespace Catalog

/-- The name a closed list of an ancestor gives to a class. -/
def listedName? (catalog : Catalog) (c : ClassRef) : Option String :=
  (catalog.table.ancestors c).tail.findSome? fun ancestor =>
    (catalog.declaredSubTypes ancestor).findSome? fun (entry, name) =>
      if entry = c then name.bind nonEmpty? else none

/-- The discriminator value of a class: the name declared on it, else the name in a closed list of
an ancestor, else the default relative to the class that declares the discriminator. -/
def typeName (catalog : Catalog) (c : ClassRef) : String :=
  match (recordedFor? catalog.markers.typeNames c).bind nonEmpty? with
  | some name => name
  | none =>
    match catalog.listedName? c with
    | some name => name
    | none =>
      let base :=
        match catalog.typeInfo? c with
        | some (_, declaring) => declaring
        | none => c
      subtypeName (catalog.table.name c) (catalog.table.name base)

/-- The closed list of a class with the discriminator value of each entry. -/
def explicitSubTypes (catalog : Catalog) (c : ClassRef) : List (ClassRef × String) :=
  (catalog.declaredSubTypes c).map fun (entry, _) => (entry, catalog.typeName entry)

end Catalog

namespace ClassTable

/-- The title of a class: the one in its settings, else its name. -/
def title (table : ClassTable) (c : ClassRef) : String :=
  ((table.config c).title.join.bind nonEmpty?).getD (table.name c)

/-- The duration modes that write a duration as a number of seconds. -/
def numericDurationModes : List String := ["float", "seconds_float"]

/-- Whether the durations of a class are written as numbers. -/
def numericDurations (table : ClassTable) (c : ClassRef) : Bool :=
  match (table.config c).durationMode.join with
  | some mode => numericDurationModes.contains mode
  | none => false

end ClassTable

/-- The scope marker that file stems leave out. -/
def localScope : String := "<locals>"

/-- The parts of a dotted name. -/
def dottedParts (name : String) : List String := name.splitOn "."

/-- The file stem of a qualified name: its parts joined by `$`, local scopes left out. -/
def fileStem (qualname : String) : String :=
  "$".intercalate ((dottedParts qualname).filter (· != localScope))

end ModelSchema
