import ModelSchema.Polymorphism.Walk
import ModelSchema.Schema.Tree
import ModelSchema.Yaml.Printer

/-!
Schema documents and their generators.

* `SchemaDocument`: the YAML text of a schema with the class it is for and the time it was made.
* `Generator.register`: the first phase, in which the subtypes of all classes are found.
* `Generator.generate`: the second phase, one document at a time.
-/

namespace ModelSchema

/-- The text of a schema, the class it describes and the time it was made, in milliseconds. -/
structure SchemaDocument where
  type : ClassRef
  text : String
  generatedAt : Int
  deriving Repr, Inhabited

/-- Where the times of documents come from. -/
inductive DocumentClock where
  | fixed (millis : Int)
  | ticks (remaining : List Int)
  deriving Repr, Inhabited

/-- The time of the next document. -/
def DocumentClock.next? : DocumentClock → Option (Int × DocumentClock)
  | fixed millis => some (millis, fixed millis)
  | ticks [] => none
  | ticks (millis :: rest) => some (millis, ticks rest)

/-- The text of a document: its mark, its time and its body. -/
def documentText (millis : Int) (body : String) : String :=
  s!"---\n# timestamp={millis}\n{body}"

/-- The notices of an action, and its result or why it failed. -/
abbrev Reported (α : Type) := List Notice × Except Failure α

/-- A generator of documents. The registry is shared by all documents made after it was filled. -/
structure Generator where
  scope : Scope
  locator : Locator
  clock : DocumentClock
  registry : Registry

namespace Generator

/-- A generator that has not registered anything. -/
def fresh (scope : Scope) (locator : Locator) (clock : DocumentClock) : Generator :=
  ⟨scope, locator, clock, []⟩

/-- Finds the subtypes for all documents to come. When this fails the registry stays as it was. -/
def register (generator : Generator) (catalog : Catalog) (types : List Ty) :
    Generator × Reported Registry :=
  let walker : Walker := ⟨catalog, generator.locator, generator.scope⟩
  match walker.run types with
  | (notices, .ok registry) => ({ generator with registry := registry }, notices, .ok registry)
  | (notices, .error failure) => (generator, notices, .error failure)

/-- The YAML text of the schema of a class. Any failure is reported for the class. -/
def body (catalog : Catalog) (registry : Registry) (c : ClassRef) : Reported String :=
  let failed (failure : Failure) : Except Failure String :=
    .error (.schemaBuild (catalog.table.qualifiedName c) [] (some failure))
  match (SchemaSource.mk catalog registry c).tree with
  | (notices, .error failure) => (notices, failed failure)
  | (notices, .ok tree) =>
    match tree.toYaml catalog.table with
    | .error fault => (notices, failed (.fault fault))
    | .ok text => (notices, .ok text)

/-- Makes the document of a class with a registry. The clock is read once the text is made. -/
def build (generator : Generator) (catalog : Catalog) (registry : Registry) (c : ClassRef) :
    Generator × Reported SchemaDocument :=
  match body catalog registry c with
  | (notices, .error failure) => (generator, notices, .error failure)
  | (notices, .ok text) =>
    match generator.clock.next? with
    | none => (generator, notices, .error (.fault .clockExhausted))
    | some (millis, clock) =>
      ({ generator with clock := clock }, notices, .ok ⟨c, documentText millis text, millis⟩)

/-- Makes the document of a class with the registry of the generator. -/
def generate (generator : Generator) (catalog : Catalog) (c : ClassRef) :
    Generator × Reported SchemaDocument :=
  generator.build catalog generator.registry c

end Generator

end ModelSchema
