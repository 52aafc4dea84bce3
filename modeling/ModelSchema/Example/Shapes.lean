import ModelSchema.Modules.Space

/-!
A small polymorphic model: a drawing of circles and squares.

It is a module like any other one, so that a run can import it by its name.
-/

namespace ModelSchema.Example

/-- A field with a name and an annotation and nothing else. -/
def plainField (name : String) (type : Ty) : Field :=
  { name := name, annotation := type, notes := [], default := none, aliasName := none
    serializationAlias := none, hasOwnAlias := false, title := none, description := none
    excluded := false, extra := none }

/-- Declares a model of the example. -/
def declare (name : String) (bases : List ClassRef) (fields : List Field) :
    Describing ClassRef := do
  let (table, c) ← Describing.ofExcept ((← Describing.table).declareModel none
    ⟨⟨"examples.shapes", name, name⟩, bases, [], .empty, fields, []⟩)
  Describing.setTable table
  return c

/-- The module with the model. -/
def shapes : SourceModule :=
  { name := "examples.shapes"
    isPackage := false
    body := do
      let shape ← declare "Shape" [] []
      modify fun catalog => catalog.markTypeInfo shape defaultDiscriminator
      let _ ← declare "Circle" [shape] [plainField "radius" (.basic .float)]
      let _ ← declare "Square" [shape] [plainField "side" (.basic .float)]
      let drawing ← declare "Drawing" []
        [{ plainField "name" (.basic .str) with
            description := some "Display name of the drawing" },
          { plainField "shapes" (.array .list (.cls shape)) with default := some (.list []) },
          plainField "created" (.basic .instant),
          { plainField "modified" (.optional (.basic .datetime)) with default := some .null }]
      modify fun catalog => catalog.markRoot drawing }

/-- The package around the module. -/
def package : SourceModule := ⟨"examples", true, pure ()⟩

/-- All modules of the example. -/
def modules : List SourceModule := [package, shapes]

end ModelSchema.Example
