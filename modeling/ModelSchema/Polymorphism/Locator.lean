import ModelSchema.Failure
import ModelSchema.Saturation
import ModelSchema.Scope.Filter

/-!
Locators: where the subtypes of a class come from.

* `Locator`: any way to find the subtypes of a class in a scope.
* `Locator.subclasses`: the descendants in scope, without parametrised models.
-/

namespace ModelSchema

/-- A way to find the subtypes of a class in a scope. It may fail. -/
abbrev Locator := ClassTable → ClassRef → Scope → Except Failure (List ClassRef)

namespace ClassTable

/-- The classes that name a class among their bases. -/
def directSubclasses (table : ClassTable) (c : ClassRef) : List ClassRef :=
  table.allClasses.filter fun d => (table.bases d).contains c

/-- The classes below a class: its direct subclasses, theirs, and so on. -/
def descendants (table : ClassTable) (c : ClassRef) : List ClassRef :=
  saturate table.directSubclasses table.allClasses.length (table.directSubclasses c)

end ClassTable

namespace Locator

/-- Finds the descendants in scope. Parametrised models are passed through but not returned: they
share the schema of their origin. -/
def subclasses : Locator := fun table c scope =>
  .ok ((table.descendants c).filter fun d => !table.isParametrised d && scope.allows table d)

/-- Looks subtypes up in a fixed list by qualified name, whatever the scope. -/
def ofList (entries : List (String × List ClassRef)) : Locator := fun table c _ =>
  match entries.find? (·.1 = table.qualifiedName c) with
  | some (_, found) => .ok found
  | none => .ok []

/-- Fails on every query. -/
def failing (failure : Failure) : Locator := fun _ _ _ => .error failure

end Locator

end ModelSchema
