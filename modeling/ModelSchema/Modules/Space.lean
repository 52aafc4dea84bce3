import ModelSchema.Description.Class

/-!
Modules that classes are declared in.

* `SourceModule`: a module that can be imported. To import it is to run its body.
* `Workspace`: the classes declared so far, the modules there are and the modules that are loaded.
* `Workspace.importModule`: loads a module after the packages around it, each at most once.
-/

namespace ModelSchema

/-- A module. Its body adds to a catalog and may fail. -/
structure SourceModule where
  name : String
  isPackage : Bool
  body : Describing Unit

/-- Whether a loaded module holds others. -/
structure LoadedModule where
  name : String
  isPackage : Bool
  deriving DecidableEq, Repr, Inhabited

/-- The classes declared so far, the modules that can be imported and those that are loaded. -/
structure Workspace where
  catalog : Catalog
  available : List SourceModule
  loaded : List LoadedModule

namespace Workspace

/-- A workspace in which nothing is declared yet. -/
def ofModules (available : List SourceModule) : Workspace := ⟨.empty, available, []⟩

def isLoaded (workspace : Workspace) (name : String) : Bool :=
  workspace.loaded.any (·.name = name)

def isLoadedPackage (workspace : Workspace) (name : String) : Bool :=
  workspace.loaded.any fun m => m.name = name && m.isPackage

/-- Adds a loaded module unless there is one of the name. -/
def addLoaded (workspace : Workspace) (name : String) (isPackage : Bool) : Workspace :=
  if workspace.isLoaded name then workspace
  else { workspace with loaded := workspace.loaded ++ [⟨name, isPackage⟩] }

/-- The modules of all classes count as loaded. -/
def addDeclaredModules (workspace : Workspace) : Workspace :=
  let table := workspace.catalog.table
  (table.declared.map table.module).foldl (fun w name => w.addLoaded name false) workspace

/-- Runs declarations. What they add stays, even if they fail. -/
def run (workspace : Workspace) (body : Describing Unit) : Workspace × Except Failure Unit :=
  let (result, catalog) := body.run workspace.catalog
  ({ workspace with catalog := catalog }.addDeclaredModules, result)

/-- Runs the body of a module. A module whose body fails is not loaded. -/
def load (workspace : Workspace) (module : SourceModule) : Workspace × Except Failure Unit :=
  match (workspace.addLoaded module.name module.isPackage).run module.body with
  | (after, .ok ()) => (after, .ok ())
  | (after, .error failure) =>
    ({ after with loaded := after.loaded.filter (·.name != module.name) }, .error failure)

/-- The dotted name of components that are given last first. -/
def reversedName (parts : List String) : String := ".".intercalate parts.reverse

/-- Loads the module with the components of a name, last first, after the package it is in. -/
def importParts (workspace : Workspace) : List String → Workspace × Except Failure Unit
  | [] => (workspace, .ok ())
  | part :: above =>
    let name := reversedName (part :: above)
    if workspace.isLoaded name then (workspace, .ok ())
    else
      match workspace.importParts above with
      | (workspace, .error failure) => (workspace, .error failure)
      | (workspace, .ok ()) =>
        if workspace.isLoaded name then (workspace, .ok ())
        else if !above.isEmpty && !workspace.isLoadedPackage (reversedName above) then
          (workspace, .error (.fault (.notAPackage name (reversedName above))))
        else
          match workspace.available.find? (·.name = name) with
          | some module => workspace.load module
          | none => (workspace, .error (.fault (.noModule name)))

/-- Imports a module. -/
def importModule (workspace : Workspace) (name : String) : Workspace × Except Failure Unit :=
  if name.startsWith "." then (workspace, .error (.fault (.relativeModuleName name)))
  else if name.isEmpty then (workspace, .error (.fault .emptyModuleName))
  else workspace.importParts (dottedParts name).reverse

end Workspace

/-- A module from its description: a record with a name, whether it is a package, and what it
declares or the error it raises. -/
def SourceModule.ofDescription (description : Value) : SourceModule :=
  let name := description.textAt "name"
  { name := name
    isPackage := description.flagAt "package"
    body :=
      match (description.at? "raises").bind failureOfPair? with
      | some failure => throw failure
      | none => Describing.declareAll name (description.itemsAt "defs") }

end ModelSchema
