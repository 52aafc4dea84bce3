import ModelSchema.Modules.Space
import ModelSchema.Schema.Document

/-!
Searching for the classes that schemas are generated for.

* `Workspace.importTree`: imports a module and, if it is a package, everything inside it.
* `Workspace.findRoots`: imports what a scope names, then finds the roots in scope.

A module that can not be imported is reported and left out. Any other failure ends the search.
-/

namespace ModelSchema

namespace Workspace

/-- The name of the package that a module is in. -/
def containerName (name : String) : String := ".".intercalate (dottedParts name).dropLast

/-- The modules inside a package at any depth: by name, each package before what is inside it. -/
def modulesBelow (workspace : Workspace) (package : String) : List SourceModule :=
  (workspace.available.filter fun module => module.name.startsWith (package ++ ".")).mergeSort
    fun a b => !(dottedParts b.name).lex (dottedParts a.name)

/-- Imports a package once more, in order to search it: whether that succeeds and there is
something to search. -/
def openPackage (workspace : Workspace) (module : SourceModule) :
    Workspace × List Notice × Bool :=
  if module.isPackage then
    match workspace.importModule module.name with
    | (workspace, .ok ()) => (workspace, [], workspace.isLoadedPackage module.name)
    | (workspace, .error _) => (workspace, [.importFailed module.name none], false)
  else (workspace, [], false)

/-- Imports modules in order, each only if the package it is in has been opened. -/
def importEach (workspace : Workspace) (opened : List String) :
    List SourceModule → Workspace × Reported Unit
  | [] => (workspace, [], .ok ())
  | module :: rest =>
    if !opened.contains (containerName module.name) then workspace.importEach opened rest
    else
      let goOn (workspace : Workspace) (notices : List Notice) : Workspace × Reported Unit :=
        let (workspace, more, isOpen) := workspace.openPackage module
        let opened := if isOpen then opened ++ [module.name] else opened
        let (workspace, others, result) := workspace.importEach opened rest
        (workspace, notices ++ more ++ others, result)
      match workspace.importModule module.name with
      | (workspace, .ok ()) => goOn workspace []
      | (workspace, .error failure) =>
        if failure.isImportError then
          goOn workspace [.importFailed module.name (some failure.text)]
        else (workspace, [], .error failure)

/-- Imports a module with everything inside it. -/
def importTree (workspace : Workspace) (name : String) : Workspace × Reported Unit :=
  match workspace.importModule name with
  | (workspace, .ok ()) =>
    if workspace.isLoadedPackage name then
      workspace.importEach [name] (workspace.modulesBelow name)
    else (workspace, [], .ok ())
  | (workspace, .error failure) =>
    if failure.isImportError then
      (workspace, [.importFailed name (some failure.text)], .ok ())
    else (workspace, [], .error failure)

/-- Imports modules with everything inside them, up to the first failure. -/
def importTrees (workspace : Workspace) : List String → Workspace × Reported Unit
  | [] => (workspace, [], .ok ())
  | name :: rest =>
    match workspace.importTree name with
    | (workspace, notices, .ok ()) =>
      let (workspace, more, result) := workspace.importTrees rest
      (workspace, notices ++ more, result)
    | (workspace, notices, .error failure) => (workspace, notices, .error failure)

/-- The roots in scope, by qualified name. -/
def rootsIn (workspace : Workspace) (scope : Scope) : List ClassRef :=
  let table := workspace.catalog.table
  table.sortedByQualifiedName (workspace.catalog.markers.roots.filter (scope.allows table))

/-- Imports the modules that a scope names, and others, and finds the roots in scope. -/
def findRoots (workspace : Workspace) (scope : Scope) (others : List String) :
    Workspace × Reported (List ClassRef) :=
  let targets := Scope.sortedNames (others ++ scope.literalNames)
  match workspace.importTrees targets with
  | (workspace, notices, .error failure) => (workspace, notices, .error failure)
  | (workspace, notices, .ok ()) =>
    let roots := workspace.rootsIn scope
    let missing := if roots.isEmpty && targets.isEmpty then [Notice.noRoots scope.text] else []
    (workspace, notices ++ missing, .ok roots)

end Workspace

end ModelSchema
