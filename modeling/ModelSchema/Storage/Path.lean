import ModelSchema.Naming

/-!
File paths.

A path is a list of components. Empty components and single dots are left out when a path is read,
so that every path has one form. Of two slashes in front both count, of more only one.
-/

namespace ModelSchema

/-- Where a path starts: in some directory, or at the root. -/
inductive PathStart where
  | relative
  | root
  | doubleRoot
  deriving DecidableEq, Repr, Inhabited

/-- A path: absolute, or relative to some directory. -/
structure FilePath where
  start : PathStart
  parts : List String
  deriving DecidableEq, Repr, Inhabited

namespace PathStart

/-- The start of a text. -/
def ofText (text : String) : PathStart :=
  match text.toList.takeWhile (· = '/') with
  | [] => relative
  | ['/', '/'] => doubleRoot
  | _ => root

/-- The slashes in front of a path. -/
def text : PathStart → String
  | relative => ""
  | root => "/"
  | doubleRoot => "//"

end PathStart

namespace FilePath

/-- The components of a text between slashes. -/
def componentsOf (text : String) : List String :=
  (text.splitOn "/").filter fun part => part != "" && part != "."

/-- Reads a path. -/
def ofText (text : String) : FilePath := ⟨.ofText text, componentsOf text⟩

/-- The absolute path of some components. -/
def ofRoot (parts : List String) : FilePath := ⟨.root, parts⟩

def isAbsolute (path : FilePath) : Bool := path.start != .relative

/-- The text of a path. The relative path without components is a dot. -/
def text (path : FilePath) : String :=
  if !path.isAbsolute && path.parts.isEmpty then "."
  else path.start.text ++ "/".intercalate path.parts

/-- A path inside a directory; an absolute path stands for itself. -/
def join (directory path : FilePath) : FilePath :=
  if path.isAbsolute then path else { directory with parts := directory.parts ++ path.parts }

/-- The relative path of the components that some texts have, one after the other. -/
def ofParts (texts : List String) : FilePath :=
  texts.foldl (fun path part => path.join (ofText part)) ⟨.relative, []⟩

/-- The directory a path is in. -/
def parent (path : FilePath) : FilePath := { path with parts := path.parts.dropLast }

/-- Goes up one component for every double dot. -/
def goUp (parts : List String) : List String :=
  parts.foldl (fun done part => if part = ".." then done.dropLast else done ++ [part]) []

/-- The absolute path without double dots. -/
def resolve (path workingDirectory : FilePath) : FilePath :=
  .ofRoot (goUp (workingDirectory.join path).parts)

end FilePath

end ModelSchema
