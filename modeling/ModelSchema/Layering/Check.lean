import ModelSchema.Layering.Source

/-!
Checking a source tree for imports across layers.

* `LayerViolation`: a fault with its file and line.
* `layerViolations?`: the faults of all source files of the core, by path; nothing is known of a
  tree without a core.
* `layerReport`: the exit code and the text of the check.
-/

namespace ModelSchema

/-- A file, by the components of its path below the checked root. -/
structure SourceFile where
  path : List String
  text : String
  deriving DecidableEq, Repr, Inhabited

structure LayerViolation where
  path : List String
  line : Nat
  fault : LayerFault
  deriving DecidableEq, Repr, Inhabited

/-- The directory of the core, below the root. -/
def coreDirectory : List String := ["polyschema", "core"]

namespace SourceFile

/-- Whether a file is a source file of the core. -/
def isCoreSource (file : SourceFile) : Bool :=
  coreDirectory.isPrefixOf file.path && coreDirectory.length < file.path.length
    && (file.path.getLastD "").endsWith ".py"

/-- The faults of one file. A file that can not be read has that fault alone. -/
def violations (file : SourceFile) : List LayerViolation :=
  match importsOf file.text with
  | .ok statements =>
    (SourceStatement.violationsOfAll statements).map fun (line, fault) =>
      ⟨file.path, line, fault⟩
  | .error line => [⟨file.path, line, .invalidSyntax (file.path.getLastD "") line⟩]

end SourceFile

/-- Whether a tree has a core. -/
def hasCore (files : List SourceFile) : Bool :=
  files.any fun file => coreDirectory.isPrefixOf file.path

/-- The faults of the core, its files in the order of their paths, component by component. -/
def layerViolations? (files : List SourceFile) : Option (List LayerViolation) :=
  if hasCore files then
    some <| ((files.filter SourceFile.isCoreSource).mergeSort fun a b => !b.path.lex a.path)
      |>.flatMap SourceFile.violations
  else none

/-- What is said of a tree without a core. -/
def missingCoreWarning (root : String) : String :=
  "Warning: Core path " ++ "/".intercalate (root :: coreDirectory) ++ " does not exist\n"

/-- A fault as a line of the report. -/
def LayerViolation.text (violation : LayerViolation) : String :=
  "  " ++ "/".intercalate violation.path ++ s!":{violation.line} - {violation.fault.message}\n"

/-- The exit code and the text of a check. -/
def layerReport (root : String) (files : List SourceFile) : Nat × String :=
  let found := layerViolations? files
  let warning := if found.isNone then missingCoreWarning root else ""
  match found.getD [] with
  | [] => (0, warning ++ "✅ All core imports are valid - no cross-layer violations found\n")
  | violations =>
    (1, "❌ Cross-layer import violations found:\n\n"
      ++ String.join (violations.map LayerViolation.text)
      ++ s!"\nTotal violations: {violations.length}\n\n"
      ++ "Core modules must not import polyschema.cli, polyschema.generator or "
      ++ "polyschema.options.\n")

end ModelSchema
