import ModelSchema.Generation.Options
import ModelSchema.Modules.Search
import ModelSchema.Output.Writer

/-!
Runs that generate schemas.

* `writeSchemas`: makes and writes the documents of classes in order, up to the first failure.
* `GenerationOptions.generate`: finds the roots, registers them and writes their documents. Nothing
  is written before all of them are registered.
* `writeEach`: the same for a batch that goes on after a failure.
-/

namespace ModelSchema

/-- The version of the program. -/
def programVersion : String := "0.1.0"

/-- Makes the document of a class and writes it. -/
def writeSchema (catalog : Catalog) (directory : FilePath) (strategy : LocationStrategy)
    (generator : Generator) (files : FileSystem) (c : ClassRef) :
    Generator × FileSystem × Reported FilePath :=
  match generator.generate catalog c with
  | (generator, notices, .error failure) => (generator, files, notices, .error failure)
  | (generator, notices, .ok document) =>
    let (files, more, result) := files.writeDocument catalog.table directory strategy document
    (generator, files, notices ++ more, result)

/-- Makes and writes the documents of classes in order, up to the first failure. -/
def writeSchemas (catalog : Catalog) (directory : FilePath) (strategy : LocationStrategy) :
    Generator → FileSystem → List ClassRef → FileSystem × Reported Unit
  | _, files, [] => (files, [], .ok ())
  | generator, files, c :: rest =>
    match writeSchema catalog directory strategy generator files c with
    | (_, files, notices, .error failure) => (files, notices, .error failure)
    | (generator, files, notices, .ok _) =>
      let (files, more, result) := writeSchemas catalog directory strategy generator files rest
      (files, notices ++ more, result)

namespace GenerationOptions

/-- What a run that only echoes reports. -/
def echoed (options : GenerationOptions) (searchPath : String) : List Notice :=
  [.echo ("polyschema: " ++ programVersion), .echo ("--python-path=" ++ searchPath),
    .echo options.text]

/-- Finds the roots in scope, registers their subtypes and writes a document for each: the classes
that documents were written for. Any failure ends the run. -/
def generate (options : GenerationOptions) (clock : DocumentClock) (searchPath : String)
    (workspace : Workspace) (files : FileSystem) :
    Workspace × FileSystem × Reported (List ClassRef) :=
  if options.echoOnly then (workspace, files, options.echoed searchPath, .ok [])
  else
    match workspace.findRoots options.typeScope [] with
    | (workspace, notices, .error failure) => (workspace, files, notices, .error failure)
    | (workspace, notices, .ok roots) =>
      let generator := Generator.fresh options.subtypeScope .subclasses clock
      match generator.register workspace.catalog (roots.map .cls) with
      | (_, more, .error failure) => (workspace, files, notices ++ more, .error failure)
      | (generator, more, .ok _) =>
        match writeSchemas workspace.catalog options.outputDirectory options.strategy generator
            files roots with
        | (files, others, .error failure) =>
          (workspace, files, notices ++ more ++ others, .error failure)
        | (files, others, .ok ()) =>
          (workspace, files, notices ++ more ++ others ++ [.wroteSchemas roots.length],
            .ok roots)

end GenerationOptions

/-! ### Batches -/

/-- What a batch has to say of its files, and whether one of them failed. -/
structure BatchReport where
  lines : List String
  failed : Bool
  deriving Repr, Inhabited

/-- Makes and writes the documents of classes in order, whether others fail or not. -/
def writeEach (catalog : Catalog) (directory : FilePath) :
    Generator → FileSystem → List ClassRef → FileSystem × List Notice × BatchReport
  | _, files, [] => (files, [], ⟨[], false⟩)
  | generator, files, c :: rest =>
    let (generator, files, notices, result) :=
      writeSchema catalog directory .directoryTree generator files c
    let (files, more, report) := writeEach catalog directory generator files rest
    let line :=
      match result with
      | .ok path => "Generated schema: " ++ path.text
      | .error failure =>
        "Error generating schema for " ++ catalog.table.name c ++ ": " ++ failure.text
    let failed := match result with
      | .ok _ => false
      | .error _ => true
    (files, notices ++ more, ⟨line :: report.lines, failed || report.failed⟩)

/-- Generates the schemas of all roots in some modules: the exit code and the text of the batch. -/
def runBatch (modules : List String) (directory : FilePath) (clock : DocumentClock)
    (workspace : Workspace) (files : FileSystem) :
    Workspace × FileSystem × Reported (Nat × String) :=
  match workspace.findRoots ⟨modules, []⟩ [] with
  | (workspace, notices, .error failure) => (workspace, files, notices, .error failure)
  | (workspace, notices, .ok roots) =>
    let generator := Generator.fresh .everything .subclasses clock
    match generator.register workspace.catalog (roots.map .cls) with
    | (_, more, .error failure) => (workspace, files, notices ++ more, .error failure)
    | (generator, more, .ok _) =>
      let (files, others, report) := writeEach workspace.catalog directory generator files roots
      let lines := report.lines ++ ["", "Schemas generated in: " ++ directory.text]
      (workspace, files, notices ++ more ++ others,
        .ok (if report.failed then 1 else 0, String.join (lines.map (· ++ "\n"))))

end ModelSchema
