import ModelSchema.Schema.Document
import ModelSchema.Storage.FileSystem
import ModelSchema.Storage.Path

/-!
Where a schema document is written, and how.

* `LocationStrategy.outputPath`: the path of a document relative to the output directory. With
  `directoryTree` there is one directory per part of the module, and with `flatDirectory` all files
  are in one directory.
* `FileSystem.writeDocument` puts a document where its location strategy says, over an old file if
  there is one. Nothing but that file and the directories above it is changed.
-/

namespace ModelSchema

/-! ### Locations -/

inductive LocationStrategy where
  | directoryTree
  | flatDirectory
  deriving DecidableEq, Repr, Inhabited

/-- The extension of schema documents. -/
def documentExtension : String := ".yml"

namespace LocationStrategy

def all : List LocationStrategy := [directoryTree, flatDirectory]

/-- The name of a strategy in options. -/
def name : LocationStrategy → String
  | directoryTree => "directoryTree"
  | flatDirectory => "flatDirectory"

/-- The strategy with a name. -/
def ofName? (name : String) : Option LocationStrategy := all.find? (·.name = name)

/-- A strategy in messages. -/
def displayed : LocationStrategy → String
  | directoryTree => "DirectoryTreeOutputLocationStrategy()"
  | flatDirectory => "FlatDirectoryOutputLocationStrategy()"

/-- The path of the document of a class in a module. -/
def outputPath (strategy : LocationStrategy) (module qualname : String) : FilePath :=
  let file := fileStem qualname ++ documentExtension
  match strategy with
  | directoryTree => .ofParts (dottedParts module ++ [file])
  | flatDirectory => .ofText (module ++ "." ++ file)

end LocationStrategy

/-! ### Writing -/

/-- Writes a document below a directory: the absolute path of the file, or why it can not be
written. -/
def FileSystem.writeDocument (files : FileSystem) (table : ClassTable) (directory : FilePath)
    (strategy : LocationStrategy) (document : SchemaDocument) :
    FileSystem × Reported FilePath :=
  let type := table.qualifiedName document.type
  let path := (directory.resolve files.workingDirectory).join
    (strategy.outputPath (table.module document.type) (table.qualname document.type))
  let written := do
    let files ← files.makeDirectories path.parent
    files.writeText path document.text path.text
  match written with
  | .ok files => (files, [.wroteSchema type path.text], .ok path)
  | .error fault =>
    (files, [], .error (.outputWrite type (some path.text) [] (some (.fault fault))))

end ModelSchema
