import ModelSchema.Failure
import ModelSchema.Storage.Path

/-!
Files and directories.

* `FileSystem`: what there is, by absolute path.
* `FileSystem.makeDirectories`, `writeText`, `appendText`, `readText`: the operations, which fail
  like those of an operating system.
* `FileSystem.files`: the files below a directory.
-/

namespace ModelSchema

/-- What a path leads to. -/
inductive FileEntry where
  | directory
  | file (text : String)
  deriving DecidableEq, Repr, Inhabited

/-- All entries by the components of their absolute paths, and the directory that relative paths
start from. -/
structure FileSystem where
  workingDirectory : FilePath
  entries : List (List String × FileEntry)
  deriving Repr, Inhabited

namespace FileSystem

/-- The entry of an absolute path; the root is a directory. -/
def entry? (files : FileSystem) (parts : List String) : Option FileEntry :=
  if parts.isEmpty then some .directory
  else (files.entries.find? (·.1 = parts)).map (·.2)

def isDirectory (files : FileSystem) (parts : List String) : Bool :=
  files.entry? parts = some .directory

/-- Sets an entry. -/
def put (files : FileSystem) (parts : List String) (entry : FileEntry) : FileSystem :=
  if files.entries.any (·.1 = parts) then
    { files with
      entries := files.entries.map fun (p, e) => if p = parts then (p, entry) else (p, e) }
  else { files with entries := files.entries ++ [(parts, entry)] }

/-- The paths from the root down to a path, the path itself included. -/
def pathsTo (parts : List String) : List (List String) :=
  (List.range parts.length).map fun n => parts.take (n + 1)

/-- Makes a directory with all that are missing above it, without checks. -/
def putDirectories (files : FileSystem) (parts : List String) : FileSystem :=
  (pathsTo parts).foldl (fun files path =>
    if (files.entry? path).isSome then files else files.put path .directory) files

/-- A file system with nothing but a working directory. -/
def withWorkingDirectory (workingDirectory : FilePath) : FileSystem :=
  putDirectories ⟨workingDirectory, []⟩ workingDirectory.parts

/-- Goes from a directory to the end of a path, component by component. The last one can be missing.
-/
def walk (files : FileSystem) : List String → List String → Except FileError (List String)
  | current, [] => .ok current
  | current, part :: rest =>
    match files.entry? current with
    | some .directory =>
      files.walk (if part = ".." then current.dropLast else current ++ [part]) rest
    | some (.file _) => .error .notADirectory
    | none => .error .notFound

/-- The components of the absolute path that a path leads to. -/
def locate (files : FileSystem) (path : FilePath) : Except FileError (List String) :=
  files.walk (if path.isAbsolute then [] else files.workingDirectory.parts) path.parts

/-- The paths from the first component of a path on, the path itself included. -/
def directoriesTo (path : FilePath) : List FilePath :=
  (List.range (path.parts.length + 1)).map fun n => { path with parts := path.parts.take n }

/-- Makes a single directory, if there is none at a path. -/
def makeDirectory (files : FileSystem) (path : FilePath) : Except FileError FileSystem := do
  let parts ← files.locate path
  match files.entry? parts with
  | some .directory => return files
  | some (.file _) => throw .exists
  | none => return files.put parts .directory

/-- Makes a directory and all that are missing above it. -/
def makeDirectories (files : FileSystem) (path : FilePath) : Except Fault FileSystem :=
  match files.makeDirectory path with
  | .ok files => .ok files
  | .error .notFound =>
    (directoriesTo path).foldlM (fun files path =>
      (files.makeDirectory path).mapError fun error => .file error path.text) files
  | .error error => .error (.file error path.text)

/-- Checks that a file can stand at a path. -/
def checkWritable (files : FileSystem) (path : FilePath) (shown : String) :
    Except Fault (List String) := do
  let parts ← (files.locate path).mapError fun error => .file error shown
  if files.isDirectory parts then throw (.file .isADirectory shown)
  else return parts

/-- Writes a file, over an old one if there is one. `shown` is the path in messages. -/
def writeText (files : FileSystem) (path : FilePath) (text shown : String) :
    Except Fault FileSystem := do
  let parts ← files.checkWritable path shown
  return files.put parts (.file text)

/-- Writes behind the end of a file. -/
def appendText (files : FileSystem) (path : FilePath) (text shown : String) :
    Except Fault FileSystem := do
  let parts ← files.checkWritable path shown
  let before :=
    match files.entry? parts with
    | some (.file old) => old
    | _ => ""
  return files.put parts (.file (before ++ text))

/-- Whether there is something at a path. -/
def exists? (files : FileSystem) (path : FilePath) : Bool :=
  match files.locate path with
  | .ok parts => (files.entry? parts).isSome
  | .error _ => false

/-- A text whose lines all end alike: with a line feed alone. -/
def unifiedLines : List Char → List Char
  | [] => []
  | '\r' :: '\n' :: rest => '\n' :: unifiedLines rest
  | '\r' :: rest => '\n' :: unifiedLines rest
  | c :: rest => c :: unifiedLines rest

/-- Reads a file, whichever way its lines end. -/
def readText (files : FileSystem) (path : FilePath) (shown : String) : Except Fault String := do
  let parts ← (files.locate path).mapError fun error => .file error shown
  match files.entry? parts with
  | some (.file text) => return String.ofList (unifiedLines text.toList)
  | some .directory => throw (.file .isADirectory shown)
  | none => throw (.file .notFound shown)

/-- Reads a file by the name it was given. The empty name is that of no file, and a slash or a dot
behind a name asks for a directory. -/
def readNamed (files : FileSystem) (name : String) : Except Fault String := do
  if name.isEmpty then throw (.file .notFound name)
  else
    let text ← files.readText (.ofText name) name
    let last := (name.splitOn "/").getLast?
    if last = some "" || last = some "." then throw (.file .notADirectory name) else return text

/-- The files below a directory, by the components of their paths from there. -/
def files (files : FileSystem) (directory : List String) : List (List String × String) :=
  files.entries.filterMap fun (parts, entry) =>
    match entry with
    | .file text =>
      if directory.isPrefixOf parts then some (parts.drop directory.length, text) else none
    | .directory => none

end FileSystem

end ModelSchema
