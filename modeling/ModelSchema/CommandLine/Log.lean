import ModelSchema.Notice
import ModelSchema.Storage.FileSystem
import ModelSchema.Time.Calendar

/-!
Where the notices of a run go: to the console, and to a file if one is named.

* `RunLog.configure`: makes the directory of the file and the file itself.
* `RunLog.console`, `RunLog.fileText`: the notices that are severe enough, as text.
-/

namespace ModelSchema

/-- How much is reported, and the file that it is reported to as well. -/
structure RunLog where
  verbose : Bool
  file : Option String
  deriving DecidableEq, Repr, Inhabited

/-- The time in front of a line of a log, from milliseconds since 1970. -/
def logTime (millis : Int) : String :=
  let ofDay := (millis % 86400000).toNat
  let clock := padded 2 (ofDay / 3600000) ++ ":" ++ padded 2 (ofDay / 60000 % 60) ++ ":"
    ++ padded 2 (ofDay / 1000 % 60) ++ "," ++ padded 3 (ofDay % 1000)
  (Date.ofDayNumber (millis / 86400000)).iso ++ " " ++ clock

namespace RunLog

/-- Whether a notice is reported. -/
def admits (log : RunLog) (notice : Notice) : Bool := log.verbose || notice.level != .debug

/-- The absolute path of the file, as it stands in messages. -/
def filePath (files : FileSystem) (name : String) : FilePath :=
  (FilePath.ofText name).resolve files.workingDirectory

/-- Makes the file ready for writing. -/
def configure (log : RunLog) (files : FileSystem) : Except Fault FileSystem :=
  match log.file with
  | none => .ok files
  | some name => do
    let directory := (FilePath.ofText name).parent
    let files ← files.makeDirectories directory
    files.appendText (filePath files name) "" (filePath files name).text

/-- Notices as they stand on the console. -/
def console (log : RunLog) (notices : List Notice) : String :=
  String.join ((notices.filter log.admits).map fun notice =>
    "[polyschema] " ++ notice.level.name ++ " " ++ notice.message ++ "\n")

/-- Notices as they stand in the file, each behind the time of the run. -/
def fileText (log : RunLog) (millis : Int) (notices : List Notice) : String :=
  String.join ((notices.filter log.admits).map fun notice =>
    logTime millis ++ " " ++ notice.logLine ++ "\n")

/-- Adds notices to the file. -/
def record (log : RunLog) (millis : Int) (notices : List Notice) (files : FileSystem) :
    FileSystem :=
  match log.file with
  | none => files
  | some name =>
    let path := filePath files name
    match files.appendText path (log.fileText millis notices) path.text with
    | .ok files => files
    | .error _ => files

end RunLog

end ModelSchema
