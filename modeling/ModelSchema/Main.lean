import ModelSchema.CommandLine.Program
import ModelSchema.Example.Shapes
import Std.Time.DateTime.Timestamp

/-!
The program: it looks at the files its arguments name, runs, and writes what has changed.

Modules are described in a JSON file that the variable `POLYSCHEMA_MODULES` names; the modules of
the example are always there.
-/

open ModelSchema

/-- The text of a file, unless it can not be read. -/
def readFile? (name : String) : IO (Option String) := do
  try
    return some (← IO.FS.readFile name)
  catch _ => return none

/-- The modules that the environment describes. -/
def describedModules : IO (List SourceModule) := do
  match ← IO.getEnv "POLYSCHEMA_MODULES" with
  | none => return []
  | some name =>
    match Value.ofJson ((← readFile? name).getD "[]") with
    | .ok descriptions => return descriptions.items.map SourceModule.ofDescription
    | .error _ => return []

/-- The variables that settings are read from. -/
def settingVariables : IO (List (String × String)) := do
  let names := ["OUTPUT_DIRECTORY_STRATEGY", "VERBOSE", "LOG_FILE"]
  names.filterMapM fun name => do
    let name := "POLYSCHEMA_" ++ name
    return (← IO.getEnv name).map (name, ·)

/-- The files that arguments name, on their own or behind an equals sign. -/
def filesOf (args : List String) : IO FileSystem := do
  let directory := FilePath.ofText (← IO.currentDir).toString
  let names := args.flatMap fun arg => [arg, "=".intercalate ((arg.splitOn "=").drop 1)]
  let mut files := FileSystem.withWorkingDirectory directory
  for name in names do
    if let some text ← readFile? name then
      let parts := ((FilePath.ofText name).resolve directory).parts
      files := (files.putDirectories parts.dropLast).put parts (.file text)
  return files

/-- Writes the files that are new or different. -/
def writeChanges (before after : FileSystem) : IO Unit :=
  for (parts, entry) in after.entries do
    if let .file text := entry then
      if before.entry? parts != some entry then
        let path := FilePath.ofRoot parts
        IO.FS.createDirAll path.parent.text
        IO.FS.writeFile path.text text

def main (args : List String) : IO UInt32 := do
  let files ← filesOf args
  let input ← if readsStandardInput args then (← IO.getStdin).readToEnd else pure ""
  let surroundings : Surroundings :=
    { environment := ← settingVariables
      standardInput := input
      millis := (← Std.Time.Timestamp.now).toMillisecondsSinceUnixEpoch.val
      searchPath := ((← IO.getEnv "POLYSCHEMA_MODULES").getD "") }
  let workspace := Workspace.ofModules (Example.modules ++ (← describedModules))
  let (_, after, outcome) := runProgram args surroundings workspace files
  writeChanges files after
  IO.print outcome.out
  IO.eprint outcome.err
  match outcome.ending with
  | .returned code | .exited code => return code.toUInt32
  | .raised failure =>
    IO.eprintln (failure.kindName ++ ": " ++ failure.text)
    return 1
