import ModelSchema.CommandLine.Log
import ModelSchema.CommandLine.Reader
import ModelSchema.CommandLine.Usage
import ModelSchema.Generation.Run
import ModelSchema.Json.Parser
import ModelSchema.Validation.Basic
import ModelSchema.Yaml.Value

/-!
The program as a function of its command line and of what it can see.

* `Surroundings`: the environment variables, the standard input and the time.
* `Outcome`: how a run ends and what it prints.
* `runProgram`: a run. It also changes the workspace, by importing modules, and the files.
-/

namespace ModelSchema

/-- What a run can see besides files and modules. The time is in milliseconds since 1970. -/
structure Surroundings where
  environment : List (String × String)
  standardInput : String
  millis : Int
  searchPath : String
  deriving Repr, Inhabited

/-- How a run ends: with a code, early with a code because of the command line, or with a failure
that nothing turns into a code. -/
inductive Ending where
  | returned (code : Nat)
  | exited (code : Nat)
  | raised (failure : Failure)
  deriving Repr, Inhabited

/-- How a run ends and what it prints. -/
structure Outcome where
  ending : Ending
  out : String
  err : String
  deriving Repr, Inhabited

/-- What a run leaves behind. -/
abbrev Ran (α : Type) := Workspace × FileSystem × α

/-! ### Reading the command line -/

/-- A command line that can be carried out. -/
structure CommandCall where
  command : Option Command
  given : GivenOptions
  deriving Repr, Inhabited

/-- The end of a run that the command line brings about, where a usage and a help are in force. -/
def CommandHalt.outcome (halt : CommandHalt) (name usage help : String) : Outcome :=
  match halt with
  | .help => ⟨.exited 0, help, ""⟩
  | .version => ⟨.exited 0, programName ++ " " ++ programVersion ++ "\n", ""⟩
  | .error message => ⟨.exited 2, "", usage ++ name ++ ": error: " ++ message ++ "\n"⟩

/-- The end of a run whose command line has an error in front of the command. -/
def programHalt (halt : CommandHalt) : Outcome := halt.outcome programName programUsage programHelp

def Command.halt (command : Command) (halt : CommandHalt) : Outcome :=
  halt.outcome (programName ++ " " ++ command.name) command.usage command.help

/-- Reads a command line. Arguments that fit nothing are reported when all else is well. -/
def readCall (args : List String) : Except Outcome CommandCall := do
  let reading ← (readCommand programOptions true args).mapError programHalt
  let unrecognized (extras : List String) : CommandHalt :=
    .error ("unrecognized arguments: " ++ " ".intercalate extras)
  match reading.command with
  | some (name :: args) =>
    match Command.all.find? (·.name = name) with
    | none =>
      throw (programHalt (.error ("argument command: invalid choice: " ++ quoted name
        ++ " (choose from " ++ ", ".intercalate (Command.all.map (quoted ·.name)) ++ ")")))
    | some command =>
      let inner ← (readCommand command.options false args).mapError command.halt
      let extras := reading.extras ++ inner.extras
      if extras.isEmpty then pure ⟨some command, inner.given⟩
      else throw (programHalt (unrecognized extras))
  | _ =>
    if reading.extras.isEmpty then pure ⟨none, []⟩
    else throw (programHalt (unrecognized reading.extras))

/-- The name of the payload: a dash is the standard input. -/
def CommandCall.inputName (call : CommandCall) : String := (call.given.last? "input_path").getD "-"

/-- Whether a run reads its standard input. -/
def readsStandardInput (args : List String) : Bool :=
  match readCall args with
  | .ok call => call.command = some .validate && call.inputName = "-"
  | .error _ => false

/-! ### Generating -/

/-- What was given for the options of a run that generates. -/
def CommandCall.values (call : CommandCall) : NamedValues :=
  let path (key : String) : Value :=
    match call.given.last? key with
    | some text => .path (FilePath.ofText text).text
    | none => .null
  let list (key : String) : String × Value := (key, .strings (call.given.all key))
  [("echo_only", .bool (call.given.flag "echo_only")),
    ("output_directory", path "output_directory"),
    ("output_directory_strategy",
      ((call.given.last? "output_directory_strategy").map Value.str).getD .null),
    list "type_scanning_allowed_modules", list "type_scanning_allowed_packages",
    list "subtype_scanning_allowed_modules", list "subtype_scanning_allowed_packages"]

/-- The failure of a run as it is printed: one that is no report is put into one. -/
def runFailure (options : GenerationOptions) (failure : Failure) : Failure :=
  match failure with
  | .report .. => failure
  | .fault _ =>
    .core "Schema generation failed" none [("options", .str options.text)] (some failure)

/-- Carries out the command that generates schemas. -/
def runGenerate (settings : Settings) (call : CommandCall) (surroundings : Surroundings)
    (workspace : Workspace) (files : FileSystem) : Ran Outcome :=
  let log : RunLog :=
    { verbose := call.given.flag "verbose" || settings.verbose
      file := (call.given.last? "log_file").orElse fun _ => settings.logFile }
  match log.configure files with
  | .error fault => (workspace, files, ⟨.raised (.fault fault), "", ""⟩)
  | .ok files =>
    match GenerationOptions.ofValues settings call.values Command.generate.usage with
    | .error failure => (workspace, files, ⟨.returned 2, "", "Error: " ++ failure.message ++ "\n"⟩)
    | .ok options =>
      let (workspace, files, notices, result) :=
        options.generate (.fixed surroundings.millis) surroundings.searchPath workspace files
      let files := log.record surroundings.millis notices files
      let printed := log.console notices
      match result with
      | .ok _ => (workspace, files, ⟨.returned 0, "", printed⟩)
      | .error failure =>
        (workspace, files, ⟨.returned 1, "",
          printed ++ "Error: " ++ (runFailure options failure).text ++ "\n"⟩)

/-! ### Validating -/

/-- The schema document in a file. -/
def readSchema (files : FileSystem) (name : String) : Except String Value :=
  if files.exists? (.ofText name) then
    ((files.readNamed name).bind (Value.ofYaml name)).mapError Fault.message
  else .error ("Schema not found: " ++ name)

/-- The payload in a file, or on the standard input, which is named by a dash. -/
def readPayload (files : FileSystem) (standardInput name : String) : Except String Value :=
  if name = "-" then
    (Value.ofJson standardInput).mapError fun error => error.message "from stdin" standardInput
  else
    let path := FilePath.ofText name
    if files.exists? path then do
      let text ← (files.readText path path.text).mapError Fault.message
      (Value.ofJson text).mapError fun error => error.message s!"in file {name}" text
    else .error ("Input file not found: " ++ name)

/-- What is found wrong with the payload, and the lines that tell how far the run has come. -/
def validatePayload (call : CommandCall) (surroundings : Surroundings) (workspace : Workspace)
    (files : FileSystem) : List String × Except String (List String) :=
  let schemaName := (call.given.last? "schema").getD ""
  let table := workspace.catalog.table
  let shown := if call.inputName = "-" then "stdin" else call.inputName
  let loading := ["Loading schema from: " ++ schemaName]
  let reading := loading ++ ["Loading payload from: " ++ shown]
  match readSchema files schemaName with
  | .error text => (loading, .error text)
  | .ok schema =>
    match readPayload files surroundings.standardInput call.inputName with
    | .error text => (reading, .error text)
    | .ok payload =>
      (reading ++ ["Validating payload..."],
        match violations table true schema payload with
        | .error fault => .error fault.message
        | .ok found => .ok (found.map (Violation.text table)))

/-- Carries out the command that validates a payload. -/
def runValidate (call : CommandCall) (surroundings : Surroundings) (workspace : Workspace)
    (files : FileSystem) : Outcome :=
  let (progress, result) := validatePayload call surroundings workspace files
  let progress := if call.given.flag "verbose" then progress else []
  match result with
  | .error text => ⟨.returned 1, linesText progress, "Error: " ++ text ++ "\n"⟩
  | .ok [] => ⟨.returned 0, linesText (progress ++ ["✅ Payload is valid"]), ""⟩
  | .ok found =>
    ⟨.returned 1, linesText (progress ++ ["❌ Payload validation failed:"]
      ++ found.map ("  • " ++ ·)), ""⟩

/-! ### The program -/

/-- Runs the program. -/
def runProgram (args : List String) (surroundings : Surroundings) (workspace : Workspace)
    (files : FileSystem) : Ran Outcome :=
  match readCall args with
  | .error outcome => (workspace, files, outcome)
  | .ok call =>
    match call.command with
    | none => (workspace, files, ⟨.returned 1, programHelp, ""⟩)
    | some command =>
      match Settings.ofEnvironment surroundings.environment with
      | .error fault => (workspace, files, ⟨.raised (.fault fault), "", ""⟩)
      | .ok settings =>
        match command with
        | .generate => runGenerate settings call surroundings workspace files
        | .validate => (workspace, files, runValidate call surroundings workspace files)

end ModelSchema
