import ModelSchema.Failure
import ModelSchema.Output.Writer
import ModelSchema.Scope.Filter
import ModelSchema.Shown
import ModelSchema.Validation.Equality

/-!
Options of a run that generates schemas.

* `InputProblem`: a value given for an option or a setting that does not fit its place;
  `InputProblem.report` is the text of all problems of a record.
* `GenerationOptions`: everything a run needs.
* `Settings`: what the environment says where the options say nothing.
* `GenerationOptions.ofValues`: options from values that were given by name.
-/

namespace ModelSchema

/-! ### Problems -/

/-- Why a value does not fit. -/
inductive InputMismatch where
  /-- a word that is none of those allowed -/
  | choice (allowed : List String)
  | boolean
  /-- a text or number that stands for no truth value -/
  | booleanWord
  | path
  | text
  deriving DecidableEq, Repr, Inhabited

namespace InputMismatch

def name : InputMismatch → String
  | choice _ => "enum"
  | boolean => "bool_type"
  | booleanWord => "bool_parsing"
  | path => "path_type"
  | text => "string_type"

/-- Words in quotes, the last one behind `or`. -/
def alternatives : List String → String
  | [] => ""
  | [word] => quoted word
  | [first, last] => quoted first ++ " or " ++ quoted last
  | word :: rest => quoted word ++ ", " ++ alternatives rest

def message : InputMismatch → String
  | choice allowed => "Input should be " ++ alternatives allowed
  | boolean => "Input should be a valid boolean"
  | booleanWord => "Input should be a valid boolean, unable to interpret input"
  | path => "Input is not a valid path for <class 'pathlib.Path'>"
  | text => "Input should be a valid string"

/-- Whether there is a page with more about the mismatch. -/
def hasPage : InputMismatch → Bool
  | path => false
  | _ => true

end InputMismatch

/-- A value in a place that it does not fit. -/
structure InputProblem where
  place : String
  mismatch : InputMismatch
  input : Value
  deriving Repr, Inhabited

/-- A text of at most fifty bytes stands as it is; of a longer one the two ends are left. -/
def abbreviated (text : String) : String :=
  let size (cs : List Char) : Nat := cs.foldl (fun bytes c => bytes + c.utf8Size) 0
  let fitting (limit : Nat) (cs : List Char) : List Char :=
    (cs.foldl (fun (kept, used, isOpen) c =>
      if isOpen && used + c.utf8Size ≤ limit then (kept ++ [c], used + c.utf8Size, true)
      else (kept, used, false)) (([] : List Char), 0, true)).1
  let cs := text.toList
  if size cs ≤ 50 then text
  else String.ofList (fitting 25 cs) ++ "..." ++ String.ofList (fitting 24 cs.reverse).reverse

namespace InputProblem

/-- A problem as lines of a report. -/
def lines (table : ClassTable) (problem : InputProblem) : List String :=
  [problem.place,
    s!"  {problem.mismatch.message} [type={problem.mismatch.name}, input_value="
      ++ abbreviated (problem.input.displayed table)
      ++ s!", input_type={problem.input.kindName table}]"]
    ++ if problem.mismatch.hasPage then
        ["    For further information visit " ++ helpPage ("v/" ++ problem.mismatch.name)]
      else []

/-- All problems of a record as one text. -/
def report (record : String) (problems : List InputProblem) : String :=
  let count := problems.length
  "\n".intercalate (
    (s!"{count} validation error" ++ (if count = 1 then "" else "s") ++ s!" for {record}")
      :: problems.flatMap (lines .empty))

end InputProblem

/-! ### Options -/

/-- Everything a run needs. A run that only echoes writes its options and nothing else. -/
structure GenerationOptions where
  echoOnly : Bool
  outputDirectory : FilePath
  strategy : LocationStrategy
  typeScope : Scope
  subtypeScope : Scope
  deriving Repr, Inhabited

/-- Options as lines of a log. -/
def GenerationOptions.text (options : GenerationOptions) : String :=
  "--output-directory=" ++ options.outputDirectory.text
    ++ "\n--output-directory-strategy=" ++ options.strategy.name
    ++ "\n--type-scanning=" ++ options.typeScope.text
    ++ "\n--subtype-scanning=" ++ options.subtypeScope.text

/-! ### Values that fit their places -/

/-- The truth value of a word. -/
def truthOfWord? (word : String) : Option Bool :=
  let word := word.toLower
  if ["1", "t", "true", "y", "yes", "on"].contains word then some true
  else if ["0", "f", "false", "n", "no", "off"].contains word then some false
  else none

/-- A truth value from a truth value, from zero or one, or from a word. -/
def truthValue (place : String) (input : Value) : Except InputProblem Bool :=
  let asked (found : Option Bool) : Except InputProblem Bool :=
    match found with
    | some b => .ok b
    | none => .error ⟨place, .booleanWord, input⟩
  match input with
  | .bool b => .ok b
  | .int n => asked (if n = 0 then some false else if n = 1 then some true else none)
  | .float x => asked (if x.toInt? = some 0 then some false
      else if x.toInt? = some 1 then some true else none)
  | .str word => asked (truthOfWord? word)
  | _ => .error ⟨place, .boolean, input⟩

def pathValue (place : String) (input : Value) : Except InputProblem FilePath :=
  match input with
  | .str text | .path text => .ok (.ofText text)
  | _ => .error ⟨place, .path, input⟩

def strategyValue (place : String) (input : Value) : Except InputProblem LocationStrategy :=
  match input.text?.bind LocationStrategy.ofName? with
  | some strategy => .ok strategy
  | none => .error ⟨place, .choice (LocationStrategy.all.map LocationStrategy.name), input⟩

/-! ### Settings -/

/-- What the environment says. -/
structure Settings where
  strategy : LocationStrategy
  verbose : Bool
  logFile : Option String
  deriving Repr, Inhabited

namespace Settings

/-- What the names of the variables begin with. -/
def variablePrefix : String := "polyschema_"

/-- The value of a variable. Names are compared without case, and the last one counts. -/
def lookup? (environment : List (String × String)) (name : String) : Option String :=
  (environment.reverse.find? fun (variableName, _) =>
    variableName.toLower = variablePrefix ++ name).map (·.2)

/-- The settings of an environment, or all that is wrong with it. -/
def ofEnvironment (environment : List (String × String)) : Except Fault Settings :=
  let strategy :=
    match lookup? environment "output_directory_strategy" with
    | some text => strategyValue "output_directory_strategy" (.str text)
    | none => .ok .directoryTree
  let verbose :=
    match lookup? environment "verbose" with
    | some text => truthValue "verbose" (.str text)
    | none => .ok false
  match strategy, verbose with
  | .ok strategy, .ok verbose => .ok ⟨strategy, verbose, lookup? environment "log_file"⟩
  | strategy, verbose =>
    let problems :=
      (match strategy with | .error problem => [problem] | .ok _ => [])
        ++ (match verbose with | .error problem => [problem] | .ok _ => [])
    .error (.invalidSettings (InputProblem.report "GeneratorSettings" problems))

end Settings

/-! ### Options from values -/

/-- The items of a value that is gone through one by one. -/
def iterated (value : Value) : Except Fault (List Value) :=
  match value with
  | .collection _ items => .ok items
  | .dict entries => .ok (entries.map (·.1))
  | .str text => .ok (text.toList.map fun c => .str (String.ofList [c]))
  | other =>
    .error (.other "TypeError" (quoted (other.kindName .empty) ++ " object is not iterable"))

/-- The set of some items; containers can not be in one. -/
def hashed (items : List Value) : Except Fault (List Value) :=
  match items.find? fun item => item matches .collection .list _ | .collection .set _ | .dict _ with
  | some item => .error (.other "TypeError" ("unhashable type: " ++ quoted (item.kindName .empty)))
  | none => .ok items

/-- The patterns of one axis of a scope, and what is wrong with them. -/
def axisPatterns (place : String) (items : List Value) : List String × List InputProblem :=
  (items.filterMap Value.text?,
    items.zipIdx.filterMap fun (item, index) =>
      if item.text?.isSome then none else some ⟨place ++ s!".{index}", .text, item⟩)

/-- Values by the names of the options they are for. -/
abbrev NamedValues := List (String × Value)

namespace NamedValues

/-- The value of an option, or nothing as a value. -/
def value (values : NamedValues) (name : String) : Value :=
  ((values.find? (·.1 = name)).map (·.2)).getD .null

end NamedValues

namespace GenerationOptions

/-- The report about values that make no options. -/
def invalid (record : String) (problems : List InputProblem) (usage : String) : Failure :=
  .invalidArguments ("Invalid arguments: " ++ InputProblem.report record problems) usage

/-- The scope whose patterns are in two options. -/
def scopeOf (modules packages : Value) (usage : String) : Except Failure Scope := do
  let set (value : Value) : Except Failure (List Value) :=
    ((iterated value).bind hashed).mapError Failure.fault
  let (modules, moduleProblems) := axisPatterns "modules" (← set modules)
  let (packages, packageProblems) := axisPatterns "packages" (← set packages)
  if moduleProblems.isEmpty && packageProblems.isEmpty then pure ⟨modules, packages⟩
  else throw (invalid "ScopeFilter" (moduleProblems ++ packageProblems) usage)

/-- Options from values. An option for the strategy that says nothing leaves it to the settings. -/
def ofValues (settings : Settings) (values : NamedValues) (usage : String) :
    Except Failure GenerationOptions := do
  let given := values.value "output_directory_strategy"
  let chosen := if given.isTruthy then given else .str settings.strategy.name
  let typeScope ← scopeOf (values.value "type_scanning_allowed_modules")
    (values.value "type_scanning_allowed_packages") usage
  let subtypeScope ← scopeOf (values.value "subtype_scanning_allowed_modules")
    (values.value "subtype_scanning_allowed_packages") usage
  let echoOnly := truthValue "echo_only" (values.value "echo_only")
  let directory := pathValue "output_directory" (values.value "output_directory")
  let strategy := strategyValue "output_directory_strategy" chosen
  match echoOnly, directory, strategy with
  | .ok echoOnly, .ok directory, .ok strategy =>
    pure ⟨echoOnly, directory, strategy, typeScope, subtypeScope⟩
  | echoOnly, directory, strategy =>
    let problems :=
      (match echoOnly with | .error problem => [problem] | .ok _ => [])
        ++ (match directory with | .error problem => [problem] | .ok _ => [])
        ++ (match strategy with | .error problem => [problem] | .ok _ => [])
    throw (invalid "GeneratorOptions" problems usage)

end GenerationOptions

end ModelSchema
