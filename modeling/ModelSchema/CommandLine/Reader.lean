import ModelSchema.Text.CharClass
import ModelSchema.Text.Quoted

/-!
Options of a command line, and reading a command line against them.

* `OptionSpec`: the spellings of an option and what it does with an argument.
* `CommandArg`: what an argument is: an option, the mark that ends options, or something else.
* `CommandArg.classify`: options may be cut short where that leaves no choice.
* `GivenOptions`: what was given, in order, by the keys of the options.
* `CommandReading`: the options given, the arguments that fit nothing, and the command with
  everything behind it.
* `readCommand`: reads the arguments of a program or of one of its commands.
-/

namespace ModelSchema

/-! ### Options -/

/-- What an option does. -/
inductive OptionAction where
  | setFlag
  | store
  | append
  | help
  | version
  deriving DecidableEq, Repr, Inhabited

/-- An option. Any word is an argument of an option without choices. -/
structure OptionSpec where
  key : String
  spellings : List String
  action : OptionAction
  choices : List String
  required : Bool
  deriving DecidableEq, Repr, Inhabited

/-- Why a command line is left before it is carried out. -/
inductive CommandHalt where
  | help
  | version
  | error (message : String)
  deriving DecidableEq, Repr, Inhabited

namespace OptionSpec

/-- An option in messages. -/
def label (option : OptionSpec) : String := "/".intercalate option.spellings

def takesArgument (option : OptionSpec) : Bool :=
  match option.action with
  | .store | .append => true
  | .setFlag | .help | .version => false

/-- A fault of one option. -/
def fault (option : OptionSpec) (text : String) : CommandHalt :=
  .error ("argument " ++ option.label ++ ": " ++ text)

/-- The option with a spelling. -/
def withSpelling? (options : List OptionSpec) (spelling : String) : Option OptionSpec :=
  options.find? (·.spellings.contains spelling)

end OptionSpec

/-- What an argument is: an option that is known with what is attached to it, one that is not, the
mark behind which there are no options, or something else. -/
inductive CommandArg where
  | option (spec : OptionSpec) (spelling : String) (attached : Option String) (text : String)
  | unknown (text : String)
  | mark
  | plain (text : String)
  deriving DecidableEq, Repr, Inhabited

namespace CommandArg

/-- The argument as it was given. -/
def text : CommandArg → String
  | option _ _ _ text | unknown text | plain text => text
  | mark => "--"

/-- Whether an argument is not an option. -/
def isPlain : CommandArg → Bool
  | plain _ => true
  | _ => false

/-- A text at its first equals sign. -/
def splitEquals (text : String) : Option (String × String) :=
  let cs := text.toList
  match cs.dropWhile (· ≠ '=') with
  | _ :: value => some (String.ofList (cs.takeWhile (· ≠ '=')), String.ofList value)
  | [] => none

/-- The options that a text can be short for, with their spelling and what is attached. -/
def abbreviations (options : List OptionSpec) (text : String) :
    List (OptionSpec × String × Option String) :=
  let spelled := options.flatMap fun spec => spec.spellings.map (spec, ·)
  if text.startsWith "--" then
    let (name, attached) :=
      match splitEquals text with
      | some (name, value) => (name, some value)
      | none => (text, none)
    spelled.filterMap fun (spec, spelling) =>
      if spelling.startsWith name then some (spec, spelling, attached) else none
  else
    let short := String.ofList (text.toList.take 2)
    spelled.filterMap fun (spec, spelling) =>
      if spelling = short then
        some (spec, spelling, some (String.ofList (text.toList.drop 2)))
      else if spelling.startsWith text then some (spec, spelling, none)
      else none

/-- Whether a text is a negative number. -/
def isNegativeNumber (text : String) : Bool :=
  match text.toList with
  | '-' :: digits =>
    match digits.dropWhile isDecimalDigit with
    | [] => !digits.isEmpty
    | '.' :: fraction => !fraction.isEmpty && fraction.all isDecimalDigit
    | _ => false
  | _ => false

/-- What one argument is. -/
def classify (options : List OptionSpec) (text : String) : Except CommandHalt CommandArg :=
  if !text.startsWith "-" || text = "-" then .ok (.plain text)
  else
    let exactly := OptionSpec.withSpelling? options text
    let before := (splitEquals text).bind fun (name, value) =>
      (OptionSpec.withSpelling? options name).map fun spec => (spec, name, value)
    match exactly, before with
    | some spec, _ => .ok (.option spec text none text)
    | none, some (spec, name, value) => .ok (.option spec name (some value) text)
    | none, none =>
      match abbreviations options text with
      | [(spec, spelling, attached)] => .ok (.option spec spelling attached text)
      | [] =>
        if isNegativeNumber text || text.contains ' ' then .ok (.plain text)
        else .ok (.unknown text)
      | several =>
        .error (.error ("ambiguous option: " ++ text ++ " could match "
          ++ ", ".intercalate (several.map (·.2.1))))

/-- What the arguments of a command line are. -/
def classifyAll (options : List OptionSpec) : List String → Except CommandHalt (List CommandArg)
  | [] => .ok []
  | "--" :: rest => .ok (.mark :: rest.map .plain)
  | text :: rest => do
    let arg ← classify options text
    return arg :: (← classifyAll options rest)

end CommandArg

/-! ### Reading -/

/-- What was given: the key of an option with its argument; flags have none. -/
abbrev GivenOptions := List (String × Option String)

namespace GivenOptions

def flag (given : GivenOptions) (key : String) : Bool := given.any (·.1 = key)

/-- The last argument given to an option. -/
def last? (given : GivenOptions) (key : String) : Option String :=
  (given.reverse.find? (·.1 = key)).bind (·.2)

/-- All arguments given to an option. -/
def all (given : GivenOptions) (key : String) : List String :=
  given.filterMap fun (k, argument) => if k = key then argument else none

end GivenOptions

/-- What is read of a command line. -/
structure CommandReading where
  given : GivenOptions
  extras : List String
  command : Option (List String)
  deriving Repr, Inhabited

/-- An option with what it was given. -/
abbrev OptionUse := OptionSpec × Option String

/-- What one argument uses: options, the last of which may still need its argument. -/
structure ArgumentUse where
  uses : List OptionUse
  needsArgument : Bool
  deriving Repr, Inhabited

/-- What an option uses together with what is attached to it. Short flags may be joined, and the
last short option may take what is left as its argument. -/
def attachedUse (options : List OptionSpec) (isShort : Bool) (option : OptionSpec)
    (attached : List Char) : Except CommandHalt ArgumentUse :=
  let ignored : CommandHalt :=
    option.fault ("ignored explicit argument " ++ quoted (String.ofList attached))
  if option.takesArgument then .ok ⟨[(option, some (String.ofList attached))], false⟩
  else if !isShort then .error ignored
  else
    match attached with
    | [] => .error ignored
    | c :: rest =>
      match OptionSpec.withSpelling? options (String.ofList ['-', c]) with
      | none => .error ignored
      | some next =>
        if rest.isEmpty then .ok ⟨[(option, none), (next, none)], next.takesArgument⟩
        else do
          let used ← attachedUse options true next rest
          return { used with uses := (option, none) :: used.uses }

/-- What an option uses. -/
def usedOptions (options : List OptionSpec) (isShort : Bool) (option : OptionSpec) :
    Option String → Except CommandHalt ArgumentUse
  | none => .ok ⟨[(option, none)], option.takesArgument⟩
  | some attached => attachedUse options isShort option attached.toList

/-- Carries out the use of an option. -/
def useOption (given : GivenOptions) (use : OptionUse) : Except CommandHalt GivenOptions :=
  let (option, argument) := use
  match option.action with
  | .help => .error .help
  | .version => .error .version
  | .setFlag => .ok (given ++ [(option.key, none)])
  | .store | .append =>
    let text := argument.getD ""
    if option.choices.isEmpty || option.choices.contains text then
      .ok (given ++ [(option.key, some text)])
    else
      .error (option.fault ("invalid choice: " ++ quoted text ++ " (choose from "
        ++ ", ".intercalate (option.choices.map quoted) ++ ")"))

/-- Carries out the uses of options in order. -/
def useOptions (given : GivenOptions) : List OptionUse → Except CommandHalt GivenOptions
  | [] => .ok given
  | use :: rest => do useOptions (← useOption given use) rest

/-- Gives the last use its argument. -/
def withArgument (argument : String) : List OptionUse → List OptionUse
  | [] => []
  | [(option, _)] => [(option, some argument)]
  | use :: rest => use :: withArgument argument rest

/-- Reads arguments one after the other. Where a command is expected, the first argument that is no
option begins it. -/
def readArgs (options : List OptionSpec) (hasCommand : Bool) (given : GivenOptions)
    (extras : List String) : List CommandArg → Except CommandHalt CommandReading
  | [] => .ok ⟨given, extras, none⟩
  | .plain text :: rest =>
    if hasCommand then .ok ⟨given, extras, some (text :: rest.map CommandArg.text)⟩
    else readArgs options hasCommand given (extras ++ [text]) rest
  | .mark :: rest =>
    if hasCommand && !rest.isEmpty then
      .ok ⟨given, extras, some ("--" :: rest.map CommandArg.text)⟩
    else readArgs options hasCommand given (extras ++ ["--"]) rest
  | .unknown text :: rest => readArgs options hasCommand given (extras ++ [text]) rest
  | .option spec spelling attached _ :: rest => do
    let used ← usedOptions options (!spelling.startsWith "--") spec attached
    match used.needsArgument, rest with
    | false, rest => readArgs options hasCommand (← useOptions given used.uses) extras rest
    | true, .plain argument :: rest =>
      readArgs options hasCommand (← useOptions given (withArgument argument used.uses)) extras rest
    | true, _ =>
      let missing := (used.uses.getLast?.map (·.1)).getD spec
      .error (missing.fault "expected one argument")

/-- Reads the arguments of a program or a command. -/
def readCommand (options : List OptionSpec) (hasCommand : Bool) (args : List String) :
    Except CommandHalt CommandReading := do
  let reading ← readArgs options hasCommand [] [] (← CommandArg.classifyAll options args)
  let missing := options.filter fun option => option.required && !reading.given.flag option.key
  if missing.isEmpty then pure reading
  else throw (.error ("the following arguments are required: "
    ++ ", ".intercalate (missing.map OptionSpec.label)))

end ModelSchema
