import ModelSchema.Number.Numeral
import ModelSchema.Value

/-!
What can go wrong, as causes.

* `Fault`: a single cause outside the library's own reports, with its kind and text.
* `Failure`: a fault, or a report with a code, a context and the failure it was made from.
* `Failure.text`: the full text of a failure, the one it was made from included.
-/

namespace ModelSchema

/-- The kinds of error a callable, a locator or a module under import can raise. -/
inductive RaisedKind where
  | runtime
  | value
  | type
  | importing
  | system
  | key
  deriving DecidableEq, Repr, Inhabited

/-- The ways a file operation fails. -/
inductive FileError where
  | notFound
  | exists
  | notADirectory
  | isADirectory
  deriving DecidableEq, Repr, Inhabited

namespace FileError

/-- The number and the words of the operating system. -/
def number : FileError → Nat
  | notFound => 2
  | «exists» => 17
  | notADirectory => 20
  | isADirectory => 21

def words : FileError → String
  | notFound => "No such file or directory"
  | «exists» => "File exists"
  | notADirectory => "Not a directory"
  | isADirectory => "Is a directory"

def kindName : FileError → String
  | notFound => "FileNotFoundError"
  | «exists» => "FileExistsError"
  | notADirectory => "NotADirectoryError"
  | isADirectory => "IsADirectoryError"

end FileError

/-- The stages at which a YAML text can be refused. -/
inductive YamlStage where
  | reading
  | scanning
  | parsing
  | composing
  | constructing
  deriving DecidableEq, Repr, Inhabited

/-- The ways a schema reference leads nowhere. `document` is the text of the whole document. -/
inductive DeadReference where
  /-- there is nothing at a path of keys -/
  | path (keys document : String)
  /-- nothing in the document has the name -/
  | name (anchor document : String)
  /-- the name has a slash and is no path of keys either -/
  | badName (anchor : String)
  /-- the reference leads out of the document -/
  | outside (reference : String)
  deriving DecidableEq, Repr, Inhabited

def DeadReference.message : DeadReference → String
  | path keys document =>
    s!"PointerToNowhere: {quoted keys} does not exist within {document}"
      ++ if keys = "/" then
        ". The pointer '/' is a valid JSON Pointer but it points to an empty string property ''. "
          ++ "If you intended to point to the entire resource, you should use '#'."
      else ""
  | name anchor document => s!"NoSuchAnchor: {quoted anchor} does not exist within {document}"
  | badName anchor =>
    s!"InvalidAnchor: '#{anchor}' is not a valid anchor, neither as a plain name anchor nor as a "
      ++ s!"JSON Pointer. You may have intended to use '#/{anchor}', as the slash is required "
      ++ "*before each segment* of a JSON pointer."
  | outside reference => s!"Unresolvable: {reference}"

/-- A single cause. -/
inductive Fault where
  /-- raised by a callable, a locator or a module -/
  | raised (kind : RaisedKind) (text : String)
  /-- an infinite decimal where an integer is needed -/
  | infiniteInteger
  /-- a signaling decimal was used -/
  | signalingDecimal
  /-- an integer too large for a double -/
  | integerTooLarge
  /-- an entry of a closed list that is no subtype of its base -/
  | notASubtype (entry base : String)
  /-- a leaf without a format -/
  | noFormat (type : String)
  /-- a class is asked for where there is none -/
  | notAClass
  /-- a callable that takes no arguments was given some -/
  | tooManyArguments (given : Nat)
  /-- a class that no order of ancestors fits -/
  | inconsistentBases (bases : List String)
  | duplicateBase (name : String)
  /-- an annotation names something that is not defined -/
  | undefinedName (name : String)
  /-- a value that has no YAML form -/
  | unrepresentable (value : String)
  /-- a value that has no JSON form -/
  | unserializable (type : String)
  | missingAttribute (owner name : String)
  /-- bytes that are not UTF-8 -/
  | invalidUtf8 (byte : Nat) (position : Nat) (reason : String)
  /-- no document time is left -/
  | clockExhausted
  /-- there is no module of the name -/
  | noModule (name : String)
  /-- a module is looked for inside one that holds no others -/
  | notAPackage (name container : String)
  | emptyModuleName
  /-- a module name that starts from nowhere -/
  | relativeModuleName (name : String)
  | notAStrategy (text : String)
  /-- settings or options of the wrong form -/
  | invalidSettings (text : String)
  | file (error : FileError) (path : String)
  | yaml (stage : YamlStage) (text : String)
  | calendar (error : CalendarError)
  /-- a value that holds itself has no end -/
  | endless
  /-- the offset of a zone is a day or longer -/
  | offsetOutOfRange (offset : Duration)
  /-- a character is asked for where a text has none -/
  | noCharacterThere
  /-- a table has no such key -/
  | missingKey (key : String)
  /-- a value of some kind stands where a text is needed -/
  | notAText (kind : String)
  /-- a number that is the code of no character -/
  | noCharacter (code : Nat)
  /-- a text that is no number -/
  | numeral (error : NumeralError)
  /-- a schema reference that leads nowhere -/
  | unresolvedReference (reference : DeadReference)
  /-- a schema names a type that is none; all three are texts of values -/
  | unknownType (type schema value : String)
  /-- any other error of a named kind -/
  | other (kind text : String)
  deriving Repr, Inhabited

def RaisedKind.name : RaisedKind → String
  | runtime => "RuntimeError"
  | value => "ValueError"
  | type => "TypeError"
  | importing => "ImportError"
  | system => "OSError"
  | key => "KeyError"

def YamlStage.kindName : YamlStage → String
  | reading => "ReaderError"
  | scanning => "ScannerError"
  | parsing => "ParserError"
  | composing => "ComposerError"
  | constructing => "ConstructorError"

/-- The page that explains an error of a data model. -/
def helpPage (page : String) : String := "https:" ++ "//errors.pydantic.dev/2.14/" ++ page

namespace Fault

/-- The name of the kind of a fault. -/
def kindName : Fault → String
  | raised kind _ => kind.name
  | infiniteInteger => "OverflowError"
  | signalingDecimal => "InvalidOperation"
  | integerTooLarge => "OverflowError"
  | notASubtype .. => "TypeError"
  | noFormat _ => "TypeError"
  | notAClass => "TypeError"
  | tooManyArguments _ => "TypeError"
  | inconsistentBases _ => "TypeError"
  | duplicateBase _ => "TypeError"
  | undefinedName _ => "PydanticUndefinedAnnotation"
  | unrepresentable _ => "RepresenterError"
  | unserializable _ => "PydanticSerializationError"
  | missingAttribute .. => "AttributeError"
  | invalidUtf8 .. => "UnicodeDecodeError"
  | clockExhausted => "StopIteration"
  | noModule _ | notAPackage .. => "ModuleNotFoundError"
  | emptyModuleName => "ValueError"
  | relativeModuleName _ => "TypeError"
  | notAStrategy _ => "ValueError"
  | invalidSettings _ => "ValidationError"
  | file error _ => error.kindName
  | yaml stage _ => stage.kindName
  | calendar _ => "ValueError"
  | endless => "RecursionError"
  | offsetOutOfRange _ => "ValueError"
  | noCharacterThere => "IndexError"
  | missingKey _ => "KeyError"
  | notAText _ => "TypeError"
  | noCharacter code => if code < Nat.pow 2 31 then "ValueError" else "OverflowError"
  | numeral _ => "ValueError"
  | unresolvedReference _ => "_WrappedReferencingError"
  | unknownType .. => "UnknownType"
  | other kind _ => kind

/-- The text of a fault. -/
def message : Fault → String
  | raised .key text => quoted text
  | raised _ text => text
  | infiniteInteger => "cannot convert Infinity to integer"
  | signalingDecimal => "[<class 'decimal.InvalidOperation'>]"
  | integerTooLarge => "int too large to convert to float"
  | notASubtype entry base => s!"{entry} is not a subtype of {base}"
  | noFormat type => s!"No schema format for {type}"
  | notAClass => "issubclass() arg 1 must be a class"
  | tooManyArguments given =>
    "World.extra.<locals>.<lambda>() takes 0 positional arguments but "
      ++ s!"{given} " ++ (if given = 1 then "was" else "were") ++ " given"
  | inconsistentBases bases =>
    "Cannot create a consistent method resolution\norder (MRO) for bases "
      ++ ", ".intercalate bases
  | duplicateBase name => s!"duplicate base class {name}"
  | undefinedName name =>
    s!"name {quoted name} is not defined\n\nFor further information visit "
      ++ helpPage "u/undefined-annotation"
  | unrepresentable value => s!"('cannot represent an object', {value})"
  | unserializable type => s!"Unable to serialize unknown type: {type}"
  | missingAttribute owner name => s!"{quoted owner} object has no attribute {quoted name}"
  | invalidUtf8 byte position reason =>
    s!"'utf-8' codec can't decode byte 0x" ++ String.ofList (hexPadded 2 byte)
      ++ s!" in position {position}: {reason}"
  | clockExhausted => ""
  | noModule name => s!"No module named {quoted name}"
  | notAPackage name container =>
    s!"No module named {quoted name}; {quoted container} is not a package"
  | emptyModuleName => "Empty module name"
  | relativeModuleName name =>
    s!"the 'package' argument is required to perform a relative import for {quoted name}"
  | notAStrategy text => s!"{quoted text} is not a valid OutputStrategy"
  | invalidSettings text => text
  | file error path => s!"[Errno {error.number}] {error.words}: {quoted path}"
  | yaml _ text => text
  | calendar error => error.message
  | endless => "maximum recursion depth exceeded"
  | offsetOutOfRange offset =>
    "offset must be a timedelta strictly between -timedelta(hours=24) and timedelta(hours=24), "
      ++ s!"not {offset.displayed}."
  | noCharacterThere => "string index out of range"
  | missingKey key => quoted key
  | notAText kind => s!"expected string or bytes-like object, got {quoted kind}"
  | noCharacter code =>
    if code < Nat.pow 2 31 then "chr() arg not in range(0x110000)"
    else "Python int too large to convert to C int"
  | numeral error => error.message
  | unresolvedReference reference => reference.message
  | unknownType type schema value =>
    let inset (text : String) : String := "    " ++ text.replace "\n" "\n    "
    s!"Unknown type {type} for validator with schema:\n" ++ inset schema
      ++ "\n\nWhile checking instance:\n" ++ inset value
  | other _ text => text

/-- Whether a fault says that a module can not be imported. -/
def isImportError : Fault → Bool
  | raised .importing _ | noModule _ | notAPackage .. => true
  | _ => false

end Fault

/-- A fault in the use of a value. -/
def typeFault (text : String) : Fault := .other "TypeError" text

/-- A value that does not do. -/
def valueFault (text : String) : Fault := .other "ValueError" text

/-- The codes of reports. -/
inductive ErrorCode where
  | introspectionFailure
  | subtypeLookupFailure
  | schemaBuildFailure
  | outputWriteFailure
  | invalidArguments
  | unknownError
  deriving DecidableEq, Repr, Inhabited

namespace ErrorCode

def all : List ErrorCode :=
  [introspectionFailure, subtypeLookupFailure, schemaBuildFailure, outputWriteFailure,
    invalidArguments, unknownError]

/-- The name of a code, as it stands in texts. -/
def name : ErrorCode → String
  | introspectionFailure => "INTROSPECTION_FAILURE"
  | subtypeLookupFailure => "SUBTYPE_LOOKUP_FAILURE"
  | schemaBuildFailure => "SCHEMA_BUILD_FAILURE"
  | outputWriteFailure => "OUTPUT_WRITE_FAILURE"
  | invalidArguments => "INVALID_ARGUMENTS"
  | unknownError => "UNKNOWN_ERROR"

/-- The code with a name. -/
def ofName? (name : String) : Option ErrorCode := all.find? (·.name = name)

/-- The value of a code, for machines. -/
def value : ErrorCode → String
  | introspectionFailure => "introspection_failure"
  | subtypeLookupFailure => "subtype_lookup_failure"
  | schemaBuildFailure => "schema_build_failure"
  | outputWriteFailure => "output_write_failure"
  | invalidArguments => "invalid_arguments"
  | unknownError => "unknown_error"

end ErrorCode

/-- The kinds of reports. -/
inductive ReportKind where
  | core
  | introspection
  | subtypeLookup
  | schemaBuild
  | outputWrite
  | invalidArguments
  deriving DecidableEq, Repr, Inhabited

def ReportKind.name : ReportKind → String
  | core => "CoreError"
  | introspection => "IntrospectionError"
  | subtypeLookup => "SubtypeLookupError"
  | schemaBuild => "SchemaBuildError"
  | outputWrite => "OutputWriteError"
  | invalidArguments => "InvalidArgumentsError"

/-- A failure: a fault, or a report that may hold the failure it was made from. -/
inductive Failure where
  | fault (cause : Fault)
  | report (kind : ReportKind) (code : ErrorCode) (message : String)
      (context : List (String × Value)) (origin : Option Failure)
  deriving Repr, Inhabited

namespace Failure

/-! ### Reports -/

/-- Sets a key of a context: an existing key keeps its place. -/
def contextSet (context : List (String × Value)) (key : String) (value : Value) :
    List (String × Value) :=
  if context.any (·.1 = key) then
    context.map fun (k, v) => if k = key then (k, value) else (k, v)
  else context ++ [(key, value)]

/-- The context of a report about a type. -/
def typeContext (typeName : String) (context : List (String × Value)) : List (String × Value) :=
  contextSet context "type_name" (.str typeName)

/-- A message, or the usual one when it is missing or empty. -/
def messageOr (message : Option String) (usual : String) : String :=
  match message with
  | some text => if text.isEmpty then usual else text
  | none => usual

/-- A report without a kind of its own. -/
def core (message : String) (code : Option ErrorCode) (context : List (String × Value))
    (origin : Option Failure) : Failure :=
  .report .core (code.getD .unknownError) message context origin

/-- The shape of a type can not be determined. -/
def introspection (typeName : String) (message : Option String) (context : List (String × Value))
    (origin : Option Failure) : Failure :=
  .report .introspection .introspectionFailure
    (messageOr message s!"Failed to introspect {typeName}") (typeContext typeName context) origin

/-- The subtypes of a type can not be found. -/
def subtypeLookup (typeName : String) (message : Option String) (context : List (String × Value))
    (origin : Option Failure) : Failure :=
  .report .subtypeLookup .subtypeLookupFailure
    (messageOr message s!"Failed to find subtypes of {typeName}")
    (typeContext typeName context) origin

/-- The schema of a type can not be built. -/
def schemaBuild (typeName : String) (context : List (String × Value))
    (origin : Option Failure) : Failure :=
  .report .schemaBuild .schemaBuildFailure s!"Failed to generate schema for {typeName}"
    (typeContext typeName context) origin

/-- The document of a type can not be written. -/
def outputWrite (typeName : String) (path : Option String) (context : List (String × Value))
    (origin : Option Failure) : Failure :=
  let context := typeContext typeName context
  let context :=
    match path with
    | some path => contextSet context "path" (.str path)
    | none => context
  .report .outputWrite .outputWriteFailure s!"Failed to write schema for {typeName}" context
    origin

/-- Command line arguments make no options. The usage, if any, follows the message. -/
def invalidArguments (message usage : String) : Failure :=
  .report .invalidArguments .invalidArguments
    (if usage.isEmpty then message else message ++ "\n" ++ usage)
    (if usage.isEmpty then [] else [("usage", .str usage)]) none

/-! ### Reading a failure -/

def kindName : Failure → String
  | fault cause => cause.kindName
  | report kind .. => kind.name

/-- The message alone, without code and origin. -/
def message : Failure → String
  | fault cause => cause.message
  | report _ _ message _ _ => message

/-- The full text: code, message and the text of the origin. -/
def text : Failure → String
  | fault cause => cause.message
  | report _ code message _ origin =>
    s!"[{code.name}] {message}" ++
      match origin with
      | some cause => s!" (Original: {cause.text})"
      | none => ""

/-- Whether a failure says that a module can not be imported. -/
def isImportError : Failure → Bool
  | fault cause => cause.isImportError
  | report .. => false

def origin : Failure → Option Failure
  | report _ _ _ _ origin => origin
  | fault _ => none

def context : Failure → List (String × Value)
  | report _ _ _ context _ => context
  | fault _ => []

/-- The name of the type a report is about. -/
def typeName (failure : Failure) : Option Value :=
  (failure.context.find? (·.1 = "type_name")).map (·.2)

/-- The kinds of a failure and of all the causes below it. -/
def kindNames : Failure → List String
  | fault cause => [cause.kindName]
  | report kind _ _ _ origin =>
    kind.name :: match origin with
      | some cause => cause.kindNames
      | none => []

/-- A report as a dictionary that is safe to log. -/
def toRecord : Failure → Value
  | fault _ => .record []
  | report _ code message context origin =>
    .record ([("error_code", .str code.name), ("message", .str message),
      ("context", .record context)]
      ++ match origin with
        | some cause => [("original_error", .str cause.kindName)]
        | none => [])

end Failure

/-- An error as a callable, a locator or a module states it: its kind and its text. -/
inductive Raise where
  | fault (kind : RaisedKind)
  | core
  | introspection
  | subtypeLookup
  | schemaBuild
  deriving DecidableEq, Repr, Inhabited

/-- The failure of a stated error. -/
def Raise.failure (raise : Raise) (text : String) : Failure :=
  match raise with
  | .fault kind => .fault (.raised kind text)
  | .core => .core text none [] none
  | .introspection => .introspection text none [] none
  | .subtypeLookup => .subtypeLookup text none [] none
  | .schemaBuild => .schemaBuild text [] none

end ModelSchema
