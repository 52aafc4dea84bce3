import ModelSchema.Value

/-!
Notices: what the library reports while it works.

A `Notice` is a fact; its level, its source and its message are functions of it.
-/

namespace ModelSchema

inductive NoticeLevel where
  | debug
  | info
  | warning
  deriving DecidableEq, Repr, Inhabited

def NoticeLevel.name : NoticeLevel → String
  | debug => "DEBUG"
  | info => "INFO"
  | warning => "WARNING"

/-- The program itself as a source of notices. -/
def rootSource : String := "polyschema"

/-- The full name of a source of notices: a short name is put below the program. -/
def sourceName (name : String) : String :=
  if name.isEmpty || name = rootSource then rootSource
  else if name.startsWith (rootSource ++ ".") then name
  else rootSource ++ "." ++ name

/-- A fact worth reporting. -/
inductive Notice where
  /-- a search for the subtypes of a type is over -/
  | foundSubtypes (count : Nat) (type scope : String)
  /-- a property is explicitly required although its type admits nothing -/
  | conflictingRequirement (property type : String)
  /-- a module can not be imported; the reason is missing when it failed while it was searched -/
  | importFailed (module : String) (reason : Option String)
  /-- a search found no roots and had no module to import -/
  | noRoots (scope : String)
  | wroteSchema (type path : String)
  | wroteSchemas (count : Nat)
  /-- a line of the settings of a run that does nothing else -/
  | echo (text : String)
  deriving Repr, Inhabited

namespace Notice

def level : Notice → NoticeLevel
  | foundSubtypes .. => .debug
  | conflictingRequirement .. | importFailed .. | noRoots _ => .warning
  | wroteSchema .. | wroteSchemas _ | echo _ => .info

/-- The part of the program a notice comes from. -/
def source : Notice → String
  | foundSubtypes .. => "polyschema.core.polymorphic"
  | conflictingRequirement .. => "polyschema.core.builder"
  | importFailed .. | noRoots _ => "polyschema.core.scanning"
  | wroteSchema .. => "polyschema.core.writer"
  | wroteSchemas _ | echo _ => "polyschema.generator"

def message : Notice → String
  | foundSubtypes count type scope => s!"Found {count} subtype(s) of {type} in scope {scope}"
  | conflictingRequirement property type =>
    s!"Property '{property}' of {type} is explicitly required but typed as optional; "
      ++ "treating it as required"
  | importFailed module (some reason) => s!"Unable to import {module}: {reason}"
  | importFailed module none => s!"Unable to import {module}"
  | noRoots scope =>
    s!"No schema types found for {scope}; glob patterns only match modules that are already "
      ++ "imported, name a module or package to import it"
  | wroteSchema type path => s!"Wrote {type}'s schema to {path}"
  | wroteSchemas count => s!"Wrote {count} schemas"
  | echo text => text

/-- A notice as a line of a log. -/
def logLine (notice : Notice) : String :=
  notice.level.name ++ " " ++ notice.source ++ ": " ++ notice.message

end Notice

end ModelSchema
