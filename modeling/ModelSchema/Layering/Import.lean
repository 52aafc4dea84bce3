import ModelSchema.Naming

/-!
The import guard: the core must not import the front end.

* `ImportStatement`, `SourceStatement`: what the guard sees of a source file.
* `isFrontEnd`: whether a module name, absolute or relative to the core, leads to the front end.
* `SourceStatement.violations`: every import of the front end, in source order.
-/

namespace ModelSchema

/-- An import of whole modules, or of names out of a module. The level of the latter is the number
of leading dots; level zero is absolute. -/
inductive ImportStatement where
  | modules (names : List String)
  | members (level : Int) (module : Option String) (names : List String)
  deriving DecidableEq, Repr, Inhabited

/-- A statement as far as the guard is concerned: an import, or a compound statement with the
statements inside it. -/
inductive SourceStatement where
  | imports (line : Nat) (statement : ImportStatement)
  | block (line : Nat) (body orElse : List SourceStatement)
  deriving Repr, Inhabited

/-- What is wrong in a source file. -/
inductive LayerFault where
  | importsModule (name : String)
  | importsMembers (level : Int) (module : Option String) (names : List String)
  /-- the file can not be read; its name and the line stand in the message -/
  | invalidSyntax (file : String) (line : Nat)
  deriving DecidableEq, Repr, Inhabited

namespace LayerFault

def message : LayerFault → String
  | importsModule name => s!"Forbidden import: import {name}"
  | importsMembers level module names =>
    "Forbidden import: from " ++ String.ofList (List.replicate level.toNat '.') ++ module.getD ""
      ++ " import " ++ ", ".intercalate names
  | invalidSyntax file line => s!"Syntax error: invalid syntax ({file}, line {line})"

end LayerFault

/-- The package that the core belongs to. -/
def guardedPackage : String := "polyschema"

/-- The modules of the front end, directly inside the package. -/
def frontEndModules : List String := ["cli", "generator", "options"]

/-- Whether a module name reached through a number of dots leads to the front end. Two dots lead
from the core to the package, and so do more. -/
def isFrontEnd (name : String) (level : Int) : Bool :=
  if level = 0 then
    frontEndModules.any fun module =>
      name = guardedPackage ++ "." ++ module
        || name.startsWith (guardedPackage ++ "." ++ module ++ ".")
  else if 2 ≤ level then frontEndModules.contains ((dottedParts name).headD "")
  else false

namespace ImportStatement

/-- The faults of one import statement: one for each module it names, or one for a list of
members. -/
def faults : ImportStatement → List LayerFault
  | modules names => (names.filter (isFrontEnd · 0)).map .importsModule
  | members level module names =>
    let reached := isFrontEnd (module.getD "") level
    let named := decide (2 ≤ level) && (module.getD "").isEmpty
      && names.any frontEndModules.contains
    if reached || named then [.importsMembers level module names] else []

end ImportStatement

namespace SourceStatement

mutual

/-- The faults of a statement and of those inside it, with their lines. -/
def violations : SourceStatement → List (Nat × LayerFault)
  | imports line statement => statement.faults.map (line, ·)
  | block _ body orElse => violationsOfAll body ++ violationsOfAll orElse

/-- The faults of statements one after the other. -/
def violationsOfAll : List SourceStatement → List (Nat × LayerFault)
  | [] => []
  | statement :: rest => statement.violations ++ violationsOfAll rest

end

end SourceStatement

end ModelSchema
