import ModelSchema.Failure

/-!
What is wrong with a YAML text, and where.

* `YamlMark`: a place in a text.
* `YamlError`: a problem with its place, and what was being read where it was noticed.
* `YamlError.text`: the wording, with places named by line and column.
-/

namespace ModelSchema

/-- A place in a text: the number of characters, of lines and of columns before it. -/
structure YamlMark where
  index : Nat
  line : Nat
  column : Nat
  deriving DecidableEq, Repr, Inhabited

/-- A problem. The context tells what was being read and where it begins. -/
structure YamlProblem where
  stage : YamlStage
  context : Option String
  contextMark : Option YamlMark
  problem : String
  mark : Option YamlMark
  deriving DecidableEq, Repr, Inhabited

/-- What is wrong with a text. -/
inductive YamlError where
  | placed (problem : YamlProblem)
  /-- an escape has the code of no character -/
  | noCharacter (code : Nat)
  /-- a scalar stands for no value -/
  | value (cause : Fault)
  deriving Repr, Inhabited

/-- A place in the text of a name. -/
def YamlMark.text (name : String) (mark : YamlMark) : String :=
  s!"  in \"{name}\", line {mark.line + 1}, column {mark.column + 1}"

/-- The wording of a problem in the text of a name. Characters that can not be read are placed by
their position alone. -/
def YamlProblem.text (name : String) (error : YamlProblem) : String :=
  if error.stage = .reading then
    let position := (error.mark.map YamlMark.index).getD 0
    s!"{error.problem}\n  in \"{name}\", position {position}"
  else
    let contextPlace :=
      match error.contextMark with
      | some context =>
        match error.mark with
        | some mark =>
          if context.line = mark.line && context.column = mark.column then []
          else [context.text name]
        | none => [context.text name]
      | none => []
    "\n".intercalate (error.context.toList ++ contextPlace ++ [error.problem]
      ++ (error.mark.map (YamlMark.text name)).toList)

namespace YamlError

/-- A problem with a token that is being read. -/
def scanning (context : String) (start : YamlMark) (problem : String) (mark : YamlMark) :
    YamlError :=
  .placed ⟨.scanning, some context, some start, problem, some mark⟩

/-- A problem at a place, without context. -/
def simple (stage : YamlStage) (problem : String) (mark : YamlMark) : YamlError :=
  .placed ⟨stage, none, none, problem, some mark⟩

/-- A problem with the value of a node. -/
def constructing (context : String) (start : YamlMark) (problem : String) (mark : YamlMark) :
    YamlError :=
  .placed ⟨.constructing, some context, some start, problem, some mark⟩

/-- The error as a cause of failures. -/
def fault (name : String) : YamlError → Fault
  | .placed problem => .yaml problem.stage (problem.text name)
  | .noCharacter code => .noCharacter code
  | .value cause => cause

end YamlError

/-- A character as messages show it; the end of the text counts as the character zero. -/
def shownChar (c : Option Char) : String := quoted (String.singleton (c.getD '\u0000'))

end ModelSchema
