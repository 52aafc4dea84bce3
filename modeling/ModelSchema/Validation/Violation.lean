import ModelSchema.Failure
import ModelSchema.Shown

/-!
Violations: where and how a value breaks the rules of a schema.

* `Problem`: the rule that is broken, with what its message needs.
* `Violation`: a problem and the path of the value it is about.
* `Violation.text`: one line about a violation.
* `Checked`: the course of a check.

A check finds violations one by one, and it can come to a place where the schema is of no use.
`Checked` is what is found up to there, and the fault if there is one. Whoever asks only whether
there is a violation stops at the first one, and does not get to a fault behind it.
-/

namespace ModelSchema

/-- A step from a value to one of its parts. -/
inductive PathPart where
  | key (name : String)
  | index (n : Nat)
  deriving DecidableEq, Repr, Inhabited

def PathPart.text : PathPart → String
  | key name => name
  | index n => s!"{n}"

/-- What sizes are counted of. -/
inductive Sized where
  | content
  | properties
  deriving DecidableEq, Repr, Inhabited

/-- A broken rule. `value` is always the value that breaks it. -/
inductive Problem where
  | forbidden (value : Value)
  | wrongType (value : Value) (types : List Value)
  | unlisted (value values : Value)
  | different (expected : Value)
  | belowMinimum (value limit : Value)
  | notAbove (value limit : Value)
  | aboveMaximum (value limit : Value)
  | notBelow (value limit : Value)
  | notMultiple (value divisor : Value)
  | tooSmall (sized : Sized) (value : Value) (nonEmpty : Bool)
  | tooLarge (sized : Sized) (value : Value) (toBeEmpty : Bool)
  | repeatedItems (value : Value)
  | unmatched (value pattern : Value)
  | missing (property : Value)
  | unexpectedProperties (names : List Value)
  | unmatchedProperties (names patterns : List Value)
  | unexpectedItems (items : List Value)
  | nothingContained (value : Value)
  | noAlternative (value : Value)
  | severalAlternatives (value : Value) (schemas : List Value)
  | excluded (value schema : Value)
  | missingDependency (needed property : Value)
  | disallowed (value type : Value)
  | tooManyMatches (most : Value)
  | tooFewMatches (least : Value) (count : Nat)
  | noMatches (value : Value)
  | itemsBehind (prefixLength : Nat) (rest : List Value)
  | unevaluatedItems (items : List Value)
  | unevaluatedProperties (names : List Value)
  | invalidProperties (names : List Value)
  deriving Repr, Inhabited

namespace Problem

def tooSmallText (nonEmpty : Bool) : Sized → String
  | .content => if nonEmpty then "should be non-empty" else "is too short"
  | .properties => if nonEmpty then "should be non-empty" else "does not have enough properties"

def tooLargeText (toBeEmpty : Bool) : Sized → String
  | .content => if toBeEmpty then "is expected to be empty" else "is too long"
  | .properties => if toBeEmpty then "is expected to be empty" else "has too many properties"

/-- The wording of a problem. -/
def message (table : ClassTable) (problem : Problem) : String :=
  let shown (value : Value) : String := value.displayed table
  let list (values : List Value) : String := ", ".intercalate (values.map shown)
  let were (values : List Value) : String := if values.length = 1 then "was" else "were"
  match problem with
  | forbidden value => "False schema does not allow " ++ shown value
  | wrongType value types => shown value ++ " is not of type " ++ list types
  | unlisted value values => shown value ++ " is not one of " ++ shown values
  | different expected => shown expected ++ " was expected"
  | belowMinimum value limit => shown value ++ " is less than the minimum of " ++ shown limit
  | notAbove value limit =>
    shown value ++ " is less than or equal to the minimum of " ++ shown limit
  | aboveMaximum value limit => shown value ++ " is greater than the maximum of " ++ shown limit
  | notBelow value limit =>
    shown value ++ " is greater than or equal to the maximum of " ++ shown limit
  | notMultiple value divisor => shown value ++ " is not a multiple of " ++ shown divisor
  | tooSmall sized value nonEmpty => shown value ++ " " ++ tooSmallText nonEmpty sized
  | tooLarge sized value toBeEmpty => shown value ++ " " ++ tooLargeText toBeEmpty sized
  | repeatedItems value => shown value ++ " has non-unique elements"
  | unmatched value pattern => shown value ++ " does not match " ++ shown pattern
  | missing property => shown property ++ " is a required property"
  | unexpectedProperties names =>
    "Additional properties are not allowed (" ++ list names ++ " " ++ were names ++ " unexpected)"
  | unmatchedProperties names patterns =>
    list names ++ (if names.length = 1 then " does" else " do")
      ++ " not match any of the regexes: " ++ list patterns
  | unexpectedItems items =>
    "Additional items are not allowed (" ++ list items ++ " " ++ were items ++ " unexpected)"
  | nothingContained value => "None of " ++ shown value ++ " are valid under the given schema"
  | noAlternative value => shown value ++ " is not valid under any of the given schemas"
  | severalAlternatives value schemas =>
    shown value ++ " is valid under each of " ++ list schemas
  | excluded value schema => shown value ++ " should not be valid under " ++ shown schema
  | missingDependency needed property =>
    shown needed ++ " is a dependency of " ++ shown property
  | disallowed value type => shown type ++ " is disallowed for " ++ shown value
  | tooManyMatches most =>
    "Too many items match the given schema (expected at most " ++ most.shown table ++ ")"
  | tooFewMatches least count =>
    "Too few items match the given schema (expected at least " ++ least.shown table
      ++ s!" but only {count} matched)"
  | noMatches value => shown value ++ " does not contain items matching the given schema"
  | itemsBehind prefixLength rest =>
    let items := if prefixLength = 1 then "item" else "items"
    s!"Expected at most {prefixLength} {items} but found {rest.length} extra: "
      ++ (match rest with
        | [item] => shown item
        | rest => shown (.list rest))
  | unevaluatedItems items =>
    "Unevaluated items are not allowed (" ++ list items ++ " " ++ were items ++ " unexpected)"
  | unevaluatedProperties names =>
    "Unevaluated properties are not allowed (" ++ list names ++ " " ++ were names ++ " unexpected)"
  | invalidProperties names =>
    "Unevaluated properties are not valid under the given schema (" ++ list names ++ " "
      ++ were names ++ " unexpected)"

end Problem

/-- A problem and the path from the whole value to the part it is about. -/
structure Violation where
  path : List PathPart
  problem : Problem
  deriving Repr, Inhabited

namespace Violation

/-- A problem of the value as a whole. -/
def here (problem : Problem) : Violation := ⟨[], problem⟩

/-- A violation of a part, seen from the value around it. -/
def within (part : PathPart) (violation : Violation) : Violation :=
  { violation with path := part :: violation.path }

/-- The order of reports: by the texts of the paths. -/
def precedes (a b : Violation) : Bool :=
  !(b.path.map PathPart.text).lex (a.path.map PathPart.text)

/-- One line about a violation. -/
def text (table : ClassTable) (violation : Violation) : String :=
  let path :=
    if violation.path.isEmpty then "root"
    else " -> ".intercalate (violation.path.map PathPart.text)
  s!"At '{path}': " ++ violation.problem.message table

end Violation

/-! ### The course of a check -/

/-- The violations that a check finds, and the fault at which it ends. -/
structure Checked where
  found : List Violation
  fault : Option Fault
  deriving Repr, Inhabited

namespace Checked

/-- Nothing is wrong. -/
def clean : Checked := ⟨[], none⟩

/-- A problem of the value as a whole. -/
def one (problem : Problem) : Checked := ⟨[.here problem], none⟩

/-- A problem if a condition holds. -/
def oneIf (condition : Bool) (problem : Problem) : Checked :=
  if condition then one problem else clean

def failed (fault : Fault) : Checked := ⟨[], some fault⟩

/-- A check behind something that can fail. -/
def after {α : Type} (result : Except Fault α) (next : α → Checked) : Checked :=
  match result with
  | .ok a => next a
  | .error fault => failed fault

/-- One check behind the other. -/
def andThen (check : Checked) (next : Unit → Checked) : Checked :=
  match check.fault with
  | some _ => check
  | none =>
    let more := next ()
    ⟨check.found ++ more.found, more.fault⟩

/-- A check for each item of a list, one behind the other. -/
def each {α : Type} (check : α → Checked) : List α → Checked
  | [] => clean
  | a :: rest => (check a).andThen fun _ => each check rest

/-- The violations seen from the value around the one that was checked. -/
def within (part : PathPart) (check : Checked) : Checked :=
  { check with found := check.found.map (·.within part) }

/-- All violations, unless the check ends at a fault. -/
def all (check : Checked) : Except Fault (List Violation) :=
  match check.fault with
  | some fault => .error fault
  | none => .ok check.found

/-- Whether there is no violation. A fault behind the first one is not met. -/
def isClean (check : Checked) : Except Fault Bool :=
  if check.found.isEmpty then check.all.map fun _ => true else .ok false

end Checked

end ModelSchema
