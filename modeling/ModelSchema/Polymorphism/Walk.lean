import ModelSchema.Notice
import ModelSchema.Polymorphism.Locator
import ModelSchema.Polymorphism.Registry
import ModelSchema.Property
import ModelSchema.Shape

/-!
The walk: which open polymorphic classes are reached from some roots, with their subtypes.

It follows every property, element, key, value, union member and generic argument. Every class is
entered once, so that the walk ends on classes that refer to each other.

* `Form.walkSteps`: the steps an annotation asks for.
* `Walker.follow`: does steps until none is left or one fails.
* `Walker.run`: walks from roots; a failure is reported for the root at which it arose.
* `WalkState.registry`: the classes for which subtypes were found.
-/

namespace ModelSchema

/-- Something the walk has to do. A class to `cover` is a subtype that was found together with
those of a class above it, so that no further search is made for it. -/
inductive WalkStep where
  | enter (c : ClassRef)
  | cover (c : ClassRef)
  | fail (reason : Failure)
  deriving Inhabited

mutual

/-- The steps that an annotation asks for, in order. -/
def Form.walkSteps : Form → List WalkStep
  | .of _ _ shape => shape.walkSteps

def Shape.walkSteps : Shape → List WalkStep
  | .any | .null | .leaf _ | .enumeration _ _ => []
  | .object c arguments => .enter c :: walkStepsOf arguments
  | .array element _ => element.walkSteps
  | .fixedArray elements => walkStepsOf elements
  | .map key value => key.walkSteps ++ value.walkSteps
  | .union options _ => walkStepsOf options
  | .unsupported reason => [.fail reason]

def walkStepsOf : List Form → List WalkStep
  | [] => []
  | form :: rest => form.walkSteps ++ walkStepsOf rest

end

/-- What the walk has done: the classes it entered with their subtypes, in order, and the searches
it made with the number of classes found. -/
structure WalkState where
  visited : List (ClassRef × List ClassRef)
  searches : List (ClassRef × Nat)
  deriving Inhabited

namespace WalkState

def start : WalkState := ⟨[], []⟩

def hasVisited (state : WalkState) (c : ClassRef) : Bool := state.visited.any (·.1 = c)

/-- Enters a class with its subtypes. -/
def record (state : WalkState) (c : ClassRef) (subTypes : List ClassRef) : WalkState :=
  { state with visited := state.visited ++ [(c, subTypes)] }

/-- Enters a class for which a search was made. -/
def recordSearch (state : WalkState) (c : ClassRef) (subTypes : List ClassRef) : WalkState :=
  { visited := state.visited ++ [(c, subTypes)]
    searches := state.searches ++ [(c, subTypes.length)] }

/-- The classes with subtypes, in the order in which they were entered. -/
def registry (state : WalkState) : Registry :=
  state.visited.filterMap fun (c, subTypes) =>
    if subTypes.isEmpty then none else some ⟨c, subTypes⟩

/-- The classes that are still to be entered. -/
def unvisited (state : WalkState) (table : ClassTable) : List ClassRef :=
  table.allClasses.filter fun c => !state.hasVisited c

end WalkState

/-- What a walk depends on. -/
structure Walker where
  catalog : Catalog
  locator : Locator
  scope : Scope

/-! ### Termination -/

namespace WalkState

/-- Entering a class leaves fewer to enter. -/
theorem unvisited_lt {before after : WalkState} {table : ClassTable} {c : ClassRef}
    {subTypes : List ClassRef} (known : c ∈ table.allClasses) (fresh : before.hasVisited c = false)
    (entered : after.visited = before.visited ++ [(c, subTypes)]) :
    (after.unvisited table).length < (before.unvisited table).length := by
  refine length_filter_lt (fun x hx => ?_) (by simp [fresh]) ?_ known
  · simp [hasVisited, entered] at hx ⊢
    exact hx.1
  · simp [hasVisited, entered]

end WalkState

/-! ### Walking -/

namespace Walker

/-- The steps to the members of a class: its properties, then its closed list. -/
def memberSteps (walker : Walker) (c : ClassRef) : List WalkStep :=
  match walker.catalog.table.properties c with
  | .error reason => [.fail reason]
  | .ok props =>
    props.flatMap (fun p => (walker.catalog.table.form p.annotation).walkSteps)
      ++ (walker.catalog.explicitSubTypes c).map fun (d, _) => .enter d

/-- The distinct subtypes of a class. A failure that is no report yet becomes one. -/
def search (walker : Walker) (c : ClassRef) : Except Failure (List ClassRef) :=
  match walker.locator walker.catalog.table c walker.scope with
  | .ok found => .ok found.eraseDups
  | .error (.fault cause) =>
    .error (.subtypeLookup (walker.catalog.table.qualifiedName c) none
      [("scope", .str walker.scope.text)] (some (.fault cause)))
  | .error report => .error report

/-- Steps that cover the subtypes of a class, by qualified name. -/
def coverSteps (walker : Walker) (subTypes : List ClassRef) : List WalkStep :=
  (walker.catalog.table.sortedByQualifiedName subTypes).map .cover

/-- Whether there is nothing to do for a class. -/
def isDone (walker : Walker) (state : WalkState) (c : ClassRef) : Bool :=
  state.hasVisited c || !walker.catalog.table.allClasses.contains c

/-- Entering a class that is not done leaves fewer to enter. -/
theorem unvisited_lt_of_not_isDone (walker : Walker) {before after : WalkState} {c : ClassRef}
    {subTypes : List ClassRef} (pending : ¬ walker.isDone before c = true)
    (entered : after.visited = before.visited ++ [(c, subTypes)]) :
    (after.unvisited walker.catalog.table).length
      < (before.unvisited walker.catalog.table).length := by
  simp only [isDone, Bool.or_eq_true, Bool.not_eq_true', not_or, Bool.not_eq_false,
    Bool.not_eq_true] at pending
  exact WalkState.unvisited_lt (by simpa using pending.2) pending.1 entered

/-- Does steps until none is left, or one fails. -/
def follow (walker : Walker) (state : WalkState) : List WalkStep → WalkState × Option Failure
  | [] => (state, none)
  | .fail reason :: _ => (state, some reason)
  | .cover c :: rest =>
    if _h : walker.isDone state c then walker.follow state rest
    else walker.follow (state.record c []) (walker.memberSteps c ++ rest)
  | .enter c :: rest =>
    if _h : walker.isDone state c then walker.follow state rest
    else if walker.catalog.isOpen c then
      match walker.search c with
      | .error reason => (state, some reason)
      | .ok subTypes =>
        walker.follow (state.recordSearch c subTypes)
          (walker.memberSteps c ++ walker.coverSteps subTypes ++ rest)
    else walker.follow (state.record c []) (walker.memberSteps c ++ rest)
  termination_by steps => ((state.unvisited walker.catalog.table).length, steps.length)
  decreasing_by
    · exact Prod.Lex.right _ (by simp)
    · exact Prod.Lex.left _ _ (walker.unvisited_lt_of_not_isDone _h rfl)
    · exact Prod.Lex.right _ (by simp)
    · exact Prod.Lex.left _ _ (walker.unvisited_lt_of_not_isDone _h rfl)
    · exact Prod.Lex.left _ _ (walker.unvisited_lt_of_not_isDone _h rfl)

/-- The failure of a walk as it is reported for a root. -/
def rootFailure (name : String) (failure : Failure) : Failure :=
  let message := s!"Failed to extract polymorphic types from {name}"
  match failure with
  | .report .subtypeLookup _ detail context origin =>
    .subtypeLookup name (some s!"{message}: {detail}") context (some (origin.getD failure))
  | failure => .introspection name (some message) [] (some failure)

/-- Walks from each root in turn. -/
def followRoots (walker : Walker) (state : WalkState) : List Ty → WalkState × Option Failure
  | [] => (state, none)
  | root :: rest =>
    match walker.follow state (walker.catalog.table.form root).walkSteps with
    | (state, none) => walker.followRoots state rest
    | (state, some failure) =>
      (state, some (rootFailure (root.qualifiedName walker.catalog.table) failure))

/-- The notices of the searches that were made. -/
def notices (walker : Walker) (state : WalkState) : List Notice :=
  state.searches.map fun (c, count) =>
    .foundSubtypes count (walker.catalog.table.qualifiedName c) walker.scope.text

/-- Walks from roots: the notices of the walk, and what it found or why it failed. -/
def run (walker : Walker) (roots : List Ty) : List Notice × Except Failure Registry :=
  match walker.followRoots .start roots with
  | (state, none) => (walker.notices state, .ok state.registry)
  | (state, some failure) => (walker.notices state, .error failure)

end Walker

end ModelSchema
