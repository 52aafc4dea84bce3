import ModelSchema.Proofs.Calls
import ModelSchema.Proofs.Class.Creation

/-!
The walk ends.

Here the walk is told call by call. An annotation is visited layer by layer, and also when it was visited
before; a class is gone into once. Only what was visited is kept, and nothing says how deep the calls go.
They end all the same: entering a class leaves fewer to enter, and in between annotations get smaller or
lead to what was created earlier.

* `WalkTask`, `WalkCall`: what a call is for, and on behalf of which root it is made.
* `Walker.perform`: what a call does, and which calls it makes.
* `Walker.ends`: the calls come to an end.
* `Walker.nodup_members`: the members of a class are visited once.
* `Walker.followRoots_of_runs`: they do what is done by the steps of the walk.
* `Walker.run_ends`: so every run of a walk ends, with a result or a failure.
-/

namespace ModelSchema

/-- What a call is for: an annotation, a class that is named in one or in a closed list, a subtype that
was found, or the members of a class. -/
inductive WalkTask where
  | visit (t : Ty)
  | object (c : ClassRef)
  | subType (c : ClassRef)
  | members (c : ClassRef)

/-- A call of the walk, made on behalf of a root. -/
structure WalkCall where
  root : Ty
  task : WalkTask

namespace WalkCall

/-- The class whose members a call is for. -/
def members? : WalkCall → Option ClassRef
  | ⟨_, .members c⟩ => some c
  | _ => none

end WalkCall

namespace Walker

/-- The calls that are made when an annotation is visited: for the class that it is, and for the
annotations inside of it. -/
def visitTasks (table : ClassTable) (t : Ty) : Except Failure (List WalkTask) :=
  match table.surface t with
  | .unsupported reason => .error reason
  | .object c _ => .ok (.object c :: (table.followed t).map .visit)
  | _ => .ok ((table.followed t).map .visit)

/-- The calls that are made when the members of a class are visited: for its properties, then for its
closed list. -/
def memberTasks (walker : Walker) (c : ClassRef) (props : List Property) : List WalkTask :=
  props.map (fun p => .visit p.annotation)
    ++ (walker.catalog.explicitSubTypes c).map fun (d, _) => .object d

/-- What a call does, and which calls it makes. -/
def perform (walker : Walker) (state : WalkState) : WalkTask → Except Failure (WalkState × List WalkTask)
  | .visit t => (visitTasks walker.catalog.table t).map fun tasks => (state, tasks)
  | .object c =>
    if state.hasVisited c then .ok (state, [])
    else if walker.catalog.isOpen c then
      match walker.search c with
      | .error reason => .error reason
      | .ok subTypes =>
        .ok (state.recordSearch c subTypes,
          .members c :: (walker.catalog.table.sortedByQualifiedName subTypes).map .subType)
    else .ok (state.record c [], [.members c])
  | .subType c =>
    if state.hasVisited c then .ok (state, []) else .ok (state.record c [], [.members c])
  | .members c =>
    match walker.catalog.table.properties c with
    | .error reason => .error reason
    | .ok props => .ok (state, walker.memberTasks c props)

/-- A call and the calls it makes are on behalf of one root, for which a failure is reported. -/
def next (walker : Walker) (state : WalkState) (call : WalkCall) :
    Except Failure (WalkState × List WalkCall) :=
  match walker.perform state call.task with
  | .error reason => .error (rootFailure (call.root.qualifiedName walker.catalog.table) reason)
  | .ok (after, inner) => .ok (after, inner.map (WalkCall.mk call.root))

/-- The calls that a walk begins with. -/
def rootCalls (roots : List Ty) : List WalkCall := roots.map fun root => ⟨root, .visit root⟩

/-- Whether the closed lists and what the locator finds are classes of the table. -/
structure IsOver (walker : Walker) : Prop where
  listed : ∀ c, ∀ entry ∈ walker.catalog.explicitSubTypes c,
    entry.1 ∈ walker.catalog.table.allClasses
  found : ∀ c found, walker.locator walker.catalog.table c walker.scope = .ok found →
    ∀ d ∈ found, d ∈ walker.catalog.table.allClasses

/-- Whether the class that a task is about, if it can be entered by it, is one of the table. -/
def IsKnown (walker : Walker) : WalkTask → Prop
  | .object c | .subType c => c ∈ walker.catalog.table.allClasses
  | _ => True

/-- What a call does, told for the calls that do not fail. -/
inductive Performs (walker : Walker) (state : WalkState) :
    WalkTask → WalkState → List WalkTask → Prop where
  | visit {t : Ty} {tasks : List WalkTask} : visitTasks walker.catalog.table t = .ok tasks →
      Performs walker state (.visit t) state tasks
  | again {task : WalkTask} {c : ClassRef} : task = .object c ∨ task = .subType c →
      state.hasVisited c = true → Performs walker state task state []
  | search {c : ClassRef} {subTypes : List ClassRef} : state.hasVisited c = false →
      walker.catalog.isOpen c = true → walker.search c = .ok subTypes →
      Performs walker state (.object c) (state.recordSearch c subTypes)
        (.members c :: (walker.catalog.table.sortedByQualifiedName subTypes).map .subType)
  | plain {task : WalkTask} {c : ClassRef} :
      (task = .object c ∧ walker.catalog.isOpen c = false) ∨ task = .subType c →
      state.hasVisited c = false → Performs walker state task (state.record c []) [.members c]
  | members {c : ClassRef} {props : List Property} : walker.catalog.table.properties c = .ok props →
      Performs walker state (.members c) state (walker.memberTasks c props)

section

variable {walker : Walker} {state after final : WalkState} {task : WalkTask}
  {inner tasks : List WalkTask} {call : WalkCall}

theorem performs_of_perform (made : walker.perform state task = .ok (after, inner)) :
    walker.Performs state task after inner := by
  cases task with
  | visit t =>
    rw [perform] at made
    cases visited : visitTasks walker.catalog.table t with
    | error reason =>
      rw [visited] at made
      cases made
    | ok tasks =>
      rw [visited] at made
      cases made
      exact .visit visited
  | object c =>
    rw [perform] at made
    split at made
    next visited =>
      cases made
      exact .again (.inl rfl) visited
    next fresh =>
      split at made
      next isOpen =>
        split at made
        · cases made
        next found =>
          cases made
          exact .search (Bool.eq_false_iff.mpr fresh) isOpen found
      next closed =>
        cases made
        exact .plain (.inl ⟨rfl, Bool.eq_false_iff.mpr closed⟩) (Bool.eq_false_iff.mpr fresh)
  | subType c =>
    rw [perform] at made
    split at made
    next visited =>
      cases made
      exact .again (.inr rfl) visited
    next fresh =>
      cases made
      exact .plain (.inr rfl) (Bool.eq_false_iff.mpr fresh)
  | members c =>
    rw [perform] at made
    split at made
    · cases made
    next found =>
      cases made
      exact .members found

/-- A call that does not fail makes its calls on behalf of its root. -/
theorem exists_of_next {calls : List WalkCall} (made : walker.next state call = .ok (after, calls)) :
    ∃ inner, walker.Performs state call.task after inner
      ∧ calls = inner.map (WalkCall.mk call.root) := by
  rw [next] at made
  split at made
  · cases made
  next performed =>
    cases made
    exact ⟨_, performs_of_perform performed, rfl⟩

/-- A failure is reported for the root. -/
theorem exists_of_next_error {failure : Failure} (failed : walker.next state call = .error failure) :
    ∃ reason, walker.perform state call.task = .error reason
      ∧ failure = rootFailure (call.root.qualifiedName walker.catalog.table) reason := by
  rw [next] at failed
  split at failed
  next performed =>
    cases failed
    exact ⟨_, performed, rfl⟩
  · cases failed

/-! ### Walks end -/

/-- The calls that an annotation makes are for a model, and for what comes next in the annotation. -/
theorem mem_visitTasks {t : Ty} {made : WalkTask}
    (visited : visitTasks walker.catalog.table t = .ok tasks) (member : made ∈ tasks) :
    (∃ c, made = .object c ∧ c ∈ walker.catalog.table.allClasses)
      ∨ ∃ u ∈ walker.catalog.table.followed t, made = .visit u := by
  have next : made ∈ (walker.catalog.table.followed t).map .visit →
      ∃ u ∈ walker.catalog.table.followed t, made = .visit u := by
    intro member
    obtain ⟨u, inside, rfl⟩ := List.mem_map.mp member
    exact ⟨u, inside, rfl⟩
  unfold visitTasks at visited
  split at visited
  · cases visited
  next c arguments isObject =>
    cases visited
    rcases List.mem_cons.mp member with rfl | later
    · have classified : (walker.catalog.table.surface t).Classified walker.catalog.table :=
        ClassTable.surface_classified t
      rw [isObject] at classified
      exact .inl ⟨c, rfl, ClassTable.mem_allClasses_of_mem_ancestors
        (ClassTable.isSubclass_iff.mp classified.1)⟩
    · exact .inr (next later)
  · cases visited
    exact .inr (next member)

/-- Which calls can make which others while no class is entered. -/
def Below (table : ClassTable) : WalkTask → WalkTask → Prop
  | .visit u, .visit t => u ∈ table.followed t
  | .object _, .visit _ | .object _, .members _ | .visit _, .members _ => True
  | _, _ => False

theorem wellFounded_below {table : ClassTable} (inOrder : table.IsCreatedInOrder) :
    WellFounded (Below table) := by
  have object : ∀ c, Acc (Below table) (.object c) := fun c => ⟨_, fun task below => by
    cases task <;> exact below.elim⟩
  have visit : ∀ t, Acc (Below table) (.visit t) := by
    intro t
    induction t using (ClassTable.wellFounded_followed inOrder).induction with
    | _ t ih =>
    refine ⟨_, fun task below => ?_⟩
    cases task with
    | visit u => exact ih u below
    | object c => exact object c
    | subType c => exact below.elim
    | members c => exact below.elim
  refine ⟨fun task => ?_⟩
  cases task with
  | visit t => exact visit t
  | object c => exact object c
  | subType c => exact ⟨_, fun task below => by cases task <;> exact below.elim⟩
  | members c =>
    refine ⟨_, fun task below => ?_⟩
    cases task with
    | visit u => exact visit u
    | object c => exact object c
    | subType c => exact below.elim
    | members c => exact below.elim

/-- What is found for a class are classes of the table. -/
theorem IsOver.mem_of_search (isOver : walker.IsOver) {c d : ClassRef} {subTypes : List ClassRef}
    (found : walker.search c = .ok subTypes) (member : d ∈ subTypes) :
    d ∈ walker.catalog.table.allClasses := by
  unfold search at found
  split at found
  next located =>
    cases found
    exact isOver.found c _ located d (List.mem_eraseDups.mp member)
  · cases found
  · cases found

/-- A call makes calls for classes of the table, and enters a class or makes only calls below it. -/
theorem Performs.progress (isOver : walker.IsOver) (performs : walker.Performs state task after inner)
    (isKnown : walker.IsKnown task) :
    (∀ made ∈ inner, walker.IsKnown made)
      ∧ ((after.unvisited walker.catalog.table).length < (state.unvisited walker.catalog.table).length
        ∨ (after = state ∧ ∀ made ∈ inner, Below walker.catalog.table made task)) := by
  cases performs with
  | visit visited =>
    refine ⟨fun made member => ?_, .inr ⟨rfl, fun made member => ?_⟩⟩
    · rcases mem_visitTasks visited member with ⟨c, rfl, known⟩ | ⟨u, -, rfl⟩
      · exact known
      · trivial
    · rcases mem_visitTasks visited member with ⟨c, rfl, -⟩ | ⟨u, next, rfl⟩
      · trivial
      · exact next
  | again => exact ⟨fun _ member => absurd member List.not_mem_nil,
      .inr ⟨rfl, fun _ member => absurd member List.not_mem_nil⟩⟩
  | @search c subTypes fresh isOpen found =>
    refine ⟨fun made member => ?_, .inl (WalkState.unvisited_lt isKnown fresh rfl)⟩
    rcases List.mem_cons.mp member with rfl | later
    · trivial
    · obtain ⟨d, isFound, rfl⟩ := List.mem_map.mp later
      exact isOver.mem_of_search found (List.mem_mergeSort.mp isFound)
  | @plain _ c target fresh =>
    have known : c ∈ walker.catalog.table.allClasses := by
      rcases target with ⟨rfl, -⟩ | rfl <;> exact isKnown
    refine ⟨fun made member => ?_, .inl (WalkState.unvisited_lt known fresh rfl)⟩
    cases List.mem_singleton.mp member
    trivial
  | @members c props found =>
    refine ⟨fun made member => ?_, .inr ⟨rfl, fun made member => ?_⟩⟩
    · rcases List.mem_append.mp member with ofProperty | ofList
      · obtain ⟨p, -, rfl⟩ := List.mem_map.mp ofProperty
        trivial
      · obtain ⟨entry, listed, rfl⟩ := List.mem_map.mp ofList
        exact isOver.listed c entry listed
    · rcases List.mem_append.mp member with ofProperty | ofList
      · obtain ⟨p, -, rfl⟩ := List.mem_map.mp ofProperty
        trivial
      · obtain ⟨entry, -, rfl⟩ := List.mem_map.mp ofList
        trivial

/-- However classes refer to each other, calls for classes of the table come to an end. -/
theorem ends (inOrder : walker.catalog.table.IsCreatedInOrder) (isOver : walker.IsOver)
    {calls : List WalkCall} (known : ∀ call ∈ calls, walker.IsKnown call.task) :
    Ends walker.next state calls := by
  have wellFounded : WellFounded fun made call : WalkCall =>
      Below walker.catalog.table made.task call.task :=
    InvImage.wf WalkCall.task (wellFounded_below inOrder)
  refine ends_of_wellFounded (fun state => (state.unvisited walker.catalog.table).length)
    wellFounded (fun state call after calls isKnown made => ?_) known
  obtain ⟨inner, performs, rfl⟩ := exists_of_next made
  obtain ⟨knownInner, less⟩ := performs.progress isOver isKnown
  refine ⟨fun made member => ?_, less.imp_right fun ⟨same, below⟩ => ⟨by rw [same], ?_⟩⟩
  · obtain ⟨task, inside, rfl⟩ := List.mem_map.mp member
    exact knownInner task inside
  · intro made member
    obtain ⟨task, inside, rfl⟩ := List.mem_map.mp member
    exact below task inside

/-! ### Members are visited once -/

/-- A call goes into the members of a class only when it enters the class, and forgets none. -/
theorem Performs.entered (performs : walker.Performs state task after inner) :
    (after = state ∧ ∀ c, .members c ∉ inner)
      ∨ ∃ c subTypes more, state.hasVisited c = false
        ∧ after.visited = state.visited ++ [(c, subTypes)]
        ∧ inner = .members c :: more ∧ ∀ d, .members d ∉ more := by
  cases performs with
  | visit visited =>
    refine .inl ⟨rfl, fun c member => ?_⟩
    rcases mem_visitTasks visited member with ⟨_, same, -⟩ | ⟨_, -, same⟩ <;> cases same
  | again => exact .inl ⟨rfl, fun _ => List.not_mem_nil⟩
  | @search c subTypes fresh =>
    refine .inr ⟨c, subTypes, _, fresh, rfl, rfl, fun d member => ?_⟩
    obtain ⟨_, -, same⟩ := List.mem_map.mp member
    cases same
  | @plain _ c _ fresh => exact .inr ⟨c, [], [], fresh, rfl, rfl, fun _ => List.not_mem_nil⟩
  | members =>
    refine .inl ⟨rfl, fun c member => ?_⟩
    rcases List.mem_append.mp member with ofProperty | ofList
    · obtain ⟨_, -, same⟩ := List.mem_map.mp ofProperty
      cases same
    · obtain ⟨_, -, same⟩ := List.mem_map.mp ofList
      cases same

theorem members?_eq_nil {root : Ty} (none : ∀ c, .members c ∉ tasks) :
    (tasks.map (WalkCall.mk root)).filterMap WalkCall.members? = [] := by
  rw [List.filterMap_map, List.filterMap_eq_nil_iff]
  intro task member
  cases task with
  | members c => exact absurd member (none c)
  | _ => rfl

/-- The members of a class are visited once, when the class is entered. -/
theorem nodup_members {calls made : List WalkCall} {outcome : Option Failure}
    (run : Runs walker.next state calls made final outcome)
    (none : calls.filterMap WalkCall.members? = []) : (made.filterMap WalkCall.members?).Nodup := by
  refine (run.nodup WalkCall.members? (fun state c => state.hasVisited c = true) ?_ ?_ ?_ ?_).1
  · intro state call after calls made c visited
    obtain ⟨inner, performs, -⟩ := exists_of_next made
    rcases performs.entered with ⟨rfl, -⟩ | ⟨d, subTypes, -, -, entered, -⟩
    · exact visited
    · simp only [WalkState.hasVisited, entered, List.any_append, Bool.or_eq_true] at visited ⊢
      exact .inl visited
  · intro state call after calls made
    obtain ⟨inner, performs, rfl⟩ := exists_of_next made
    rcases performs.entered with ⟨-, none⟩ | ⟨c, subTypes, more, fresh, entered, rfl, none⟩
    · rw [members?_eq_nil none]
      exact ⟨List.nodup_nil, fun _ member => absurd member List.not_mem_nil⟩
    · have only : ((WalkTask.members c :: more).map (WalkCall.mk call.root)).filterMap
          WalkCall.members? = [c] := congrArg (c :: ·) (members?_eq_nil none)
      rw [only]
      refine ⟨List.nodup_singleton c, fun d member => ?_⟩
      cases List.mem_singleton.mp member
      exact ⟨Bool.eq_false_iff.mp fresh, by simp [WalkState.hasVisited, entered]⟩
  · rw [none]
    exact List.nodup_nil
  · rw [none]
    exact fun _ member => absurd member List.not_mem_nil

/-! ### The calls do what the steps do -/

/-- The steps that a task stands for. -/
def stepsFor (walker : Walker) : WalkTask → List WalkStep
  | .visit t => (walker.catalog.table.form t).walkSteps
  | .object c => [.enter c]
  | .subType c => [.cover c]
  | .members c => walker.memberSteps c

theorem walkStepsOf_eq_flatMap {forms : List Form} : walkStepsOf forms = forms.flatMap Form.walkSteps := by
  induction forms with
  | nil => rfl
  | cons form rest ih => rw [walkStepsOf, ih, List.flatMap_cons]

theorem walkSteps_variableShape {table : ClassTable} {f : Ty → Form} {i : Nat} :
    (table.variableShape f i).walkSteps
      = (table.variableTypes i).flatMap fun t => (f t).walkSteps := by
  unfold ClassTable.variableShape ClassTable.variableTypes
  cases table.typeVariables[i]? with
  | none => rfl
  | some v =>
    dsimp only
    split
    · cases v.bound <;> simp [Shape.walkSteps]
    · simp [Shape.walkSteps, walkStepsOf_eq_flatMap, List.flatMap_map]

/-- An annotation asks for what the calls ask for that visiting it makes. -/
theorem walkSteps_form (inOrder : walker.catalog.table.IsCreatedInOrder) (t : Ty) :
    (walker.catalog.table.form t).walkSteps
      = match visitTasks walker.catalog.table t with
        | .error reason => [.fail reason]
        | .ok tasks => tasks.flatMap walker.stepsFor := by
  rw [← Form.walkSteps_shape]
  cases t.layer with
  | annotated u notes =>
    rw [ClassTable.shape_form_annotated inOrder, Form.walkSteps_shape]
    exact (List.append_nil _).symm
  | «variable» i =>
    have tasks : visitTasks walker.catalog.table (.typeVar i)
        = .ok ((walker.catalog.table.variableTypes i).map .visit) := rfl
    rw [ClassTable.shape_form_typeVar inOrder, walkSteps_variableShape, tasks]
    simp [List.flatMap_map, stepsFor]
  | own notNoted notVariable =>
    rw [ClassTable.shape_form inOrder notNoted notVariable]
    unfold visitTasks
    rw [ClassTable.followed_eq notNoted notVariable]
    cases walker.catalog.table.surface t <;>
      simp [Shape.refill, Shape.walkSteps, Shape.contained, stepsFor, walkStepsOf_eq_flatMap,
        List.flatMap_map]

theorem isDone_eq_hasVisited {c : ClassRef} (known : c ∈ walker.catalog.table.allClasses) :
    walker.isDone state c = state.hasVisited c := by
  simp [isDone, known]

/-- A call does the first of the steps that are to be done. -/
theorem follow_of_performs (inOrder : walker.catalog.table.IsCreatedInOrder)
    (isKnown : walker.IsKnown task) (performs : walker.Performs state task after inner)
    (rest : List WalkStep) :
    walker.follow state (walker.stepsFor task ++ rest)
      = walker.follow after (inner.flatMap walker.stepsFor ++ rest) := by
  cases performs with
  | @visit t _ visited =>
    have steps := walkSteps_form inOrder t
    rw [visited] at steps
    exact congrArg (fun steps => walker.follow state (steps ++ rest)) steps
  | @again _ c target visited =>
    have isDone : ∀ step : WalkStep, step = .enter c ∨ step = .cover c →
        walker.follow state (step :: rest) = walker.follow state rest := by
      rintro step (rfl | rfl)
      all_goals rw [follow, dif_pos (isDone_iff.mpr (.inl (by simpa [WalkState.hasVisited] using visited)))]
    rcases target with rfl | rfl
    · exact isDone _ (.inl rfl)
    · exact isDone _ (.inr rfl)
  | @search c subTypes fresh isOpen found =>
    have pending : walker.isDone state c = false := (isDone_eq_hasVisited isKnown).trans fresh
    have steps : (WalkTask.members c
          :: (walker.catalog.table.sortedByQualifiedName subTypes).map .subType).flatMap walker.stepsFor
        = walker.memberSteps c ++ walker.coverSteps subTypes := by
      simp [stepsFor, coverSteps, List.map_eq_flatMap, List.flatMap_assoc]
    rw [stepsFor, List.singleton_append, follow, dif_neg (Bool.eq_false_iff.mp pending), if_pos isOpen,
      found, steps]
  | @plain _ c target fresh =>
    have steps : [WalkTask.members c].flatMap walker.stepsFor = walker.memberSteps c :=
      List.flatMap_singleton ..
    rw [steps]
    rcases target with ⟨rfl, closed⟩ | rfl
    · have pending : walker.isDone state c = false := (isDone_eq_hasVisited isKnown).trans fresh
      rw [stepsFor, List.singleton_append, follow, dif_neg (Bool.eq_false_iff.mp pending),
        if_neg (Bool.eq_false_iff.mp closed)]
    · have pending : walker.isDone state c = false := (isDone_eq_hasVisited isKnown).trans fresh
      rw [stepsFor, List.singleton_append, follow, dif_neg (Bool.eq_false_iff.mp pending)]
  | @members c props found =>
    have steps : walker.memberSteps c = (walker.memberTasks c props).flatMap walker.stepsFor := by
      unfold memberSteps memberTasks
      rw [found]
      simp [stepsFor, List.map_eq_flatMap, List.flatMap_assoc]
    rw [stepsFor, steps]

/-- A call that fails ends the steps as well. -/
theorem follow_of_failed (inOrder : walker.catalog.table.IsCreatedInOrder)
    (isKnown : walker.IsKnown task) {reason : Failure}
    (failed : walker.perform state task = .error reason) (rest : List WalkStep) :
    walker.follow state (walker.stepsFor task ++ rest) = (state, some reason) := by
  cases task with
  | visit t =>
    have steps := walkSteps_form inOrder t
    rw [perform] at failed
    cases visited : visitTasks walker.catalog.table t with
    | ok tasks =>
      rw [visited] at failed
      cases failed
    | error cause =>
      rw [visited] at failed steps
      cases failed
      rw [stepsFor, steps, List.singleton_append, follow]
  | object c =>
    rw [perform] at failed
    split at failed
    · cases failed
    next fresh =>
      split at failed
      next isOpen =>
        split at failed
        next notFound =>
          cases failed
          rw [stepsFor, List.singleton_append, follow,
            dif_neg ((isDone_eq_hasVisited isKnown).symm ▸ fresh), if_pos isOpen, notFound]
        · cases failed
      · cases failed
  | subType c =>
    rw [perform] at failed
    split at failed <;> cases failed
  | members c =>
    rw [perform] at failed
    split at failed
    next missing =>
      cases failed
      have steps : walker.memberSteps c = [.fail reason] := by
        unfold memberSteps
        rw [missing]
      rw [stepsFor, steps, List.singleton_append, follow]
    · cases failed

/-- The pending calls of one root do all of the steps that they stand for, or fail where these fail. -/
theorem follow_of_runs (inOrder : walker.catalog.table.IsCreatedInOrder) (isOver : walker.IsOver)
    {root : Ty} {pending rest made : List WalkCall} {outcome : Option Failure}
    (run : Runs walker.next state pending made final outcome)
    (split : pending = tasks.map (WalkCall.mk root) ++ rest)
    (known : ∀ task ∈ tasks, walker.IsKnown task) :
    (∃ middle madeLater, walker.follow state (tasks.flatMap walker.stepsFor) = (middle, none)
        ∧ Runs walker.next middle rest madeLater final outcome)
      ∨ ∃ reason, walker.follow state (tasks.flatMap walker.stepsFor) = (final, some reason)
        ∧ outcome = some (rootFailure (root.qualifiedName walker.catalog.table) reason) := by
  induction run generalizing tasks with
  | done =>
    obtain ⟨noTasks, rfl⟩ := List.append_eq_nil_iff.mp split.symm
    cases List.map_eq_nil_iff.mp noTasks
    exact .inl ⟨_, _, follow.eq_1 .., .done⟩
  | @fails state call pending reason failed =>
    cases tasks with
    | nil =>
      have split : call :: pending = rest := split
      exact .inl ⟨state, [call], follow.eq_1 .., split ▸ .fails failed⟩
    | cons task more =>
      obtain ⟨rfl, -⟩ := List.cons.inj split
      obtain ⟨cause, failed, reported⟩ := exists_of_next_error failed
      refine .inr ⟨cause, ?_, congrArg some reported⟩
      rw [List.flatMap_cons, follow_of_failed inOrder (known task List.mem_cons_self) failed]
  | @makes state after final call inner pending made outcome isCall run ih =>
    cases tasks with
    | nil =>
      have split : call :: pending = rest := split
      exact .inl ⟨state, call :: made, follow.eq_1 .., split ▸ .makes isCall run⟩
    | cons task more =>
      obtain ⟨rfl, rfl⟩ := List.cons.inj split
      obtain ⟨tasks, performs, rfl⟩ := exists_of_next isCall
      have knownTask := known task List.mem_cons_self
      have knownInner := (performs.progress isOver knownTask).1
      rw [List.flatMap_cons, follow_of_performs inOrder knownTask performs, ← List.flatMap_append]
      refine ih ?_ fun task member => ?_
      · rw [List.map_append, List.append_assoc]
        rfl
      · exact (List.mem_append.mp member).elim (knownInner task)
          fun later => known task (List.mem_cons_of_mem _ later)

/-- The calls for roots do what walking from the roots does. -/
theorem followRoots_of_runs (inOrder : walker.catalog.table.IsCreatedInOrder) (isOver : walker.IsOver)
    {roots : List Ty} {made : List WalkCall} {outcome : Option Failure}
    (run : Runs walker.next state (rootCalls roots) made final outcome) :
    walker.followRoots state roots = (final, outcome) := by
  induction roots generalizing state made with
  | nil =>
    cases run
    rfl
  | cons root rest ih =>
    have begins : ∀ task ∈ [WalkTask.visit root], walker.IsKnown task := by simp [IsKnown]
    have steps : [WalkTask.visit root].flatMap walker.stepsFor
        = (walker.catalog.table.form root).walkSteps := List.flatMap_singleton ..
    rw [followRoots, ← steps]
    rcases follow_of_runs inOrder isOver run rfl begins with
      ⟨middle, madeLater, followed, later⟩ | ⟨reason, followed, failed⟩
    · rw [followed]
      exact ih later
    · rw [followed, failed]

/-! ### Main result -/

/-- However fields, closed lists and subclasses lead from class to class, the calls of a walk come to
an end, in one way only, and they visit the members of no class twice. What they end with is what the
walk gives: its notices, and the registry or why it failed. -/
theorem run_ends (inOrder : walker.catalog.table.IsCreatedInOrder) (isOver : walker.IsOver)
    (roots : List Ty) :
    ∃ made final outcome, Runs walker.next .start (rootCalls roots) made final outcome
      ∧ (∀ madeElse finalElse outcomeElse,
        Runs walker.next .start (rootCalls roots) madeElse finalElse outcomeElse →
          madeElse = made ∧ finalElse = final ∧ outcomeElse = outcome)
      ∧ (made.filterMap WalkCall.members?).Nodup
      ∧ walker.run roots = (walker.notices final, match outcome with
        | none => .ok final.registry
        | some failure => .error failure) := by
  have known : ∀ call ∈ rootCalls roots, walker.IsKnown call.task := by
    intro call member
    obtain ⟨root, -, rfl⟩ := List.mem_map.mp member
    trivial
  have none : (rootCalls roots).filterMap WalkCall.members? = [] := by
    rw [rootCalls, List.filterMap_map, List.filterMap_eq_nil_iff]
    exact fun _ _ => rfl
  obtain ⟨made, final, outcome, run⟩ := ends inOrder isOver known
  refine ⟨made, final, outcome, run, fun _ _ _ other => other.unique run, nodup_members run none, ?_⟩
  rw [Walker.run, followRoots_of_runs inOrder isOver run]
  cases outcome <;> rfl

end

/-- The descendants of a class are classes of the table. -/
theorem isOver_subclassing {catalog : Catalog} (wellFormed : catalog.WellFormed) (scope : Scope) :
    (subclassing catalog scope).IsOver := by
  constructor
  · intro c entry member
    obtain ⟨listed, inside, rfl⟩ := List.mem_map.mp member
    exact ClassTable.mem_allClasses_of_mem_ancestors (wellFormed.mem_ancestors_of_listed inside)
  · intro c found located d member
    cases located
    have below := (List.mem_filter.mp member).1
    exact ClassTable.mem_allClasses_of_mem_ancestors
      (ClassTable.below_of_mem_descendants wellFormed.layered below).2

end Walker

/-! ### An example -/

section

open Example

/-- First there were persons, then their type variable, then volumes. -/
theorem isCreatedInOrder_library : library.table.IsCreatedInOrder := by
  -- The order of creation; what mentions nothing can stand anywhere.
  refine ⟨[.model person, .variable 0, .model volume].idxOf, ?_⟩
  intro o t member other mentions
  have isOpening : o ∈ [.model person, .model novelist, .model publication, .model volume, .variable 0] :=
    ClassTable.mem_openings_of_opened member
  simp only [List.mem_cons, List.not_mem_nil, or_false] at isOpening
  rcases isOpening with rfl | rfl | rfl | rfl | rfl
  · cases member
  · cases member
  · cases member
  · cases List.mem_singleton.mp member
    have mentions : (Opening.variable 0).ty.Mentions other := mentions
    cases mentions.eq
    decide
  · cases List.mem_singleton.mp member
    have mentions : (Opening.model person).ty.Mentions other := mentions
    cases mentions.eq
    decide

/-- A volume leads to persons, and the walk from it ends. -/
theorem run_ends_volume :
    ∃ made final outcome,
      Runs (Walker.subclassing library .everything).next .start (Walker.rootCalls [.cls volume]) made
        final outcome
      ∧ (made.filterMap WalkCall.members?).Nodup := by
  have wellFormed : library.WellFormed := by decide
  have isOver := Walker.isOver_subclassing wellFormed .everything
  have inOrder : (Walker.subclassing library .everything).catalog.table.IsCreatedInOrder :=
    isCreatedInOrder_library
  obtain ⟨made, final, outcome, run, -, once, -⟩ := Walker.run_ends inOrder isOver [.cls volume]
  exact ⟨made, final, outcome, run, once⟩

end

end ModelSchema
