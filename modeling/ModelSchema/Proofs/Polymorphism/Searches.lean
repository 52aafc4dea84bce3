import ModelSchema.Proofs.Class.Hierarchy
import ModelSchema.Proofs.Polymorphism.Visits
import ModelSchema.Proofs.Schema.Branches

/-!
The locator is asked for a class at most once.

A walk comes to one class in many ways: by properties, closed lists, type arguments and found subtypes,
also while the members of that class are being walked. Here it is told by what happens on its way, also
where it fails in the end.

* `WalkEvent`: the locator is asked for the subtypes of a class, or subtypes are recorded for one.
* `Walker.Course`: the course of a walk, event by event.
* `Walker.course_of_follow`, `Walker.Course.follow_eq`: walks take their course, and no other end.
* `Walker.Course.pairwise`: what happens later is about another class, but for the record of an answer.
* `lastRecord?`: what stands in a table where a record for a class replaces an earlier one.
* `Catalog.IsLine.isOpen_iff`: an open class has no closed list up to its discriminator.
* `run_asks_once`: every class is asked for once, and what the locator answers is there to stay.
-/

namespace ModelSchema

/-! ### Open classes -/

namespace Catalog

/-- Whether some classes are those ancestors of a class, itself first, that end with the nearest one for
which a discriminator is declared. -/
def IsLine (catalog : Catalog) (c : ClassRef) (line : List ClassRef) : Prop :=
  ∃ nearer declaring farther property,
    catalog.table.ancestors c = nearer ++ declaring :: farther
      ∧ recordedFor? catalog.markers.typeInfo declaring = some property
      ∧ (∀ k ∈ nearer, recordedFor? catalog.markers.typeInfo k = none)
      ∧ line = nearer ++ [declaring]

theorem upTo_append_cons {stop : ClassRef → Bool} {nearer farther : List ClassRef} {c : ClassRef}
    (passed : ∀ k ∈ nearer, stop k = false) (stops : stop c = true) :
    upTo stop (nearer ++ c :: farther) = nearer ++ [c] := by
  induction nearer with
  | nil => simp [upTo, stops]
  | cons k nearer ih =>
    obtain ⟨here, later⟩ := List.forall_mem_cons.mp passed
    simp [upTo, here, ih later]

/-- A class with a discriminator is open when there is no closed list on its line. -/
theorem IsLine.isOpen_iff {catalog : Catalog} {c : ClassRef} {line : List ClassRef}
    (isLine : catalog.IsLine c line) :
    catalog.isOpen c = true ↔ ∀ k ∈ line, catalog.declaredSubTypes k = [] := by
  obtain ⟨nearer, declaring, farther, property, split, declares, passed, rfl⟩ := isLine
  have found : catalog.typeInfo? c = some (property, declaring) := by
    rw [typeInfo?, split]
    exact List.findSome?_eq_some_iff.mpr
      ⟨nearer, declaring, farther, rfl, by simp [declares], fun k member => by simp [passed k member]⟩
  have line : upTo (· = declaring) (catalog.table.ancestors c) = nearer ++ [declaring] := by
    rw [split]
    refine upTo_append_cons (fun k member => decide_eq_false fun same => ?_) (by simp)
    rw [passed declaring (same ▸ member)] at declares
    cases declares
  simp only [Catalog.isOpen, found, line, List.all_eq_true, List.isEmpty_iff]

/-- An open class has a line without a closed list. -/
theorem exists_isLine_of_isOpen {catalog : Catalog} {c : ClassRef} (isOpen : catalog.isOpen c = true) :
    ∃ line, catalog.IsLine c line ∧ ∀ k ∈ line, catalog.declaredSubTypes k = [] := by
  cases found : catalog.typeInfo? c with
  | none => simp [Catalog.isOpen, found] at isOpen
  | some info =>
    obtain ⟨nearer, declaring, farther, split, declares, passed⟩ := List.findSome?_eq_some_iff.mp found
    obtain ⟨property, declares, -⟩ := Option.map_eq_some_iff.mp declares
    have isLine : catalog.IsLine c (nearer ++ [declaring]) :=
      ⟨nearer, declaring, farther, property, split, declares,
        fun k member => Option.map_eq_none_iff.mp (passed k member), rfl⟩
    exact ⟨_, isLine, isLine.isOpen_iff.mp isOpen⟩

/-- A class of the table is the first of its line. -/
theorem IsLine.mem {catalog : Catalog} {c : ClassRef} {line : List ClassRef}
    (isLine : catalog.IsLine c line) (layered : catalog.table.Layered)
    (known : c ∈ catalog.table.allClasses) : c ∈ line := by
  obtain ⟨nearer, declaring, farther, property, split, -, -, rfl⟩ := isLine
  rw [layered.ancestors_eq_cons known] at split
  cases nearer with
  | nil => exact List.mem_singleton.mpr (List.cons.inj split).1
  | cons k nearer => exact List.mem_cons.mpr (.inl (List.cons.inj split).1)

end Catalog

/-! ### Events -/

/-- Something that happens in a walk: the locator is asked for the subtypes of a class, or subtypes are
recorded for a class. -/
inductive WalkEvent where
  | asks (c : ClassRef) (answer : Except Failure (List ClassRef))
  | records (c : ClassRef) (subTypes : List ClassRef)

namespace WalkEvent

/-- The class that an event is about. -/
def subject : WalkEvent → ClassRef
  | .asks c _ | .records c _ => c

/-- The class that the locator is asked for. -/
def asked? : WalkEvent → Option ClassRef
  | .asks c _ => some c
  | .records _ _ => none

/-- What is recorded, with its class. -/
def record? : WalkEvent → Option (ClassRef × List ClassRef)
  | .asks _ _ => none
  | .records c subTypes => some (c, subTypes)

/-- What is noted of a search: its class, and how many classes were found. -/
def search? : WalkEvent → Option (ClassRef × Nat)
  | .asks c (.ok found) => some (c, found.eraseDups.length)
  | _ => none

end WalkEvent

/-- What stands in a table for a class after some events. A later record for a class replaces an earlier
one. -/
def lastRecord? (events : List WalkEvent) (c : ClassRef) : Option (List ClassRef) :=
  recordedFor? (events.filterMap WalkEvent.record?).reverse c

namespace Walker

variable {walker : Walker}

/-- The answer of the locator for a class. -/
def answer (walker : Walker) (c : ClassRef) : Except Failure (List ClassRef) :=
  walker.locator walker.catalog.table c walker.scope

/-- `walker.Course state steps events final outcome`: the steps are done from a state. These events
happen on the way, it ends in the last state, and the outcome is a failure if there is one. -/
inductive Course (walker : Walker) :
    WalkState → List WalkStep → List WalkEvent → WalkState → Option Failure → Prop where
  | done {state : WalkState} : Course walker state [] [] state none
  | fails {state : WalkState} {reason : Failure} {rest : List WalkStep} :
      Course walker state (.fail reason :: rest) [] state (some reason)
  | skip {state final : WalkState} {step : WalkStep} {rest : List WalkStep} {c : ClassRef}
      {events : List WalkEvent} {outcome : Option Failure} :
      step.target? = some c → walker.isDone state c = true →
      Course walker state rest events final outcome →
      Course walker state (step :: rest) events final outcome
  | refused {state : WalkState} {rest : List WalkStep} {c : ClassRef} {cause reason : Failure} :
      walker.isDone state c = false → walker.catalog.isOpen c = true →
      walker.answer c = .error cause → walker.search c = .error reason →
      Course walker state (.enter c :: rest) [.asks c (.error cause)] state (some reason)
  | search {state final : WalkState} {rest : List WalkStep} {c : ClassRef} {found : List ClassRef}
      {events : List WalkEvent} {outcome : Option Failure} :
      walker.isDone state c = false → walker.catalog.isOpen c = true →
      walker.answer c = .ok found →
      Course walker (state.recordSearch c found.eraseDups)
        (walker.memberSteps c ++ walker.coverSteps found.eraseDups ++ rest) events final outcome →
      Course walker state (.enter c :: rest)
        (.asks c (.ok found) :: .records c found.eraseDups :: events) final outcome
  | plain {state final : WalkState} {step : WalkStep} {rest : List WalkStep} {c : ClassRef}
      {events : List WalkEvent} {outcome : Option Failure} :
      step.target? = some c → walker.isDone state c = false →
      walker.catalog.isOpen c = false ∨ step = .cover c →
      Course walker (state.record c []) (walker.memberSteps c ++ rest) events final outcome →
      Course walker state (step :: rest) (.records c [] :: events) final outcome

theorem search_of_answer {c : ClassRef} {found : List ClassRef} (answered : walker.answer c = .ok found) :
    walker.search c = .ok found.eraseDups := by
  unfold answer at answered
  rw [Walker.search, answered]

theorem answer_of_search {c : ClassRef} {subTypes : List ClassRef}
    (found : walker.search c = .ok subTypes) :
    ∃ all, walker.answer c = .ok all ∧ subTypes = all.eraseDups := by
  unfold Walker.search at found
  split at found
  next all answered =>
    cases found
    exact ⟨all, answered, rfl⟩
  · cases found
  · cases found

theorem answer_of_search_error {c : ClassRef} {reason : Failure}
    (failed : walker.search c = .error reason) : ∃ cause, walker.answer c = .error cause := by
  cases answered : walker.answer c with
  | error cause => exact ⟨cause, rfl⟩
  | ok found => cases failed.symm.trans (search_of_answer answered)

section

variable {state final : WalkState} {steps more : List WalkStep} {events : List WalkEvent}
  {outcome : Option Failure}

/-- Every walk takes a course. -/
theorem course_of_follow (followed : walker.follow state steps = (final, outcome)) :
    ∃ events, walker.Course state steps events final outcome := by
  fun_induction walker.follow state steps with
  | case1 state => cases followed; exact ⟨_, .done⟩
  | case2 state reason rest => cases followed; exact ⟨_, .fails⟩
  | case3 state c rest isDone ih =>
    obtain ⟨events, course⟩ := ih followed
    exact ⟨_, .skip rfl isDone course⟩
  | case4 state c rest pending ih =>
    obtain ⟨events, course⟩ := ih followed
    exact ⟨_, .plain rfl (Bool.eq_false_iff.mpr pending) (.inr rfl) course⟩
  | case5 state c rest isDone ih =>
    obtain ⟨events, course⟩ := ih followed
    exact ⟨_, .skip rfl isDone course⟩
  | case6 state c rest pending isOpen reason failed =>
    cases followed
    obtain ⟨cause, answered⟩ := answer_of_search_error failed
    exact ⟨_, .refused (Bool.eq_false_iff.mpr pending) isOpen answered failed⟩
  | case7 state c rest pending isOpen subTypes found ih =>
    obtain ⟨all, answered, rfl⟩ := answer_of_search found
    obtain ⟨events, course⟩ := ih followed
    exact ⟨_, .search (Bool.eq_false_iff.mpr pending) isOpen answered course⟩
  | case8 state c rest pending closed ih =>
    obtain ⟨events, course⟩ := ih followed
    exact ⟨_, .plain rfl (Bool.eq_false_iff.mpr pending) (.inl (Bool.eq_false_iff.mpr closed)) course⟩

namespace Course

/-- A course leads to the end of the walk. -/
theorem follow_eq (course : walker.Course state steps events final outcome) :
    walker.follow state steps = (final, outcome) := by
  induction course with
  | done => rw [follow]
  | fails => rw [follow]
  | @skip _ _ step _ c _ _ target isDone _ ih =>
    cases step with
    | fail => cases target
    | enter d => cases target; rw [follow, dif_pos isDone, ih]
    | cover d => cases target; rw [follow, dif_pos isDone, ih]
  | refused pending isOpen _ failed =>
    rw [follow, dif_neg (Bool.eq_false_iff.mp pending), if_pos isOpen, failed]
  | search pending isOpen answered _ ih =>
    rw [follow, dif_neg (Bool.eq_false_iff.mp pending), if_pos isOpen, search_of_answer answered]
    exact ih
  | @plain _ _ step _ c _ _ target pending closed _ ih =>
    cases step with
    | fail => cases target
    | cover d => cases target; rw [follow, dif_neg (Bool.eq_false_iff.mp pending), ih]
    | enter d =>
      cases target
      have closed := closed.resolve_right (by simp)
      rw [follow, dif_neg (Bool.eq_false_iff.mp pending), if_neg (Bool.eq_false_iff.mp closed), ih]

/-! ### What happens on the way -/

/-- The classes that were entered are those for which something was recorded, in order. -/
theorem visited_eq (course : walker.Course state steps events final outcome) :
    final.visited = state.visited ++ events.filterMap WalkEvent.record? := by
  induction course with
  | done | fails | refused => exact (List.append_nil _).symm
  | skip _ _ _ ih => exact ih
  | search _ _ _ _ ih | plain _ _ _ _ ih => rw [ih]; exact List.append_assoc ..

/-- The searches that are noted are those that the locator answered. -/
theorem searches_eq (course : walker.Course state steps events final outcome) :
    final.searches = state.searches ++ events.filterMap WalkEvent.search? := by
  induction course with
  | done | fails | refused => exact (List.append_nil _).symm
  | skip _ _ _ ih => exact ih
  | search _ _ _ _ ih => rw [ih]; exact List.append_assoc ..
  | plain _ _ _ _ ih => exact ih

/-- Nothing happens any more for a class that was entered. -/
theorem ne_of_entered (course : walker.Course state steps events final outcome) {c : ClassRef}
    (entered : c ∈ state.visited.map (·.1)) : ∀ event ∈ events, c ≠ event.subject := by
  have differs : ∀ {here : WalkState} {d : ClassRef}, c ∈ here.visited.map (·.1) →
      walker.isDone here d = false → c ≠ d := by
    rintro here d entered pending rfl
    exact (isDone_eq_false_iff.mp pending).1 entered
  induction course with
  | done | fails => exact fun _ member => absurd member List.not_mem_nil
  | skip _ _ _ ih => exact ih entered
  | refused pending =>
    intro event member
    cases List.mem_singleton.mp member
    exact differs entered pending
  | search pending _ _ _ ih =>
    have later := ih (by simpa [WalkState.recordSearch] using .inl (by simpa using entered))
    exact List.forall_mem_cons.mpr ⟨differs entered pending,
      List.forall_mem_cons.mpr ⟨differs entered pending, later⟩⟩
  | plain _ pending _ _ ih =>
    have later := ih (by simpa [WalkState.record] using .inl (by simpa using entered))
    exact List.forall_mem_cons.mpr ⟨differs entered pending, later⟩

/-- Of two events that are about one class, the later one records the answer to the other. -/
theorem pairwise (course : walker.Course state steps events final outcome) :
    events.Pairwise fun earlier later => earlier.subject ≠ later.subject
      ∨ ∃ c answer subTypes, earlier = .asks c answer ∧ later = .records c subTypes := by
  induction course with
  | done | fails => exact .nil
  | skip _ _ _ ih => exact ih
  | refused => exact List.pairwise_singleton ..
  | @search _ _ _ c _ _ _ _ _ _ course ih =>
    have others := course.ne_of_entered (c := c) (by simp [WalkState.recordSearch])
    refine .cons (fun later member => ?_) (.cons (fun later member => .inl (others later member)) ih)
    rcases List.mem_cons.mp member with rfl | member
    · exact .inr ⟨_, _, _, rfl, rfl⟩
    · exact .inl (others later member)
  | @plain _ _ _ _ c _ _ _ _ _ course ih =>
    have others := course.ne_of_entered (c := c) (by simp [WalkState.record])
    exact .cons (fun later member => .inl (others later member)) ih

theorem nodup_asked (course : walker.Course state steps events final outcome) :
    (events.filterMap WalkEvent.asked?).Nodup := by
  refine course.pairwise.filterMap _ fun earlier later apart c asked d askedLater => ?_
  cases earlier <;> cases asked
  cases later <;> cases askedLater
  simpa [WalkEvent.subject] using apart

theorem nodup_recorded (course : walker.Course state steps events final outcome) :
    ((events.filterMap WalkEvent.record?).map (·.1)).Nodup := by
  refine List.Pairwise.map _ (fun _ _ apart => apart) ?_
  refine course.pairwise.filterMap _ fun earlier later apart c recorded d recordedLater => ?_
  cases earlier <;> cases recorded
  cases later <;> cases recordedLater
  simpa [WalkEvent.subject] using apart

/-- The locator is asked for open classes of the table, and gives its answer. -/
theorem of_asks (course : walker.Course state steps events final outcome) {c : ClassRef}
    {answer : Except Failure (List ClassRef)} (member : .asks c answer ∈ events) :
    answer = walker.answer c ∧ walker.catalog.isOpen c = true
      ∧ c ∈ walker.catalog.table.allClasses := by
  induction course with
  | done | fails => exact absurd member List.not_mem_nil
  | skip _ _ _ ih => exact ih member
  | refused pending isOpen answered =>
    cases List.mem_singleton.mp member
    exact ⟨answered.symm, isOpen, (isDone_eq_false_iff.mp pending).2⟩
  | search pending isOpen answered _ ih =>
    rcases List.mem_cons.mp member with same | member
    · cases same
      exact ⟨answered.symm, isOpen, (isDone_eq_false_iff.mp pending).2⟩
    · exact ih ((List.mem_cons.mp member).resolve_left (by simp))
  | plain _ _ _ _ ih => exact ih ((List.mem_cons.mp member).resolve_left (by simp))

/-- What the locator answers is recorded next, each class once. -/
theorem records_behind (course : walker.Course state steps events final outcome) {c : ClassRef}
    {found : List ClassRef} {before later : List WalkEvent}
    (split : events = before ++ .asks c (.ok found) :: later) :
    ∃ rest, later = .records c found.eraseDups :: rest := by
  induction course generalizing before with
  | done | fails => simp at split
  | skip _ _ _ ih => exact ih split
  | refused =>
    rcases List.cons_eq_append_iff.mp split with ⟨rfl, same⟩ | ⟨rest, rfl, same⟩
    · cases same
    · simp at same
  | search _ _ _ _ ih =>
    rcases List.cons_eq_append_iff.mp split with ⟨rfl, same⟩ | ⟨rest, rfl, same⟩
    · cases same
      exact ⟨_, rfl⟩
    · rcases List.cons_eq_append_iff.mp same with ⟨rfl, next⟩ | ⟨rest, rfl, next⟩
      · cases next
      · exact ih next
  | plain _ _ _ _ ih =>
    rcases List.cons_eq_append_iff.mp split with ⟨rfl, same⟩ | ⟨rest, rfl, same⟩
    · cases same
    · exact ih same

end Course

/-! ### Roots -/

/-- Steps behind others are done when those did not fail. -/
theorem follow_append : walker.follow state (steps ++ more)
    = match walker.follow state steps with
      | (middle, none) => walker.follow middle more
      | (final, some reason) => (final, some reason) := by
  fun_induction walker.follow state steps with
  | case1 state => rfl
  | case2 state reason rest => rw [List.cons_append, follow]
  | case3 state c rest isDone ih => rw [List.cons_append, follow, dif_pos isDone, ih]
  | case4 state c rest pending ih =>
    rw [List.cons_append, follow, dif_neg pending, ← List.append_assoc, ih]
  | case5 state c rest isDone ih => rw [List.cons_append, follow, dif_pos isDone, ih]
  | case6 state c rest pending isOpen reason failed =>
    rw [List.cons_append, follow, dif_neg pending, if_pos isOpen, failed]
  | case7 state c rest pending isOpen subTypes found ih =>
    rw [List.cons_append, follow, dif_neg pending, if_pos isOpen, found, ← ih]
    simp only [List.append_assoc]
  | case8 state c rest pending closed ih =>
    rw [List.cons_append, follow, dif_neg pending, if_neg closed, ← List.append_assoc, ih]

/-- A failure of a walk is reported for one of its roots. -/
theorem followRoots_of_follow {roots : List Ty}
    (followed : walker.follow state (walker.rootSteps roots) = (final, outcome)) :
    match outcome with
    | none => walker.followRoots state roots = (final, none)
    | some reason => ∃ root ∈ roots, walker.followRoots state roots
        = (final, some (rootFailure (root.qualifiedName walker.catalog.table) reason)) := by
  induction roots generalizing state with
  | nil =>
    rw [rootSteps, List.flatMap_nil, follow] at followed
    cases followed
    rfl
  | cons root rest ih =>
    rw [rootSteps, List.flatMap_cons, follow_append] at followed
    simp only [followRoots]
    cases first : walker.follow state (walker.catalog.table.form root).walkSteps with
    | mk middle result =>
      rw [first] at followed
      cases result with
      | some reason =>
        cases followed
        exact ⟨root, List.mem_cons_self, rfl⟩
      | none =>
        have later := ih followed
        cases outcome with
        | none => exact later
        | some reason =>
          obtain ⟨culprit, member, failed⟩ := later
          exact ⟨culprit, List.mem_cons_of_mem _ member, failed⟩

end

/-! ### Main result -/

/-- What a walk from roots gives when it ends in a state: the registry, or the failure as it is reported
for one of the roots, with the notices of the searches. -/
def Gives (walker : Walker) (roots : List Ty) (final : WalkState) : Option Failure → Prop
  | none => walker.run roots = (walker.notices final, .ok final.registry)
  | some reason => ∃ root ∈ roots, walker.run roots = (walker.notices final,
      .error (rootFailure (root.qualifiedName walker.catalog.table) reason))

theorem Course.gives {roots : List Ty} {events : List WalkEvent} {final : WalkState}
    {outcome : Option Failure}
    (course : walker.Course .start (walker.rootSteps roots) events final outcome) :
    walker.Gives roots final outcome := by
  have reported := followRoots_of_follow course.follow_eq
  cases outcome with
  | none =>
    rw [Gives, run, reported]
  | some reason =>
    obtain ⟨root, member, failed⟩ := reported
    exact ⟨root, member, by rw [run, failed]⟩

/-- How the locator is asked in the course of a walk. No class is asked for twice. A class that is asked
for is open, and neither on it nor on an ancestor up to the one with its discriminator stands a closed
list. What the locator answers is recorded next, each class once, and stands in the table ever after. -/
structure AsksOnce (walker : Walker) (events : List WalkEvent) : Prop where
  once : (events.filterMap WalkEvent.asked?).Nodup
  answered : ∀ c answer, .asks c answer ∈ events →
    answer = walker.locator walker.catalog.table c walker.scope
  isOpen : ∀ c answer, .asks c answer ∈ events → walker.catalog.isOpen c = true
  noLists : ∀ c answer, .asks c answer ∈ events →
    ∃ line, walker.catalog.IsLine c line ∧ c ∈ line
      ∧ ∀ k ∈ line, walker.catalog.declaredSubTypes k = []
  kept : ∀ before c found later, events = before ++ .asks c (.ok found) :: later →
    ∃ subTypes rest, later = .records c subTypes :: rest
      ∧ subTypes.Nodup ∧ (∀ d, d ∈ subTypes ↔ d ∈ found)
      ∧ ∀ soFar, soFar <+: rest →
        lastRecord? (before ++ .asks c (.ok found) :: .records c subTypes :: soFar) c = some subTypes

end Walker

theorem recordedFor?_of_mem {α : Type} {entries : List (ClassRef × α)} {c : ClassRef} {value : α}
    (unique : (entries.map (·.1)).Nodup) (member : (c, value) ∈ entries) :
    recordedFor? entries c = some value := by
  unfold recordedFor?
  cases found : entries.find? (fun entry => entry.1 = c) with
  | none => exact absurd (List.find?_eq_none.mp found _ member) (by simp)
  | some entry =>
    have same : entry.1 = c := by simpa using List.find?_some found
    have inside := List.mem_of_find?_eq_some found
    rw [List.inj_on_of_nodup_map unique inside member same]
    rfl

/-- Where nothing is recorded twice, every record stays. -/
theorem lastRecord?_of_mem {events : List WalkEvent} {c : ClassRef} {subTypes : List ClassRef}
    (unique : ((events.filterMap WalkEvent.record?).map (·.1)).Nodup)
    (member : .records c subTypes ∈ events) : lastRecord? events c = some subTypes := by
  refine recordedFor?_of_mem ?_ ?_
  · rw [List.map_reverse]
    exact List.nodup_reverse.mpr unique
  · exact List.mem_reverse.mpr (List.mem_filterMap.mpr ⟨_, member, rfl⟩)

namespace Walker

variable {walker : Walker}

theorem Course.asksOnce {state final : WalkState} {steps : List WalkStep} {events : List WalkEvent}
    {outcome : Option Failure} (layered : walker.catalog.table.Layered)
    (course : walker.Course state steps events final outcome) : walker.AsksOnce events := by
  refine ⟨course.nodup_asked, fun c answer member => (course.of_asks member).1,
    fun c answer member => (course.of_asks member).2.1, fun c answer member => ?_, ?_⟩
  · obtain ⟨-, isOpen, known⟩ := course.of_asks member
    obtain ⟨line, isLine, noLists⟩ := Catalog.exists_isLine_of_isOpen isOpen
    exact ⟨line, isLine, isLine.mem layered known, noLists⟩
  · intro before c found later split
    obtain ⟨rest, rfl⟩ := course.records_behind split
    refine ⟨_, rest, rfl, nodup_eraseDups _, fun d => List.mem_eraseDups, ?_⟩
    intro soFar isStart
    obtain ⟨behind, rfl⟩ := isStart
    have start : List.Sublist
        (before ++ .asks c (.ok found) :: .records c found.eraseDups :: soFar) events := by
      rw [split]
      exact .append (.refl _) (.cons_cons _ (.cons_cons _ (List.sublist_append_left ..)))
    refine lastRecord?_of_mem (course.nodup_recorded.sublist ((start.filterMap _).map _)) ?_
    simp

end Walker

/-- Every walk from roots takes a course, and on every such course the locator is asked for a class at
most once. What is recorded on the way is what the walk has entered in the end, the searches that were
answered are those that it notes, and this is what the walk gives. -/
theorem run_asks_once {walker : Walker} (layered : walker.catalog.table.Layered) (roots : List Ty) :
    (∃ events final outcome, walker.Course .start (walker.rootSteps roots) events final outcome)
      ∧ ∀ events final outcome, walker.Course .start (walker.rootSteps roots) events final outcome →
        walker.AsksOnce events
          ∧ final.visited = events.filterMap WalkEvent.record?
          ∧ final.searches = events.filterMap WalkEvent.search?
          ∧ walker.Gives roots final outcome := by
  constructor
  · cases followed : walker.follow .start (walker.rootSteps roots) with
    | mk final outcome =>
      obtain ⟨events, course⟩ := Walker.course_of_follow followed
      exact ⟨events, final, outcome, course⟩
  · intro events final outcome course
    exact ⟨course.asksOnce layered, course.visited_eq, course.searches_eq, course.gives⟩

/-! ### An example -/

section

open Example

/-- The walk from a drawing asks for figures once. It comes to polygons twice and asks for none of them,
and the two subtypes of figures stay recorded. -/
theorem run_asks_once_drawing :
    figures.table.Layered ∧ ∃ events final,
      (Walker.subclassing figures .everything).Course .start
          ((Walker.subclassing figures .everything).rootSteps [.cls drawing]) events final none
        ∧ (Walker.subclassing figures .everything).AsksOnce events
        ∧ events.filterMap WalkEvent.search? = [(figure, 2)]
        ∧ lastRecord? events figure = some [polygon, square]
        ∧ lastRecord? events polygon = some [] := by
  have layered : figures.table.Layered := by decide
  obtain ⟨events, course⟩ := Walker.course_of_follow (Walker.follow_of_walks walks_figures)
  obtain ⟨-, onEveryCourse⟩ :=
    @run_asks_once (Walker.subclassing figures .everything) layered [.cls drawing]
  obtain ⟨asksOnce, visited, searches, -⟩ := onEveryCourse _ _ _ course
  refine ⟨layered, events, _, course, asksOnce, searches.symm, ?_, ?_⟩
  all_goals
    rw [lastRecord?, ← visited]
    rfl

end

end ModelSchema
