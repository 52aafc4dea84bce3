import ModelSchema.Proofs.Schema.Branches
import ModelSchema.Proofs.Shape

/-!
Whether a walk fails is decided root by root.

All roots share the classes that were visited. A root that comes later skips what an earlier one has
entered, or has covered as a subtype, and a covered class makes no search of its own. None of that
hides a failure, and none shifts it to another root.

* `Walker.Fails`: whether a step leads to a failure, said on the graph of classes without a state.
* `Walker.exists_fails_of_follow`: a walk that fails had such a step to do.
* `Walker.Complete.not_fails`: a walk that does not fail had none, although it skipped some.
* `run_blames`: many roots fail when one of them does on its own, and the first such root is named.
-/

namespace ModelSchema

namespace Walker

variable {walker : Walker} {reason : Failure}

/-! ### Steps that lead to a failure -/

/-- `walker.Fails reason step`: the step leads to a failure. It is one, or it enters or covers a
class with such a step among its members, or it enters an open class for which the search fails or
finds a subtype that leads to one. -/
inductive Fails (walker : Walker) (reason : Failure) : WalkStep → Prop where
  | here : Fails walker reason (.fail reason)
  | member {step inner : WalkStep} {c : ClassRef} : step.target? = some c →
      c ∈ walker.catalog.table.allClasses → inner ∈ walker.memberSteps c →
      Fails walker reason inner → Fails walker reason step
  | search {c : ClassRef} : walker.catalog.isOpen c = true → walker.search c = .error reason →
      Fails walker reason (.enter c)
  | found {c d : ClassRef} {subTypes : List ClassRef} : c ∈ walker.catalog.table.allClasses →
      walker.catalog.isOpen c = true → walker.search c = .ok subTypes → d ∈ subTypes →
      Fails walker reason (.cover d) → Fails walker reason (.enter c)

/-- A walk that fails had a step to do that leads to the failure. -/
theorem exists_fails_of_follow {state final : WalkState} {steps : List WalkStep}
    (run : walker.follow state steps = (final, some reason)) :
    ∃ step ∈ steps, walker.Fails reason step := by
  fun_induction walker.follow state steps with
  | case1 state => cases run
  | case2 state failure rest =>
    cases run
    exact ⟨_, List.mem_cons_self, .here⟩
  | case3 state c rest isDone ih =>
    obtain ⟨step, later, fails⟩ := ih run
    exact ⟨step, List.mem_cons_of_mem _ later, fails⟩
  | case4 state c rest pending ih =>
    have known := (isDone_eq_false_iff.mp (Bool.eq_false_iff.mpr pending)).2
    obtain ⟨step, member, fails⟩ := ih run
    rcases List.mem_append.mp member with inner | later
    · exact ⟨_, List.mem_cons_self, .member rfl known inner fails⟩
    · exact ⟨step, List.mem_cons_of_mem _ later, fails⟩
  | case5 state c rest isDone ih =>
    obtain ⟨step, later, fails⟩ := ih run
    exact ⟨step, List.mem_cons_of_mem _ later, fails⟩
  | case6 state c rest pending isOpen failure failed =>
    cases run
    exact ⟨_, List.mem_cons_self, .search isOpen failed⟩
  | case7 state c rest pending isOpen subTypes found ih =>
    have known := (isDone_eq_false_iff.mp (Bool.eq_false_iff.mpr pending)).2
    obtain ⟨step, member, fails⟩ := ih run
    rcases List.mem_append.mp member with own | later
    · refine ⟨_, List.mem_cons_self, ?_⟩
      rcases List.mem_append.mp own with inner | covered
      · exact .member rfl known inner fails
      · obtain ⟨d, -, rfl⟩ := List.mem_map.mp covered
        exact .found known isOpen found (cover_mem_coverSteps.mp covered) fails
    · exact ⟨step, List.mem_cons_of_mem _ later, fails⟩
  | case8 state c rest pending closed ih =>
    have known := (isDone_eq_false_iff.mp (Bool.eq_false_iff.mpr pending)).2
    obtain ⟨step, member, fails⟩ := ih run
    rcases List.mem_append.mp member with inner | later
    · exact ⟨_, List.mem_cons_self, .member rfl known inner fails⟩
    · exact ⟨step, List.mem_cons_of_mem _ later, fails⟩

end Walker

/-! ### What a walk without failure has skipped -/

section

variable {catalog : Catalog} {scope : Scope} {state : WalkState} {roots : List Ty} {c d : ClassRef}

/-- No step that is done leads to a failure. -/
theorem Walker.Complete.not_fails (layered : catalog.table.Layered)
    (complete : (Walker.subclassing catalog scope).Complete roots state) {reason : Failure}
    {step : WalkStep} (fails : (Walker.subclassing catalog scope).Fails reason step) :
    ¬ (Walker.subclassing catalog scope).Settled state step := by
  -- The state is fixed: what a step leads to is done as well, down to the failure itself.
  induction fails with
  | here =>
    rintro ⟨c, target, -⟩
    cases target
  | @member step inner c target known isMember _ ih =>
    rintro ⟨d, target', isDone⟩
    obtain rfl : c = d := Option.some.inj (target.symm.trans target')
    obtain ⟨entry, recorded, rfl⟩ :=
      List.mem_map.mp ((isDone_iff.mp isDone).resolve_right (absurd known))
    exact ih ((complete.finished _ recorded).members inner isMember)
  | search _ failed => cases failed
  | @found c d subTypes known isOpen found isSubType _ ih =>
    rintro ⟨c, target, isDone⟩
    cases target
    have entered := (isDone_iff.mp isDone).resolve_right (absurd known)
    exact ih ⟨d, rfl, complete.isDone_of_search layered entered isOpen found isSubType⟩

end

/-! ### Reasons -/

namespace Failure

/-- Whether a failure is of another kind than that of a search for subtypes. -/
def IsNoLookup : Failure → Prop
  | report .subtypeLookup .. => False
  | _ => True

end Failure

section

variable {table : ClassTable} {reason : Failure} {atVariable : Nat → Shape}
  {argumentsOf : ClassRef → List Form}

theorem ClassTable.isNoLookup_of_classShape {arguments : List Form}
    (each : .fail reason ∈ walkStepsOf arguments → reason.IsNoLookup) (c : ClassRef)
    (member : .fail reason ∈ (table.classShape arguments c).walkSteps) : reason.IsNoLookup := by
  unfold classShape at member
  split_ifs at member
  all_goals first
    | simp [Shape.walkSteps, Form.any, Form.text, Form.walkSteps] at member; done
    | skip
  · exact each (by simpa [Shape.walkSteps] using member)
  · have same : reason = table.unsupportedClass c := by simpa [Shape.walkSteps] using member
    exact same ▸ trivial

mutual

/-- Annotations without a shape are the only reasons for failures in shapes. -/
theorem Ty.isNoLookup_of_shape
    (atVariables : ∀ i, .fail reason ∈ (atVariable i).walkSteps → reason.IsNoLookup)
    (arguments : ∀ c, .fail reason ∈ walkStepsOf (argumentsOf c) → reason.IsNoLookup) :
    ∀ t : Ty, .fail reason ∈ (t.shape table atVariable argumentsOf).walkSteps → reason.IsNoLookup
  | .annotated t _, member => by
    rw [Ty.shape] at member
    exact t.isNoLookup_of_shape atVariables arguments member
  | .typeVar i, member => by
    rw [Ty.shape] at member
    exact atVariables i member
  | .union _ ts, member => by
    rw [Ty.shape, Shape.walkSteps] at member
    exact Ty.isNoLookup_of_presentForms atVariables arguments ts member
  | .tuple ts, member => by
    unfold Ty.shape at member
    split at member
    · simp [Shape.walkSteps, Form.any, Form.walkSteps] at member
    next t => exact t.isNoLookup_of_shape atVariables arguments member
    · rw [Shape.walkSteps] at member
      exact Ty.isNoLookup_of_forms atVariables arguments ts member
  | .array _ t, member => by
    rw [Ty.shape] at member
    exact t.isNoLookup_of_shape atVariables arguments member
  | .map _ a b, member => by
    rw [Ty.shape, Shape.walkSteps] at member
    rcases List.mem_append.mp member with inKey | inValue
    · exact a.isNoLookup_of_shape atVariables arguments inKey
    · exact b.isNoLookup_of_shape atVariables arguments inValue
  | .cls c, member => by
    rw [Ty.shape] at member
    exact table.isNoLookup_of_classShape (arguments c) c member
  | .unsupported k t, member => by
    have same : reason = table.unsupportedGeneric (.unsupported k t) := by
      simpa [Ty.shape, Shape.walkSteps] using member
    exact same ▸ trivial
  | .any, member | .none, member | .literal _, member | .bareTuple, member
  | .bareArray _, member | .bareMap _, member => by
    simp [Ty.shape, Shape.walkSteps, Form.any, Form.text, Form.walkSteps] at member
  | .ellipsis, member => by
    have same : reason = table.unresolvedAnnotation .ellipsis := by
      simpa [Ty.shape, Shape.walkSteps] using member
    exact same ▸ trivial
  | .forward name, member => by
    have same : reason = table.unresolvedAnnotation (.forward name) := by
      simpa [Ty.shape, Shape.walkSteps] using member
    exact same ▸ trivial
  | .bareName name, member => by
    have same : reason = table.unresolvedAnnotation (.bareName name) := by
      simpa [Ty.shape, Shape.walkSteps] using member
    exact same ▸ trivial
  | .newType name, member => by
    have same : reason = table.unresolvedAnnotation (.newType name) := by
      simpa [Ty.shape, Shape.walkSteps] using member
    exact same ▸ trivial

theorem Ty.isNoLookup_of_forms
    (atVariables : ∀ i, .fail reason ∈ (atVariable i).walkSteps → reason.IsNoLookup)
    (arguments : ∀ c, .fail reason ∈ walkStepsOf (argumentsOf c) → reason.IsNoLookup) :
    ∀ ts : List Ty, .fail reason ∈ walkStepsOf (Ty.forms table atVariable argumentsOf ts) →
      reason.IsNoLookup
  | [], member => by simp [Ty.forms, walkStepsOf] at member
  | t :: ts, member => by
    rw [Ty.forms, walkStepsOf] at member
    rcases List.mem_append.mp member with here | later
    · exact t.isNoLookup_of_shape atVariables arguments here
    · exact Ty.isNoLookup_of_forms atVariables arguments ts later

theorem Ty.isNoLookup_of_presentForms
    (atVariables : ∀ i, .fail reason ∈ (atVariable i).walkSteps → reason.IsNoLookup)
    (arguments : ∀ c, .fail reason ∈ walkStepsOf (argumentsOf c) → reason.IsNoLookup) :
    ∀ ts : List Ty, .fail reason ∈ walkStepsOf (Ty.presentForms table atVariable argumentsOf ts) →
      reason.IsNoLookup
  | [], member => by simp [Ty.presentForms, walkStepsOf] at member
  | t :: ts, member => by
    rw [Ty.presentForms] at member
    split at member
    · exact Ty.isNoLookup_of_presentForms atVariables arguments ts member
    · rw [walkStepsOf] at member
      rcases List.mem_append.mp member with here | later
      · exact t.isNoLookup_of_shape atVariables arguments here
      · exact Ty.isNoLookup_of_presentForms atVariables arguments ts later

end

namespace ClassTable

/-- Nor do type variables add others. -/
theorem isNoLookup_of_variableShape {form : Ty → Form}
    (each : ∀ t, .fail reason ∈ (form t).walkSteps → reason.IsNoLookup) (i : Nat)
    (member : .fail reason ∈ (table.variableShape form i).walkSteps) : reason.IsNoLookup := by
  unfold variableShape at member
  split at member
  · simp [Shape.walkSteps] at member
  next v _ =>
    split at member
    · split at member
      next bound _ =>
        exact each bound (Form.walkSteps_shape _ ▸ member)
      · simp [Shape.walkSteps] at member
    · rw [Shape.walkSteps] at member
      obtain ⟨f, inside, step⟩ := mem_walkStepsOf.mp member
      obtain ⟨t, -, rfl⟩ := List.mem_map.mp inside
      exact each t step

theorem isNoLookup_of_formWithin :
    ∀ (depth : Nat) (t : Ty), .fail reason ∈ (table.formWithin depth t).walkSteps →
      reason.IsNoLookup
  | 0, t, member => by
    refine t.isNoLookup_of_shape (fun i h => ?_) (fun c h => ?_) member
    · simp [Shape.walkSteps] at h
    · simp [walkStepsOf] at h
  | depth + 1, t, member => by
    refine t.isNoLookup_of_shape (isNoLookup_of_variableShape (isNoLookup_of_formWithin depth))
      (fun c h => ?_) member
    obtain ⟨f, inside, step⟩ := mem_walkStepsOf.mp h
    obtain ⟨t, -, rfl⟩ := List.mem_map.mp inside
    exact isNoLookup_of_formWithin depth t step

/-- The failures in reading the properties of a class. -/
theorem isNoLookup_of_properties {c : ClassRef} (failed : table.properties c = .error reason) :
    reason.IsNoLookup := by
  unfold properties at failed
  cases complete : table.requireComplete c with
  | error missing =>
    rw [complete] at failed
    cases failed
    unfold requireComplete at complete
    dsimp only at complete
    split_ifs at complete
    · cases complete
      trivial
    · split at complete
      · cases complete
        trivial
      · cases complete
  | ok u =>
    rw [complete] at failed
    cases model : table.model? c with
    | none =>
      rw [model] at failed
      cases failed
    | some info =>
      rw [model] at failed
      cases made : table.modelProperties info with
      | ok props =>
        have failed : (table.modelProperties info).mapError .fault = .error reason := failed
        rw [made] at failed
        cases failed
      | error cause =>
        have failed : (table.modelProperties info).mapError .fault = .error reason := failed
        rw [made] at failed
        cases failed
        trivial

end ClassTable

end

/-! ### Runs that fail -/

/-- The report of any other failure names the root, and has a cause. -/
theorem Failure.IsNoLookup.rootFailure {reason : Failure} (noLookup : reason.IsNoLookup)
    (name : String) : (Walker.rootFailure name reason).kindName = "IntrospectionError"
      ∧ (Walker.rootFailure name reason).typeName = some (.str name)
      ∧ (Walker.rootFailure name reason).origin = some reason := by
  unfold Walker.rootFailure
  split
  next => exact absurd noLookup id
  next => exact ⟨rfl, rfl, rfl⟩

namespace Walker

section

variable {walker : Walker} {reason : Failure}

/-- The failures among the steps to the members of a class. -/
theorem isNoLookup_of_memberSteps {c : ClassRef} (member : .fail reason ∈ walker.memberSteps c) :
    reason.IsNoLookup := by
  unfold memberSteps at member
  split at member
  next failed =>
    cases List.mem_singleton.mp member
    exact ClassTable.isNoLookup_of_properties failed
  next =>
    rcases List.mem_append.mp member with inProperty | inList
    · obtain ⟨p, -, step⟩ := List.mem_flatMap.mp inProperty
      exact ClassTable.isNoLookup_of_formWithin _ _ step
    · simp at inList

/-- A run that fails does so at one root, after it has done the steps of those before. -/
theorem exists_of_followRoots {state final : WalkState} {roots : List Ty} {failure : Failure}
    (run : walker.followRoots state roots = (final, some failure)) :
    ∃ before root after middle, roots = before ++ root :: after
      ∧ walker.Walks state (walker.rootSteps before) middle
      ∧ ∃ reason, walker.follow middle (walker.catalog.table.form root).walkSteps
          = (final, some reason)
        ∧ failure = rootFailure (root.qualifiedName walker.catalog.table) reason := by
  induction roots generalizing state with
  | nil => cases run
  | cons root rest ih =>
    rw [followRoots] at run
    split at run
    next middle first =>
      obtain ⟨before, culprit, after, last, rfl, walk, failed⟩ := ih run
      exact ⟨root :: before, culprit, after, last, rfl, (walks_of_follow first).append walk, failed⟩
    next _ reason failed =>
      cases run
      exact ⟨[], root, rest, state, rfl, .done, reason, failed, rfl⟩

end

section

variable {catalog : Catalog} {scope : Scope} {roots : List Ty} {root : Ty} {step : WalkStep}
  {reason : Failure}

/-- A search among the declared subclasses does not fail: what fails is something else. -/
theorem Fails.isNoLookup (fails : (subclassing catalog scope).Fails reason step)
    (here : ∀ own, step = .fail own → own.IsNoLookup) : reason.IsNoLookup := by
  induction fails with
  | here => exact here _ rfl
  | member _ _ isMember _ ih =>
    exact ih fun own same => isNoLookup_of_memberSteps (same ▸ isMember)
  | search _ failed => cases failed
  | found _ _ _ _ _ ih => exact ih nofun

/-- A run fails when a step of one of its roots leads to a failure, whatever was done before. -/
theorem exists_error_of_fails (layered : catalog.table.Layered) (member : root ∈ roots)
    (isStep : step ∈ (catalog.table.form root).walkSteps)
    (fails : (subclassing catalog scope).Fails reason step) :
    ∃ failure, ((subclassing catalog scope).run roots).2 = .error failure := by
  cases run : (subclassing catalog scope).run roots with
  | mk notices result =>
    cases result with
    | error failure => exact ⟨failure, rfl⟩
    | ok registry =>
      obtain ⟨state, complete, -, -⟩ := complete_of_run run
      exact absurd (complete.settled step (List.mem_flatMap.mpr ⟨root, member, isStep⟩))
        (complete.not_fails layered fails)

/-- A run that fails: the roots before the one it fails at could be done, and that one has a step
that leads to the failure. -/
theorem exists_of_run_error {failure : Failure}
    (failed : ((subclassing catalog scope).run roots).2 = .error failure) :
    ∃ before root after, roots = before ++ root :: after
      ∧ (∃ state, (subclassing catalog scope).Complete before state)
      ∧ ∃ step ∈ (catalog.table.form root).walkSteps, ∃ reason,
        (subclassing catalog scope).Fails reason step
          ∧ failure = rootFailure (root.qualifiedName catalog.table) reason := by
  cases followed : (subclassing catalog scope).followRoots .start roots with
  | mk final result =>
    cases result with
    | none => simp [run, followed] at failed
    | some other =>
      have same : other = failure := by simpa [run, followed] using failed
      subst same
      obtain ⟨before, root, after, middle, split, walk, reason, stopped, named⟩ :=
        exists_of_followRoots followed
      obtain ⟨step, isStep, fails⟩ := exists_fails_of_follow stopped
      obtain ⟨state, complete, -, -⟩ := complete_of_run (run_of_walks walk)
      exact ⟨before, root, after, split, ⟨state, complete⟩, step, isStep, reason, fails, named⟩

end

end Walker

/-! ### Main result -/

namespace Walker

/-- Whether the walk from some roots fails. -/
def FailsFrom (walker : Walker) (roots : List Ty) : Prop :=
  ∃ failure, (walker.run roots).2 = .error failure

/-- A failure that is reported for a root: the first one from which a walk fails. -/
structure IsBlamed (walker : Walker) (roots : List Ty) (root : Ty) (failure : Failure) : Prop where
  first : ∃ before after, roots = before ++ root :: after
    ∧ ∀ earlier ∈ before, ¬ walker.FailsFrom [earlier]
  fails : walker.FailsFrom [root]
  kind : failure.kindName = "IntrospectionError"
  type : failure.typeName = some (.str (root.qualifiedName walker.catalog.table))
  cause : ∃ cause, failure.origin = some cause

end Walker

section

variable {catalog : Catalog} {scope : Scope} {roots : List Ty}

/-- A walk that fails from one root alone has a step of that root that leads to a failure. -/
theorem Walker.FailsFrom.exists_fails {root : Ty}
    (failed : (Walker.subclassing catalog scope).FailsFrom [root]) :
    ∃ step ∈ (catalog.table.form root).walkSteps, ∃ reason,
      (Walker.subclassing catalog scope).Fails reason step := by
  obtain ⟨failure, failed⟩ := failed
  obtain ⟨before, culprit, after, single, -, step, isStep, reason, fails, -⟩ :=
    exists_of_run_error failed
  have inside : culprit ∈ [root] := by simp [single]
  cases List.mem_singleton.mp inside
  exact ⟨step, isStep, reason, fails⟩

theorem exists_isBlamed (layered : catalog.table.Layered) {failure : Failure}
    (failed : ((Walker.subclassing catalog scope).run roots).2 = .error failure) :
    ∃ root, (Walker.subclassing catalog scope).IsBlamed roots root failure := by
  obtain ⟨before, root, after, split, ⟨state, complete⟩, step, isStep, reason, fails, rfl⟩ :=
    Walker.exists_of_run_error failed
  have noLookup : reason.IsNoLookup := fails.isNoLookup fun own same =>
    ClassTable.isNoLookup_of_formWithin _ _ (same ▸ isStep)
  obtain ⟨kind, type, origin⟩ := noLookup.rootFailure (root.qualifiedName catalog.table)
  refine ⟨root, ⟨before, after, split, fun earlier member alone => ?_⟩,
    Walker.exists_error_of_fails layered List.mem_cons_self isStep fails, kind, type, _, origin⟩
  -- Alone the earlier one would have a step that leads to a failure, but that step was done.
  obtain ⟨inner, isInner, _, innerFails⟩ := alone.exists_fails
  exact complete.not_fails layered innerFails
    (complete.settled inner (List.mem_flatMap.mpr ⟨earlier, member, isInner⟩))

/-- A walk from some roots fails when the walk from one of them does. It is then reported, with its
cause, for the first root from which a walk fails. -/
theorem run_blames (layered : catalog.table.Layered) :
    ((Walker.subclassing catalog scope).FailsFrom roots
        ↔ ∃ root ∈ roots, (Walker.subclassing catalog scope).FailsFrom [root])
      ∧ ∀ failure, ((Walker.subclassing catalog scope).run roots).2 = .error failure →
        ∃ root, (Walker.subclassing catalog scope).IsBlamed roots root failure := by
  refine ⟨⟨?_, ?_⟩, fun failure failed => exists_isBlamed layered failed⟩
  · rintro ⟨failure, failed⟩
    obtain ⟨root, blamed⟩ := exists_isBlamed layered failed
    obtain ⟨before, after, rfl, -⟩ := blamed.first
    exact ⟨root, List.mem_append_right _ List.mem_cons_self, blamed.fails⟩
  · rintro ⟨root, member, alone⟩
    obtain ⟨step, isStep, reason, fails⟩ := alone.exists_fails
    exact Walker.exists_error_of_fails layered member isStep fails

end

/-! ### An example -/

section

open Example

/-- A program leads to a broadcast below which a stream has no schema. The station before it is
fine, and the broadcast behind it is not reached any more. -/
theorem run_blames_program : ∃ failure,
    ((Walker.subclassing stations .everything).run
        [.cls station, .cls program, .cls broadcast]).2 = .error failure
      ∧ failure.kindName = "IntrospectionError"
      ∧ failure.typeName = some (.str "figures.Program") := by
  have layered : stations.table.Layered := by decide
  have members : (Walker.subclassing stations .everything).memberSteps program
      = [.enter broadcast] := rfl
  have search : (Walker.subclassing stations .everything).search broadcast = .ok [stream] := rfl
  have unsupported : (Walker.subclassing stations .everything).memberSteps stream
      = [.fail (stations.table.unsupportedGeneric (.unsupported .iterator (.basic .str)))] := rfl
  have below : (Walker.subclassing stations .everything).Fails
      (stations.table.unsupportedGeneric (.unsupported .iterator (.basic .str)))
      (.enter broadcast) :=
    .found (by decide) rfl search List.mem_cons_self <|
      .member rfl (by decide) (unsupported ▸ List.mem_cons_self) .here
  have alone : (Walker.subclassing stations .everything).FailsFrom [.cls program] :=
    Walker.exists_error_of_fails layered List.mem_cons_self
      (show _ ∈ [WalkStep.enter program] from List.mem_cons_self)
      (.member rfl (by decide) (members ▸ List.mem_cons_self) below)
  have walks : (Walker.subclassing stations .everything).Walks .start
      ((Walker.subclassing stations .everything).rootSteps [.cls station])
      ⟨[(station, [])], []⟩ := .plain rfl rfl (.inl rfl) .done
  obtain ⟨decided, named⟩ := @run_blames stations .everything
    [.cls station, .cls program, .cls broadcast] layered
  obtain ⟨failure, failed⟩ := decided.mpr ⟨.cls program, by simp, alone⟩
  obtain ⟨root, blamed⟩ := named failure failed
  refine ⟨failure, failed, blamed.kind, ?_⟩
  obtain ⟨before, after, split, fine⟩ := blamed.first
  rcases before with _ | ⟨first, _ | ⟨second, rest⟩⟩
  · cases split
    obtain ⟨other, failed⟩ := blamed.fails
    rw [Walker.run_of_walks walks] at failed
    cases failed
  · cases split
    exact blamed.type
  · obtain rfl : second = .cls program := by simp at split; exact split.2.1.symm
    exact absurd alone (fine _ (by simp))

end

end ModelSchema
