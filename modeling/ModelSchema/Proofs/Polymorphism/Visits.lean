import ModelSchema.Polymorphism.Walk

/-!
What a walk without failure has done.

* `Walker.Walks`: the course of a walk that does all of its steps. Every class is skipped, entered
  with the subtypes that were searched for it, or entered without any.
* `Walks.settled`: no step is left over.
* `Walks.finished`: the steps that a class asks for were done as well, and a class without a search
  of its own is not open or was found together with the subtypes of another one.
-/

namespace ModelSchema

/-- The class a step is about. -/
def WalkStep.target? : WalkStep → Option ClassRef
  | .enter c | .cover c => some c
  | .fail _ => none

namespace Walker

variable {walker : Walker}

/-- The course of a walk without failure, from a state with steps to do to the state at its end. -/
inductive Walks (walker : Walker) : WalkState → List WalkStep → WalkState → Prop where
  | done {state : WalkState} : Walks walker state [] state
  | skip {state final : WalkState} {step : WalkStep} {rest : List WalkStep} {c : ClassRef} :
      step.target? = some c → walker.isDone state c = true → Walks walker state rest final →
      Walks walker state (step :: rest) final
  | search {state final : WalkState} {rest : List WalkStep} {c : ClassRef}
      {subTypes : List ClassRef} :
      walker.isDone state c = false → walker.catalog.isOpen c = true →
      walker.search c = .ok subTypes →
      Walks walker (state.recordSearch c subTypes)
        (walker.memberSteps c ++ walker.coverSteps subTypes ++ rest) final →
      Walks walker state (.enter c :: rest) final
  | plain {state final : WalkState} {step : WalkStep} {rest : List WalkStep} {c : ClassRef} :
      step.target? = some c → walker.isDone state c = false →
      walker.catalog.isOpen c = false ∨ step = .cover c →
      Walks walker (state.record c []) (walker.memberSteps c ++ rest) final →
      Walks walker state (step :: rest) final

/-- A walk that reports no failure has done all of its steps. -/
theorem walks_of_follow {state final : WalkState} {steps : List WalkStep}
    (run : walker.follow state steps = (final, none)) : Walks walker state steps final := by
  fun_induction walker.follow state steps with
  | case1 state => cases run; exact .done
  | case2 state reason rest => cases run
  | case3 state c rest isDone ih => exact .skip rfl isDone (ih run)
  | case4 state c rest pending ih =>
    exact .plain rfl (Bool.eq_false_iff.mpr pending) (.inr rfl) (ih run)
  | case5 state c rest isDone ih => exact .skip rfl isDone (ih run)
  | case6 state c rest pending isOpen reason failed => cases run
  | case7 state c rest pending isOpen subTypes found ih =>
    exact .search (Bool.eq_false_iff.mpr pending) isOpen found (ih run)
  | case8 state c rest pending closed ih =>
    exact .plain rfl (Bool.eq_false_iff.mpr pending) (.inl (Bool.eq_false_iff.mpr closed)) (ih run)

/-- A course that does all steps is the one that is taken. -/
theorem follow_of_walks {state final : WalkState} {steps : List WalkStep}
    (walk : Walks walker state steps final) : walker.follow state steps = (final, none) := by
  induction walk with
  | done => rw [follow]
  | @skip _ _ step _ c target isDone _ ih =>
    cases step with
    | fail => cases target
    | enter d => cases target; rw [follow, dif_pos isDone, ih]
    | cover d => cases target; rw [follow, dif_pos isDone, ih]
  | search pending isOpen found _ ih =>
    rw [follow, dif_neg (Bool.eq_false_iff.mp pending), if_pos isOpen, found]
    exact ih
  | @plain _ _ step _ c target pending closed _ ih =>
    cases step with
    | fail => cases target
    | cover d => cases target; rw [follow, dif_neg (Bool.eq_false_iff.mp pending), ih]
    | enter d =>
      cases target
      have closed := closed.resolve_right (by simp)
      rw [follow, dif_neg (Bool.eq_false_iff.mp pending), if_neg (Bool.eq_false_iff.mp closed), ih]

/-- One walk behind the other. -/
theorem Walks.append {start middle final : WalkState} {steps more : List WalkStep}
    (first : Walks walker start steps middle) (second : Walks walker middle more final) :
    Walks walker start (steps ++ more) final := by
  induction first with
  | done => exact second
  | skip target isDone _ ih => exact .skip target isDone (ih second)
  | search pending isOpen found _ ih =>
    exact .search pending isOpen found (by simpa [List.append_assoc] using ih second)
  | plain target pending closed _ ih =>
    exact .plain target pending closed (by simpa [List.append_assoc] using ih second)

/-- A walk that does some steps and then more comes by a state in which the first are done. -/
theorem Walks.split {start final : WalkState} {all steps more : List WalkStep}
    (walk : Walks walker start all final) (parts : all = steps ++ more) :
    ∃ middle, Walks walker start steps middle ∧ Walks walker middle more final := by
  induction walk generalizing steps with
  | done =>
    obtain ⟨rfl, rfl⟩ := List.append_eq_nil_iff.mp parts.symm
    exact ⟨_, .done, .done⟩
  | skip target isDone walk ih =>
    rcases List.cons_eq_append_iff.mp parts with ⟨rfl, rfl⟩ | ⟨rest, rfl, rfl⟩
    · exact ⟨_, .done, .skip target isDone walk⟩
    · obtain ⟨middle, first, second⟩ := ih rfl
      exact ⟨middle, .skip target isDone first, second⟩
  | search pending isOpen found walk ih =>
    rcases List.cons_eq_append_iff.mp parts with ⟨rfl, rfl⟩ | ⟨rest, rfl, rfl⟩
    · exact ⟨_, .done, .search pending isOpen found walk⟩
    · obtain ⟨middle, first, second⟩ := ih (List.append_assoc ..).symm
      exact ⟨middle, .search pending isOpen found first, second⟩
  | plain target pending closed walk ih =>
    rcases List.cons_eq_append_iff.mp parts with ⟨rfl, rfl⟩ | ⟨rest, rfl, rfl⟩
    · exact ⟨_, .done, .plain target pending closed walk⟩
    · obtain ⟨middle, first, second⟩ := ih (List.append_assoc ..).symm
      exact ⟨middle, .plain target pending closed first, second⟩

/-- The steps that roots ask for. -/
def rootSteps (walker : Walker) (roots : List Ty) : List WalkStep :=
  roots.flatMap fun root => (walker.catalog.table.form root).walkSteps

theorem walks_of_followRoots {state final : WalkState} {roots : List Ty}
    (run : walker.followRoots state roots = (final, none)) :
    Walks walker state (walker.rootSteps roots) final := by
  induction roots generalizing state with
  | nil => cases run; exact .done
  | cons root rest ih =>
    rw [followRoots] at run
    split at run
    next middle first => exact (walks_of_follow first).append (ih run)
    next => cases run

theorem followRoots_of_walks {state final : WalkState} {roots : List Ty}
    (walk : Walks walker state (walker.rootSteps roots) final) :
    walker.followRoots state roots = (final, none) := by
  induction roots generalizing state with
  | nil => cases walk; rfl
  | cons root rest ih =>
    obtain ⟨middle, first, second⟩ := walk.split List.flatMap_cons
    rw [followRoots, follow_of_walks first]
    exact ih second

/-- Runs without failure are walks that do the steps of all roots. -/
theorem run_of_walks {roots : List Ty} {final : WalkState}
    (walk : Walks walker .start (walker.rootSteps roots) final) :
    walker.run roots = (walker.notices final, .ok final.registry) := by
  rw [run, followRoots_of_walks walk]

end Walker

/-! ### Steps -/

mutual

/-- Annotations ask for no class to be covered. -/
theorem Form.cover_notMem_walkSteps {c : ClassRef} :
    ∀ form : Form, .cover c ∉ form.walkSteps
  | .of _ _ shape => by
    rw [Form.walkSteps]
    exact shape.cover_notMem_walkSteps

theorem Shape.cover_notMem_walkSteps {c : ClassRef} :
    ∀ shape : Shape, .cover c ∉ shape.walkSteps
  | .any | .null | .leaf _ | .enumeration _ _ | .unsupported _ => by simp [Shape.walkSteps]
  | .object _ arguments => by
    simpa [Shape.walkSteps] using cover_notMem_walkStepsOf arguments
  | .array element _ => by
    rw [Shape.walkSteps]
    exact element.cover_notMem_walkSteps
  | .fixedArray elements => by
    rw [Shape.walkSteps]
    exact cover_notMem_walkStepsOf elements
  | .map key value => by
    rw [Shape.walkSteps, List.mem_append]
    exact not_or.mpr ⟨key.cover_notMem_walkSteps, value.cover_notMem_walkSteps⟩
  | .union options _ => by
    rw [Shape.walkSteps]
    exact cover_notMem_walkStepsOf options

theorem cover_notMem_walkStepsOf {c : ClassRef} :
    ∀ forms : List Form, .cover c ∉ walkStepsOf forms
  | [] => by simp [walkStepsOf]
  | form :: rest => by
    rw [walkStepsOf, List.mem_append]
    exact not_or.mpr ⟨form.cover_notMem_walkSteps, cover_notMem_walkStepsOf rest⟩

end

namespace Walker

variable {walker : Walker}

theorem cover_notMem_memberSteps {c d : ClassRef} : .cover d ∉ walker.memberSteps c := by
  unfold memberSteps
  split
  · simp
  · rw [List.mem_append, List.mem_flatMap]
    rintro (⟨p, -, h⟩ | h)
    · exact Form.cover_notMem_walkSteps _ h
    · simp at h

theorem cover_mem_coverSteps {c : ClassRef} {subTypes : List ClassRef} :
    .cover c ∈ walker.coverSteps subTypes ↔ c ∈ subTypes := by
  simp [coverSteps, ClassTable.sortedByQualifiedName]

/-- A class is done when it is visited, or not of the table. -/
theorem isDone_iff {state : WalkState} {c : ClassRef} :
    walker.isDone state c = true
      ↔ c ∈ state.visited.map (·.1) ∨ c ∉ walker.catalog.table.allClasses := by
  simp [isDone, WalkState.hasVisited]

/-- A class to enter is of the table, and not visited. -/
theorem isDone_eq_false_iff {state : WalkState} {c : ClassRef} :
    walker.isDone state c = false
      ↔ c ∉ state.visited.map (·.1) ∧ c ∈ walker.catalog.table.allClasses := by
  rw [← Bool.not_eq_true, isDone_iff, not_or, Decidable.not_not]

theorem isDone_mono {before after : WalkState} (kept : before.visited ⊆ after.visited)
    {c : ClassRef} (done : walker.isDone before c = true) : walker.isDone after c = true := by
  rw [isDone_iff] at done ⊢
  exact done.imp_left fun h => List.map_subset _ kept h

theorem isDone_record {state : WalkState} {c : ClassRef} {subTypes : List ClassRef} :
    walker.isDone (state.record c subTypes) c = true := by
  rw [isDone_iff]
  exact .inl (by simp [WalkState.record])

theorem isDone_recordSearch {state : WalkState} {c : ClassRef} {subTypes : List ClassRef} :
    walker.isDone (state.recordSearch c subTypes) c = true := by
  rw [isDone_iff]
  exact .inl (by simp [WalkState.recordSearch])

/-! ### The end of a walk -/

/-- Whether there is nothing to do for a step any more. -/
def Settled (walker : Walker) (state : WalkState) (step : WalkStep) : Prop :=
  ∃ c, step.target? = some c ∧ walker.isDone state c = true

/-- What is known of an entry when all steps are done. -/
structure Finished (walker : Walker) (state : WalkState) (entry : ClassRef × List ClassRef) :
    Prop where
  known : entry.1 ∈ walker.catalog.table.allClasses
  members : ∀ step ∈ walker.memberSteps entry.1, walker.Settled state step
  subTypes : ∀ d ∈ entry.2, walker.isDone state d = true
  origin : (walker.catalog.isOpen entry.1 = true ∧ walker.search entry.1 = .ok entry.2)
    ∨ (entry.2 = [] ∧ (walker.catalog.isOpen entry.1 = false
        ∨ ∃ above ∈ state.visited, entry.1 ∈ above.2))

namespace Walks

variable {state final : WalkState} {steps : List WalkStep}

/-- Entries stay as they are. -/
theorem visited_subset (walk : Walks walker state steps final) :
    state.visited ⊆ final.visited := by
  induction walk with
  | done => exact fun _ h => h
  | skip _ _ _ ih => exact ih
  | search _ _ _ _ ih => exact fun entry h => ih (List.mem_append_left _ h)
  | plain _ _ _ _ ih => exact fun entry h => ih (List.mem_append_left _ h)

/-- No class has two entries. -/
theorem unique (walk : Walks walker state steps final)
    (start : (state.visited.map (·.1)).Nodup) : (final.visited.map (·.1)).Nodup := by
  have grown : ∀ {before : WalkState} {c : ClassRef} {subTypes : List ClassRef},
      (before.visited.map (·.1)).Nodup → walker.isDone before c = false →
      ((before.visited ++ [(c, subTypes)]).map (·.1)).Nodup := by
    intro before c subTypes nodup pending
    rw [List.map_append, List.nodup_append]
    refine ⟨nodup, by simp, ?_⟩
    rintro a ha b hb rfl
    cases List.mem_singleton.mp hb
    exact (isDone_eq_false_iff.mp pending).1 ha
  induction walk with
  | done => exact start
  | skip _ _ _ ih => exact ih start
  | search pending _ _ _ ih => exact ih (grown start pending)
  | plain _ pending _ _ ih => exact ih (grown start pending)

/-- No step is left over. -/
theorem settled (walk : Walks walker state steps final) :
    ∀ step ∈ steps, walker.Settled final step := by
  induction walk with
  | done => exact fun _ h => absurd h List.not_mem_nil
  | skip target isDone walk ih =>
    intro step member
    rcases List.mem_cons.mp member with rfl | later
    · exact ⟨_, target, isDone_mono walk.visited_subset isDone⟩
    · exact ih step later
  | search _ _ _ walk ih =>
    intro step member
    rcases List.mem_cons.mp member with rfl | later
    · exact ⟨_, rfl, isDone_mono walk.visited_subset isDone_recordSearch⟩
    · exact ih step (List.mem_append_right _ later)
  | plain target _ _ walk ih =>
    intro step member
    rcases List.mem_cons.mp member with rfl | later
    · exact ⟨_, target, isDone_mono walk.visited_subset isDone_record⟩
    · exact ih step (List.mem_append_right _ later)

/-- Every class that was entered on the way has asked for its members, and they are done. The steps
that cover a class come from an entry in which it is a subtype. -/
theorem finished (walk : Walks walker state steps final)
    (covered : ∀ c, .cover c ∈ steps → ∃ above ∈ state.visited, c ∈ above.2) :
    ∀ entry ∈ final.visited, entry ∈ state.visited ∨ walker.Finished final entry := by
  induction walk with
  | done => exact fun entry h => .inl h
  | skip _ _ _ ih => exact ih fun c h => covered c (List.mem_cons_of_mem _ h)
  | @search state final rest c subTypes pending isOpen found walk ih =>
    intro entry member
    have inner : ∀ d, .cover d ∈ walker.memberSteps c ++ walker.coverSteps subTypes ++ rest →
        ∃ above ∈ (state.recordSearch c subTypes).visited, d ∈ above.2 := by
      intro d h
      rcases List.mem_append.mp h with ours | later
      · rcases List.mem_append.mp ours with member | cover
        · exact absurd member cover_notMem_memberSteps
        · exact ⟨(c, subTypes), List.mem_append_right _ List.mem_cons_self,
            cover_mem_coverSteps.mp cover⟩
      · obtain ⟨above, hv, hd⟩ := covered d (List.mem_cons_of_mem _ later)
        exact ⟨above, List.mem_append_left _ hv, hd⟩
    rcases ih inner entry member with old | finished
    · rcases List.mem_append.mp old with before | here
      · exact .inl before
      · cases List.mem_singleton.mp here
        have settled := walk.settled
        refine .inr ⟨(isDone_eq_false_iff.mp pending).2, fun step h => ?_, fun d h => ?_,
          .inl ⟨isOpen, found⟩⟩
        · exact settled step (List.mem_append_left _ (List.mem_append_left _ h))
        · obtain ⟨d', target, isDone⟩ := settled (.cover d)
            (List.mem_append_left _ (List.mem_append_right _ (cover_mem_coverSteps.mpr h)))
          cases target
          exact isDone
    · exact .inr finished
  | @plain state final step rest c target pending closed walk ih =>
    intro entry member
    have inner : ∀ d, .cover d ∈ walker.memberSteps c ++ rest →
        ∃ above ∈ (state.record c []).visited, d ∈ above.2 := by
      intro d h
      rcases List.mem_append.mp h with member | later
      · exact absurd member cover_notMem_memberSteps
      · obtain ⟨above, hv, hd⟩ := covered d (List.mem_cons_of_mem _ later)
        exact ⟨above, List.mem_append_left _ hv, hd⟩
    rcases ih inner entry member with old | finished
    · rcases List.mem_append.mp old with before | here
      · exact .inl before
      · cases List.mem_singleton.mp here
        refine .inr ⟨(isDone_eq_false_iff.mp pending).2, fun step h => ?_, by simp,
          .inr ⟨rfl, ?_⟩⟩
        · exact walk.settled step (List.mem_append_left _ h)
        · refine closed.imp_right fun same => ?_
          obtain ⟨above, hv, hc⟩ := covered c (same ▸ List.mem_cons_self)
          exact ⟨above, walk.visited_subset (List.mem_append_left _ hv), hc⟩
    · exact .inr finished

end Walks

/-! ### Runs -/

/-- The classes that a walk from some roots enters. -/
def classesVisited (walker : Walker) (roots : List Ty) : List ClassRef :=
  (walker.followRoots .start roots).1.visited.map (·.1)

/-- What a run without failure has done: all steps of the roots and of every class that it entered.
-/
structure Complete (walker : Walker) (roots : List Ty) (state : WalkState) : Prop where
  unique : (state.visited.map (·.1)).Nodup
  settled : ∀ step ∈ walker.rootSteps roots, walker.Settled state step
  finished : ∀ entry ∈ state.visited, walker.Finished state entry

theorem complete_of_run {roots : List Ty} {notices : List Notice} {registry : Registry}
    (run : walker.run roots = (notices, .ok registry)) :
    ∃ state, walker.Complete roots state ∧ registry = state.registry
      ∧ walker.classesVisited roots = state.visited.map (·.1) := by
  unfold Walker.run at run
  cases followed : walker.followRoots .start roots with
  | mk state failure =>
    rw [followed] at run
    cases failure with
    | some failure => cases run
    | none =>
      cases run
      have walk := walks_of_followRoots followed
      have nothing : ∀ c, .cover c ∉ walker.rootSteps roots := by
        intro c h
        obtain ⟨root, -, h⟩ := List.mem_flatMap.mp h
        exact Form.cover_notMem_walkSteps _ h
      refine ⟨state, ⟨walk.unique (by simp [WalkState.start]), walk.settled, ?_⟩, rfl, ?_⟩
      · intro entry member
        refine (walk.finished (fun c h => absurd h (nothing c)) entry member).resolve_left ?_
        simp [WalkState.start]
      · rw [classesVisited, followed]

end Walker

end ModelSchema
