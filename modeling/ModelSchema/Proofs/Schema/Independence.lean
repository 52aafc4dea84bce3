import Mathlib
import ModelSchema.Proofs.Class.Hierarchy
import ModelSchema.Proofs.Schema.Branches
import ModelSchema.Proofs.Schema.Closed
import ModelSchema.Proofs.Schema.Dependence
import ModelSchema.Proofs.Shape
import ModelSchema.Schema.Document

/-!
A document does not depend on the other roots of the walk, nor on their order.

The walks from two lists of roots can record a class in different ways. But what a document is made
of was entered by both, and there the subtypes agree.

* `Walker.Complete.entered_of_listed`, `Walker.Complete.entered_of_subType`: whatever a class that was
  entered leads to was entered.
* `document_independent`: a class that both walks have entered has one document.
-/

namespace ModelSchema

/-! ### What a walk has entered -/

section

variable {catalog : Catalog} {scope : Scope} {state : WalkState} {roots : List Ty}
  {kept : Registry} {root c : ClassRef}

namespace Walker

/-- A class of the table that is done was entered. -/
theorem entered_of_isDone {walker : Walker} (isDone : walker.isDone state c = true)
    (known : c ∈ walker.catalog.table.allClasses) : c ∈ state.visited.map (·.1) :=
  (isDone_iff.mp isDone).resolve_right (absurd known)

/-- The properties of a class that was entered lead to classes that were entered. -/
theorem Complete.entered_of_property {walker : Walker} (complete : walker.Complete roots state)
    (entered : c ∈ state.visited.map (·.1)) :
    ∃ props, walker.catalog.table.properties c = .ok props ∧ ∀ p ∈ props, ∀ d,
      .enter d ∈ (walker.catalog.table.form p.annotation).walkSteps →
        d ∈ state.visited.map (·.1) := by
  obtain ⟨entry, member, rfl⟩ := List.mem_map.mp entered
  have finished := complete.finished _ member
  have members := finished.members
  unfold memberSteps at members
  cases found : walker.catalog.table.properties entry.1 with
  | error reason =>
    obtain ⟨_, target, _⟩ := members (.fail reason) (by simp [found])
    cases target
  | ok props =>
    refine ⟨props, rfl, fun p hp d step => ?_⟩
    rw [found] at members
    obtain ⟨_, target, isDone⟩ := members (.enter d)
      (List.mem_append_left _ (List.mem_flatMap.mpr ⟨p, hp, step⟩))
    cases target
    exact entered_of_isDone isDone
      (Form.mem_allClasses_of_enter _ (ClassTable.form_classified _) step)

/-- The closed list of a class that was entered has classes that were entered. -/
theorem Complete.entered_of_listed {walker : Walker} (complete : walker.Complete roots state)
    (wellFormed : walker.catalog.WellFormed) (entered : c ∈ state.visited.map (·.1))
    {entry : ClassRef × Option String} (member : entry ∈ walker.catalog.declaredSubTypes c) :
    entry.1 ∈ state.visited.map (·.1) := by
  obtain ⟨props, found, -⟩ := complete.entered_of_property entered
  obtain ⟨recorded, inside, rfl⟩ := List.mem_map.mp entered
  have members := (complete.finished _ inside).members
  have step : .enter entry.1 ∈ walker.memberSteps recorded.1 := by
    unfold memberSteps Catalog.explicitSubTypes
    rw [found]
    refine List.mem_append_right _ ?_
    rw [List.map_map]
    exact List.mem_map_of_mem member
  obtain ⟨_, target, isDone⟩ := members _ step
  cases target
  exact entered_of_isDone isDone
    (ClassTable.mem_allClasses_of_mem_ancestors (wellFormed.mem_ancestors_of_listed member))

/-- The subtypes that were found for a class are those of some class that was entered. -/
theorem exists_of_mem_foundSubTypes (same : state.registry.SameUpToOrder kept) {d : ClassRef}
    (member : d ∈ (SchemaSource.mk catalog kept root).foundSubTypes c) :
    ∃ above ∈ state.visited, d ∈ above.2 := by
  obtain ⟨e, entry, found, inside⟩ := SchemaSource.exists_of_mem_foundSubTypes member
  obtain ⟨subTypes, above, -, perm⟩ := WalkState.exists_of_entry? same found
  exact ⟨_, above, perm.mem_iff.mp inside⟩

/-- So they were entered as well. -/
theorem Complete.entered_of_found (wellFormed : catalog.WellFormed)
    (complete : (subclassing catalog scope).Complete roots state)
    (same : state.registry.SameUpToOrder kept) {d : ClassRef}
    (member : d ∈ (SchemaSource.mk catalog kept root).foundSubTypes c) :
    d ∈ state.visited.map (·.1) := by
  obtain ⟨above, recorded, inside⟩ := exists_of_mem_foundSubTypes same member
  have isBranch :=
    ((complete.recorded wellFormed.layered recorded (List.ne_nil_of_mem inside)).2 d).mp inside
  obtain ⟨_, below, _⟩ := Catalog.isBranch_iff.mp isBranch
  exact entered_of_isDone ((complete.finished _ recorded).subTypes d inside)
    (ClassTable.mem_allClasses_of_mem_ancestors below)

/-- The subtypes of a class that was entered were entered. -/
theorem Complete.entered_of_subType (wellFormed : catalog.WellFormed)
    (complete : (subclassing catalog scope).Complete roots state)
    (same : state.registry.SameUpToOrder kept) (entered : c ∈ state.visited.map (·.1)) :
    ∀ d ∈ (SchemaSource.mk catalog kept root).subTypes c, d ∈ state.visited.map (·.1) := by
  intro d member
  rcases SchemaSource.listed_or_found member with ⟨entry, listed, rfl⟩ | found
  · exact complete.entered_of_listed wellFormed entered listed
  · exact complete.entered_of_found wellFormed same found

end Walker

namespace Walker

/-- A model among the roots that is no leaf was entered. -/
theorem Complete.entered_of_root {walker : Walker} (complete : walker.Complete roots state)
    (wellFormed : walker.catalog.WellFormed)
    (isModel : walker.catalog.table.isBasicSubclass c .model = true)
    (notLeaf : walker.catalog.table.isLeaf c = false) (member : .cls c ∈ roots) :
    c ∈ state.visited.map (·.1) := by
  have known := ClassTable.mem_allClasses_of_mem_ancestors (ClassTable.isSubclass_iff.mp isModel)
  have notEnumeration := wellFormed.notEnumeration isModel
  have step : .enter c ∈ (walker.catalog.table.form (.cls c)).walkSteps := by
    unfold ClassTable.form
    cases walker.catalog.table.nestingDepth with
    | zero =>
      rw [ClassTable.formWithin, Ty.shape, ClassTable.classShape_of_isModel isModel notLeaf
        notEnumeration]
      exact List.mem_cons_self
    | succ depth =>
      rw [ClassTable.formWithin, Ty.shape, ClassTable.classShape_of_isModel isModel notLeaf
        notEnumeration]
      exact List.mem_cons_self
  obtain ⟨_, target, isDone⟩ := complete.settled _ (List.mem_flatMap.mpr ⟨_, member, step⟩)
  cases target
  exact entered_of_isDone isDone known

end Walker

end

/-! ### Main result -/

section

variable {catalog : Catalog} {scope : Scope} {first second : WalkState} {roots others : List Ty}
  {kept keptElse : Registry} {root : ClassRef}

/-- Two walks agree on the classes that both have entered. -/
theorem agreement_of_complete (wellFormed : catalog.WellFormed)
    (distinct : catalog.table.HasDistinctNames)
    (complete : (Walker.subclassing catalog scope).Complete roots first)
    (completeElse : (Walker.subclassing catalog scope).Complete others second)
    (same : first.registry.SameUpToOrder kept) (sameElse : second.registry.SameUpToOrder keptElse) :
    SchemaSource.Agreement catalog root kept keptElse
      fun c => c ∈ first.visited.map (·.1) ∧ c ∈ second.visited.map (·.1) := by
  have subTypes : ∀ c, c ∈ first.visited.map (·.1) ∧ c ∈ second.visited.map (·.1) →
      SchemaSource.AgreeAt catalog root kept keptElse c := by
    rintro c ⟨here, there⟩
    rw [SchemaSource.AgreeAt, complete.subTypes_eq wellFormed.layered distinct same here,
      completeElse.subTypes_eq wellFormed.layered distinct sameElse there]
  refine ⟨subTypes, fun c entered d member => ⟨?_, ?_⟩, fun c entered props found p hp d step => ?_⟩
  · exact complete.entered_of_subType wellFormed same entered.1 d member
  · rw [subTypes c entered] at member
    exact completeElse.entered_of_subType wellFormed sameElse entered.2 d member
  · obtain ⟨_, found', here⟩ := complete.entered_of_property entered.1
    obtain ⟨_, found'', there⟩ := completeElse.entered_of_property entered.2
    rw [found] at found' found''
    cases found'
    cases found''
    exact ⟨here p hp d step, there p hp d step⟩

/-- The document of a model that is no leaf is the same after the walks from any two lists of roots
that have it among them, in whatever order they kept what they found. -/
theorem document_independent (wellFormed : catalog.WellFormed)
    (distinct : catalog.table.HasDistinctNames)
    (isModel : catalog.table.isBasicSubclass root .model = true)
    (notLeaf : catalog.table.isLeaf root = false) (member : .cls root ∈ roots)
    (memberElse : .cls root ∈ others) {notices noticesElse : List Notice}
    {registry registryElse : Registry}
    (run : (Walker.subclassing catalog scope).run roots = (notices, .ok registry))
    (runElse : (Walker.subclassing catalog scope).run others = (noticesElse, .ok registryElse))
    (same : registry.SameUpToOrder kept) (sameElse : registryElse.SameUpToOrder keptElse) :
    (SchemaSource.mk catalog kept root).tree = (SchemaSource.mk catalog keptElse root).tree
      ∧ ∀ generator : Generator,
        generator.build catalog kept root = generator.build catalog keptElse root := by
  obtain ⟨first, complete, rfl, -⟩ := Walker.complete_of_run run
  obtain ⟨second, completeElse, rfl, -⟩ := Walker.complete_of_run runElse
  have tree := (agreement_of_complete wellFormed distinct complete completeElse same sameElse).tree_eq
    ⟨complete.entered_of_root wellFormed isModel notLeaf member,
      completeElse.entered_of_root wellFormed isModel notLeaf memberElse⟩
  refine ⟨tree, fun generator => ?_⟩
  have body : Generator.body catalog kept root = Generator.body catalog keptElse root := by
    unfold Generator.body
    rw [tree]
  unfold Generator.build
  rw [body]

end

/-! ### Examples -/

section

open Example

/-- The drawing alone, and behind the polygon, from where nothing is found twice. -/
theorem document_independent_drawing :
    (SchemaSource.mk figures [⟨figure, [polygon, square]⟩] drawing).tree
      = (SchemaSource.mk figures [⟨polygon, [square]⟩, ⟨figure, [square, polygon]⟩] drawing).tree := by
  have wellFormed : figures.WellFormed := by decide
  have distinct : figures.table.HasDistinctNames := by decide
  have walks : (Walker.subclassing figures .everything).Walks .start
      ((Walker.subclassing figures .everything).rootSteps [.cls polygon, .cls drawing])
      ⟨[(polygon, [square]), (square, []), (drawing, []), (figure, [polygon, square])],
        [(polygon, 1), (figure, 2)]⟩ := by
    have members : (Walker.subclassing figures .everything).memberSteps drawing
        = [.enter figure, .enter polygon, .enter drawing] := rfl
    have search : (Walker.subclassing figures .everything).search figure = .ok [polygon, square] :=
      rfl
    have search' : (Walker.subclassing figures .everything).search polygon = .ok [square] := rfl
    have sorted : (Walker.subclassing figures .everything).coverSteps [polygon, square]
        = [.cover polygon, .cover square] :=
      congrArg (List.map WalkStep.cover) (List.mergeSort_of_pairwise (by decide))
    have sorted' : (Walker.subclassing figures .everything).coverSteps [square] = [.cover square] :=
      congrArg (List.map WalkStep.cover) (List.mergeSort_singleton square)
    refine .search rfl rfl search' ?_
    rw [sorted']
    refine .plain rfl rfl (.inr rfl) (.plain rfl rfl (.inl rfl) ?_)
    rw [members]
    refine .search rfl rfl search ?_
    rw [sorted]
    exact .skip rfl rfl <| .skip rfl rfl <| .skip rfl rfl <| .skip rfl rfl .done
  have same : Registry.SameUpToOrder [⟨polygon, [square]⟩, ⟨figure, [polygon, square]⟩]
      [⟨polygon, [square]⟩, ⟨figure, [square, polygon]⟩] :=
    .cons ⟨rfl, .refl _⟩ (.cons ⟨rfl, .swap ..⟩ .nil)
  exact (document_independent wellFormed distinct rfl rfl List.mem_cons_self
    (List.mem_cons_of_mem _ List.mem_cons_self) (Walker.run_of_walks walks_figures)
    (Walker.run_of_walks walks) (.refl _) same).1

/-- Links are found below resources, but not entered on their own. -/
theorem walks_links :
    (Walker.subclassing links .everything).Walks .start
      ((Walker.subclassing links .everything).rootSteps [.cls link, .cls resource])
      ⟨[(resource, [link, deepLink]), (link, []), (deepLink, [])], [(resource, 2)]⟩ := by
  have search : (Walker.subclassing links .everything).search resource = .ok [link, deepLink] :=
    rfl
  have sorted : (Walker.subclassing links .everything).coverSteps [link, deepLink]
      = [.cover link, .cover deepLink] :=
    congrArg (List.map WalkStep.cover) (List.mergeSort_of_pairwise (by decide))
  refine .search rfl rfl search ?_
  rw [sorted]
  exact .plain rfl rfl (.inr rfl) <| .plain rfl rfl (.inr rfl) .done

/-- A model that is a leaf is not entered as a root, so that its subtypes depend on the others. -/
theorem document_dependent_of_leaf :
    ¬ ∀ (catalog : Catalog) (scope : Scope) (roots others : List Ty) (root : ClassRef)
      (notices noticesElse : List Notice) (registry registryElse : Registry),
      catalog.WellFormed → catalog.table.HasDistinctNames →
      catalog.table.isBasicSubclass root .model = true → .cls root ∈ roots → .cls root ∈ others →
      (Walker.subclassing catalog scope).run roots = (notices, .ok registry) →
      (Walker.subclassing catalog scope).run others = (noticesElse, .ok registryElse) →
      (SchemaSource.mk catalog registry root).tree
        = (SchemaSource.mk catalog registryElse root).tree := by
  intro independent
  have wellFormed : links.WellFormed := by decide
  have distinct : links.table.HasDistinctNames := by decide
  have alone : (Walker.subclassing links .everything).Walks .start
      ((Walker.subclassing links .everything).rootSteps [.cls link]) .start := .done
  have same := independent links .everything _ _ link _ _ _ _ wellFormed distinct rfl
    List.mem_cons_self List.mem_cons_self (Walker.run_of_walks alone)
    (Walker.run_of_walks walks_links)
  have plain : links.table.HasNoFragments := ClassTable.hasNoFragments_of_declared (by decide)
  have finished : (SchemaSource.mk links [] link).outline.2.isNone = true := by cbv
  have made := SchemaSource.tree_of_outline finished
  have madeElse : (SchemaSource.mk links [⟨resource, [link, deepLink]⟩] link).tree = _ :=
    same.symm.trans made
  have body := SchemaSource.isSome_choice_of_tree (plain.config link) made
  have choice := SchemaSource.isSome_choice_of_tree (plain.config link) madeElse
  have noSubTypes : (SchemaSource.mk links [] link).subTypes link = [] := by cbv
  have subTypes : (SchemaSource.mk links [⟨resource, [link, deepLink]⟩] link).subTypes link
      = [deepLink] := by cbv
  rw [noSubTypes] at body
  rw [subTypes, body] at choice
  cases choice

end

end ModelSchema
