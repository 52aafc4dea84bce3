import ModelSchema.Example.Figures
import ModelSchema.Polymorphism.Locator
import ModelSchema.Proofs.Calls
import ModelSchema.Proofs.Class.Hierarchy

/-!
The descendants of a class.

Following the direct subclasses of a class, and theirs, reaches exactly the other classes that have it
among their ancestors. A search that visits them one after the other, and each class once, ends with all
of them. Those that are not in scope, and parametrised models, are visited as well, and left out at the
end.

* `Explored`: what a search from some items has visited when it is over.
* `visits_end`: a search among finitely many items is over at some time.
* `ClassTable.mem_descendants_iff`: the descendants of a class are the classes below it.
* `Locator.subclasses_finds`: so what is found are the classes below it that are in scope and not
  parametrised.
-/

namespace ModelSchema

/-! ### Searches -/

section

variable {α : Type} [DecidableEq α] {next : α → List α}

/-- A visit to an item. One that was seen already leads nowhere; a new one leads to `next`, to the last of
these first. -/
def visit (next : α → List α) (seen : List α) (item : α) : Except Empty (List α × List α) :=
  if item ∈ seen then .ok (seen, []) else .ok (item :: seen, (next item).reverse)

variable {seen pending made final : List α} {outcome : Option Empty}

/-- What has been seen after a search: what had been, and what is pending, each item once, and with a new
item all that it leads to, but nothing else. -/
structure Explored (next : α → List α) (seen pending final : List α) : Prop where
  nodup : seen.Nodup → final.Nodup
  kept : seen ⊆ final
  found : pending ⊆ final
  closed : ∀ item ∈ final, item ∈ seen ∨ next item ⊆ final
  least : ∀ P : α → Prop, (∀ item ∈ seen, P item) → (∀ item ∈ pending, P item) →
    (∀ item, P item → ∀ reached ∈ next item, P reached) → ∀ item ∈ final, P item

theorem Runs.explored (run : Runs (visit next) seen pending made final outcome) :
    Explored next seen pending final := by
  induction run with
  | done => exact ⟨id, fun _ => id, List.nil_subset _, fun _ => .inl, fun _ old _ _ => old⟩
  | @fails seen item rest reason failed => exact reason.elim
  | @makes seen after final item inner rest made outcome isVisit _ ih =>
    unfold visit at isVisit
    split at isVisit
    next old =>
      cases isVisit
      refine ⟨ih.nodup, ih.kept, List.cons_subset.mpr ⟨ih.kept old, ih.found⟩, ih.closed, ?_⟩
      exact fun P known start step =>
        ih.least P known (fun other member => start other (List.mem_cons_of_mem _ member)) step
    next new =>
      cases isVisit
      obtain ⟨here, kept⟩ := List.cons_subset.mp ih.kept
      have leads : next item ⊆ final := fun reached member =>
        ih.found (List.mem_append_left _ (List.mem_reverse.mpr member))
      refine ⟨fun once => ih.nodup (List.nodup_cons.mpr ⟨new, once⟩), kept, List.cons_subset.mpr ⟨here, ?_⟩,
        fun other member => ?_, fun P known start step => ?_⟩
      · exact fun other member => ih.found (List.mem_append_right _ member)
      · rcases ih.closed other member with before | closed
        · rcases List.mem_cons.mp before with rfl | before
          · exact .inr leads
          · exact .inl before
        · exact .inr closed
      · have isP := start item List.mem_cons_self
        refine ih.least P (List.forall_mem_cons.mpr ⟨isP, known⟩) (fun other member => ?_) step
        rcases List.mem_append.mp member with inner | behind
        · exact step item isP other (List.mem_reverse.mp inner)
        · exact start other (List.mem_cons_of_mem _ behind)

/-- A search among finitely many items is over at some time: every new item leaves fewer to see. -/
theorem visits_end {domain : List α} (inside : ∀ item, next item ⊆ domain) (known : pending ⊆ domain) :
    Ends (visit next) seen pending := by
  let level (seen : List α) := (domain.filter fun item => decide (item ∉ seen)).length
  have progress : ∀ seen item after inner, item ∈ domain → visit next seen item = .ok (after, inner) →
      (∀ other ∈ inner, other ∈ domain)
        ∧ (level after < level seen
          ∨ (level after ≤ level seen ∧ ∀ other ∈ inner, emptyRelation other item)) := by
    intro seen item after inner isKnown isVisit
    unfold visit at isVisit
    split at isVisit
    next old =>
      cases isVisit
      exact ⟨fun _ member => absurd member List.not_mem_nil,
        .inr ⟨Nat.le_refl _, fun _ member => absurd member List.not_mem_nil⟩⟩
    next new =>
      cases isVisit
      refine ⟨fun other member => inside item (List.mem_reverse.mp member), .inl ?_⟩
      refine length_filter_lt (fun other => ?_) (by simpa using new) (by simp) isKnown
      simp only [decide_eq_true_eq, List.mem_cons, not_or]
      exact And.right
  exact ends_of_wellFounded level emptyWf.wf progress known

end

/-! ### Classes below a class -/

namespace ClassTable

variable {table : ClassTable}

/-- No other basic class descends from a class. -/
def HasNoBasicBelow (table : ClassTable) (c : ClassRef) : Prop :=
  ∀ b : BasicClass, c ∈ table.ancestors (.basic b) → c = .basic b

theorem hasNoBasicBelow_declared (i : Nat) : table.HasNoBasicBelow (.declared i) := by
  intro b h
  obtain ⟨_, _, same⟩ := isBasic_of_mem_ancestors h
  cases same

theorem hasNoBasicBelow_model : table.HasNoBasicBelow (.basic .model) := by
  intro b h
  have all : ∀ b ∈ BasicClass.all, .model ∈ b.ancestors → .model = b := by decide
  obtain ⟨m, hm, same⟩ := isBasic_of_mem_ancestors h
  cases same
  rw [all b (BasicClass.mem_all b) hm]

theorem directSubclasses_subset (c : ClassRef) : table.directSubclasses c ⊆ table.allClasses :=
  (List.filter_sublist).subset

theorem nodup_directSubclasses (c : ClassRef) : (table.directSubclasses c).Nodup :=
  nodup_allClasses.filter _

/-- All that a descendant leads to is a descendant. -/
theorem descendants_closed {c d : ClassRef} (hd : d ∈ table.descendants c) :
    table.directSubclasses d ⊆ table.descendants c :=
  saturate_closed directSubclasses_subset (List.length_filter_le _ _) d hd

theorem nodup_descendants (c : ClassRef) : (table.descendants c).Nodup :=
  nodup_saturate (nodup_directSubclasses c)

section

variable (layered : table.Layered)
include layered

theorem mem_directSubclasses_iff {c d : ClassRef} :
    d ∈ table.directSubclasses c ↔ c ∈ table.bases d := by
  unfold directSubclasses
  rw [List.mem_filter, List.contains_iff_mem]
  exact ⟨And.right, fun isBase => ⟨(layered.mem_allClasses_of_mem_bases isBase).2, isBase⟩⟩

/-- A base is another class, and an ancestor. -/
theorem below_of_mem_directSubclasses {c d : ClassRef} (h : d ∈ table.directSubclasses c) :
    d ≠ c ∧ c ∈ table.ancestors d := by
  have isBase := (mem_directSubclasses_iff layered).mp h
  obtain ⟨known, knownBelow⟩ := layered.mem_allClasses_of_mem_bases isBase
  refine ⟨fun same => layered.not_mem_bases_self c (same ▸ isBase), ?_⟩
  exact (layered.mem_ancestors_iff knownBelow).mpr (.inr ⟨c, isBase, layered.mem_ancestors_self known⟩)

/-- What a class below another one leads to is below it too. -/
theorem below_of_below {c x y : ClassRef} (below : x ≠ c ∧ c ∈ table.ancestors x)
    (h : y ∈ table.directSubclasses x) : y ≠ c ∧ c ∈ table.ancestors y := by
  obtain ⟨differs, above⟩ := below
  obtain ⟨-, parent⟩ := below_of_mem_directSubclasses layered h
  refine ⟨fun same => ?_, layered.ancestors_trans above parent⟩
  subst same
  exact differs (layered.ancestors_antisymm parent above)

/-- Every class below another one is reached from its direct subclasses. -/
theorem mem_of_below {c d : ClassRef} {reached : List ClassRef}
    (start : table.directSubclasses c ⊆ reached)
    (closed : ∀ x ∈ reached, table.directSubclasses x ⊆ reached)
    (below : d ≠ c ∧ c ∈ table.ancestors d) : d ∈ reached := by
  induction d using layered.all_bases_induction with
  | step d ih =>
    obtain ⟨differs, above⟩ := below
    obtain ⟨base, isBase, above⟩ :=
      ((layered.mem_ancestors_iff (mem_allClasses_of_mem_ancestors above)).mp above).resolve_left
        differs.symm
    have child := (mem_directSubclasses_iff layered).mpr isBase
    by_cases direct : base = c
    · exact start (direct ▸ child)
    · exact closed base (ih base isBase ⟨direct, above⟩) child

/-- What is reached from a class by following direct subclasses is below it. -/
theorem below_of_mem_descendants {c d : ClassRef} (h : d ∈ table.descendants c) :
    d ≠ c ∧ c ∈ table.ancestors d :=
  saturate_induction (P := fun d => d ≠ c ∧ c ∈ table.ancestors d)
    (fun _ => below_of_mem_directSubclasses layered) (fun _ below _ => below_of_below layered below) d h

/-- The descendants of a class are the other classes that have it among their ancestors. -/
theorem mem_descendants_iff {c d : ClassRef} :
    d ∈ table.descendants c ↔ d ≠ c ∧ c ∈ table.ancestors d :=
  ⟨below_of_mem_descendants layered,
    mem_of_below layered (subset_saturate _ _) fun _ => descendants_closed⟩

/-- A search for the descendants of a class sees them, each once. -/
theorem seen_of_search {c : ClassRef} {made seen : List ClassRef} {outcome : Option Empty}
    (run : Runs (visit table.directSubclasses) [] (table.directSubclasses c).reverse made seen outcome) :
    seen.Nodup ∧ ∀ d, d ∈ seen ↔ d ≠ c ∧ c ∈ table.ancestors d := by
  have explored := run.explored
  refine ⟨explored.nodup List.nodup_nil, fun d =>
    ⟨explored.least (fun d => d ≠ c ∧ c ∈ table.ancestors d) ?_ ?_ ?_ d, ?_⟩⟩
  · exact fun _ member => absurd member List.not_mem_nil
  · exact fun x member => below_of_mem_directSubclasses layered (List.mem_reverse.mp member)
  · exact fun _ below _ => below_of_below layered below
  · refine mem_of_below layered (fun x member => explored.found (List.mem_reverse.mpr member)) ?_
    exact fun x member => (explored.closed x member).resolve_left List.not_mem_nil

end

end ClassTable

/-! ### Main result -/

/-- The search for the subtypes of a class ends. What it finds is what it has seen, without the parametrised
models and what is not in scope: all other classes with that class among their ancestors that are not
parametrised and whose module is in scope, each once. -/
theorem Locator.subclasses_finds {table : ClassTable} (layered : table.Layered) (c : ClassRef)
    (scope : Scope) :
    Ends (visit table.directSubclasses) [] (table.directSubclasses c).reverse
      ∧ ∃ found, Locator.subclasses table c scope = .ok found ∧ found.Nodup
        ∧ (∀ made seen outcome,
          Runs (visit table.directSubclasses) [] (table.directSubclasses c).reverse made seen outcome →
          outcome = none
            ∧ found.Perm (seen.filter fun d => !table.isParametrised d && scope.allows table d))
        ∧ ∀ d, d ∈ found ↔ d ≠ c ∧ c ∈ table.ancestors d ∧ table.isParametrised d = false
          ∧ scope.allowsModule (table.module d) = true := by
  refine ⟨visits_end ClassTable.directSubclasses_subset fun d member =>
    ClassTable.directSubclasses_subset c (List.mem_reverse.mp member), _, rfl,
    (ClassTable.nodup_descendants c).filter _, fun made seen outcome run => ?_, fun d => ?_⟩
  · obtain ⟨once, isSeen⟩ := ClassTable.seen_of_search layered run
    refine ⟨?_, List.Perm.filter _ ?_⟩
    · cases outcome with
      | none => rfl
      | some reason => exact reason.elim
    · rw [List.perm_ext_iff_of_nodup (ClassTable.nodup_descendants c) once]
      exact fun d => (ClassTable.mem_descendants_iff layered).trans (isSeen d).symm
  · rw [List.mem_filter, ClassTable.mem_descendants_iff layered, Bool.and_eq_true, Bool.not_eq_true', and_assoc]
    exact Iff.rfl

/-- Reports are found once, past the drafts of another module and past a parametrised model. -/
theorem subclasses_finds_pages :
    ∃ found, Locator.subclasses Example.pages Example.page ⟨["figures"], []⟩ = .ok found
      ∧ found.Nodup ∧ Example.report ∈ found ∧ Example.numberPage ∉ found
      ∧ Example.draft ∉ found := by
  have layered : Example.pages.Layered := by decide
  obtain ⟨-, found, search, once, -, isFound⟩ :=
    Locator.subclasses_finds layered Example.page ⟨["figures"], []⟩
  refine ⟨found, search, once, (isFound _).mpr ?_, fun member => ?_, fun member => ?_⟩
  · exact ⟨by decide, by decide, by decide, by decide +kernel⟩
  · exact absurd ((isFound _).mp member).2.2.1 (by decide)
  · exact absurd ((isFound _).mp member).2.2.2 (by decide +kernel)

end ModelSchema
