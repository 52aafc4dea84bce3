import Mathlib.Data.List.Forall2
import Mathlib.Data.List.Nodup
import ModelSchema.Example.Figures
import ModelSchema.Polymorphism.Registry
import ModelSchema.Proofs.Polymorphism.Descendants
import ModelSchema.Proofs.Polymorphism.Visits

/-!
The branches of a class do not depend on the walk.

A class can have an entry of its own, or none because it was covered from above or because nothing
was found for it. In each case the subtypes read off the registry are those a search for the class
itself would find.

* `SchemaSource.sorted_eq_of_perm`: where distinct classes have distinct qualified names, a set of
  classes has one order of branches, whatever the order in which the classes were found.
* `Catalog.branches`: the subtypes of a class, said without a walk.
* `Registry.SameUpToOrder`: one registry, with the subtypes of every entry in some other order.
* `subTypes_eq_branches`: both agree on every class that a walk has entered.
-/

namespace ModelSchema

/-! ### The order of branches -/

namespace ClassTable

/-- Distinct declared classes have distinct qualified names. -/
def HasDistinctNames (table : ClassTable) : Prop :=
  ∀ c ∈ table.declared, ∀ d ∈ table.declared, table.qualifiedName c = table.qualifiedName d → c = d

instance {table : ClassTable} : Decidable table.HasDistinctNames :=
  inferInstanceAs (Decidable (∀ c ∈ table.declared, ∀ d ∈ table.declared,
    table.qualifiedName c = table.qualifiedName d → c = d))

end ClassTable

namespace SchemaSource

variable {table : ClassTable}

theorem branchOrder_iff {c d : ClassRef} :
    branchOrder table c d = true ↔ table.name c ≤ table.name d
      ∧ (table.name c = table.name d → table.qualifiedName c ≤ table.qualifiedName d) := by
  unfold branchOrder
  split
  next same => simp [same]
  next differ => simp [differ]

theorem branchOrder_trans (a b c : ClassRef) (hab : branchOrder table a b = true)
    (hbc : branchOrder table b c = true) : branchOrder table a c = true := by
  rw [branchOrder_iff] at *
  refine ⟨String.le_trans hab.1 hbc.1, fun same => ?_⟩
  have ab : table.name a = table.name b := String.le_antisymm hab.1 (same ▸ hbc.1)
  exact String.le_trans (hab.2 ab) (hbc.2 (ab ▸ same))

theorem branchOrder_total (a b : ClassRef) :
    (branchOrder table a b || branchOrder table b a) = true := by
  rw [Bool.or_eq_true, branchOrder_iff, branchOrder_iff]
  by_cases same : table.name a = table.name b
  · rcases String.le_total (table.qualifiedName a) (table.qualifiedName b) with le | ge
    · exact .inl ⟨same ▸ String.le_refl _, fun _ => le⟩
    · exact .inr ⟨same ▸ String.le_refl _, fun _ => ge⟩
  · rcases String.le_total (table.name a) (table.name b) with le | ge
    · exact .inl ⟨le, fun h => absurd h same⟩
    · exact .inr ⟨ge, fun h => absurd h.symm same⟩

/-- Classes that come before each other have one qualified name. -/
theorem qualifiedName_eq_of_branchOrder {a b : ClassRef} (hab : branchOrder table a b = true)
    (hba : branchOrder table b a = true) : table.qualifiedName a = table.qualifiedName b := by
  rw [branchOrder_iff] at hab hba
  have same := String.le_antisymm hab.1 hba.1
  exact String.le_antisymm (hab.2 same) (hba.2 same.symm)

/-- Declared classes have one order of branches, in whatever order they are found. -/
theorem sorted_eq_of_perm (distinct : table.HasDistinctNames) {found found' : List ClassRef}
    (perm : found.Perm found') (declared : ∀ c ∈ found, c ∈ table.declared) :
    found.mergeSort (branchOrder table) = found'.mergeSort (branchOrder table) := by
  have perm' := ((List.mergeSort_perm found (branchOrder table)).trans perm).trans
    (List.mergeSort_perm found' (branchOrder table)).symm
  have apart : ∀ a b, a ∈ found.mergeSort (branchOrder table) →
      b ∈ found'.mergeSort (branchOrder table) → branchOrder table a b = true →
      branchOrder table b a = true → a = b := by
    intro a b ha hb hab hba
    have ha := List.mem_mergeSort.mp ha
    have hb := perm.mem_iff.mpr (List.mem_mergeSort.mp hb)
    exact distinct a (declared a ha) b (declared b hb) (qualifiedName_eq_of_branchOrder hab hba)
  exact perm'.eq_of_pairwise apart (List.pairwise_mergeSort branchOrder_trans branchOrder_total found)
    (List.pairwise_mergeSort branchOrder_trans branchOrder_total found')

end SchemaSource

/-! ### The specification -/

namespace Catalog

/-- Whether a class is a subtype of another one that a search in a scope has to find. -/
def isBranch (catalog : Catalog) (scope : Scope) (c d : ClassRef) : Bool :=
  d != c && catalog.table.isSubclass d c && !catalog.table.isParametrised d
    && scope.allows catalog.table d

/-- The subtypes of a class: its closed list as declared, or else, when the class is open, all that
are in scope, by name and then by qualified name. -/
def branches (catalog : Catalog) (scope : Scope) (c : ClassRef) : List ClassRef :=
  match catalog.declaredSubTypes c with
  | [] =>
    if catalog.isOpen c then
      (catalog.table.allClasses.filter (catalog.isBranch scope c)).mergeSort
        (SchemaSource.branchOrder catalog.table)
    else []
  | entries => entries.map (·.1)

theorem isBranch_iff {catalog : Catalog} {scope : Scope} {c d : ClassRef} :
    catalog.isBranch scope c d = true ↔ d ≠ c ∧ c ∈ catalog.table.ancestors d
      ∧ catalog.table.isParametrised d = false ∧ scope.allows catalog.table d = true := by
  simp [isBranch, ClassTable.isSubclass_iff, and_assoc]

end Catalog

/-! ### Registries up to order -/

namespace Registry

/-- Whether two registries have the same entries, but for the order of the subtypes in each. -/
def SameUpToOrder (registry other : Registry) : Prop :=
  List.Forall₂ (fun p q => p.type = q.type ∧ p.subTypes.Perm q.subTypes) registry other

theorem SameUpToOrder.refl (registry : Registry) : registry.SameUpToOrder registry :=
  List.forall₂_same.mpr fun _ _ => ⟨rfl, .refl _⟩

/-- Entries of one class correspond. -/
theorem SameUpToOrder.entry? {registry other : Registry} (same : registry.SameUpToOrder other)
    (c : ClassRef) :
    Option.Rel (fun p q => p.type = q.type ∧ p.subTypes.Perm q.subTypes) (registry.entry? c)
      (other.entry? c) := by
  induction same with
  | nil => exact .none
  | @cons p q _ _ related _ ih =>
    unfold Registry.entry? at ih ⊢
    by_cases here : p.type = c
    · have there : q.type = c := related.1 ▸ here
      rw [List.find?_cons_of_pos (by simpa using here), List.find?_cons_of_pos (by simpa using there)]
      exact .some related
    · have there : q.type ≠ c := related.1 ▸ here
      rw [List.find?_cons_of_neg (by simpa using here), List.find?_cons_of_neg (by simpa using there)]
      exact ih

end Registry

/-- Where no class has two entries, the entry of a class is the one with its name. -/
theorem Registry.entry?_of_mem {registry : Registry} (unique : (registry.map (·.type)).Nodup)
    {entry : PolymorphicType} (member : entry ∈ registry) :
    registry.entry? entry.type = some entry := by
  unfold Registry.entry?
  induction registry with
  | nil => exact absurd member List.not_mem_nil
  | cons first rest ih =>
    rw [List.map_cons, List.nodup_cons] at unique
    rcases List.mem_cons.mp member with rfl | later
    · exact List.find?_cons_of_pos (by simp)
    · have differs : first.type ≠ entry.type := fun same =>
        unique.1 (same ▸ List.mem_map_of_mem later)
      rw [List.find?_cons_of_neg (by simpa using differs)]
      exact ih unique.2 later

theorem Registry.mem_of_entry? {registry : Registry} {c : ClassRef} {entry : PolymorphicType}
    (found : registry.entry? c = some entry) : entry ∈ registry ∧ entry.type = c :=
  ⟨List.mem_of_find?_eq_some found, by simpa using List.find?_some found⟩

namespace WalkState

variable {state : WalkState}

/-- The registry has the classes that were recorded with some subtype. -/
theorem mem_registry_iff {entry : PolymorphicType} :
    entry ∈ state.registry ↔ (entry.type, entry.subTypes) ∈ state.visited ∧ entry.subTypes ≠ [] := by
  unfold registry
  rw [List.mem_filterMap]
  constructor
  · rintro ⟨⟨c, subTypes⟩, member, made⟩
    cases subTypes with
    | nil => cases made
    | cons => cases made; exact ⟨member, List.cons_ne_nil _ _⟩
  · rintro ⟨member, something⟩
    refine ⟨_, member, ?_⟩
    simp [something]

theorem unique_registry (unique : (state.visited.map (·.1)).Nodup) :
    (state.registry.map (·.type)).Nodup := by
  refine unique.sublist ?_
  unfold registry
  induction state.visited with
  | nil => exact .slnil
  | cons first rest ih =>
    obtain ⟨c, subTypes⟩ := first
    cases subTypes with
    | nil => exact ih.cons c
    | cons => exact ih.cons_cons c

variable {kept : Registry} {c : ClassRef}

/-- What a registry tells of a class that was entered. -/
theorem subTypesOf_perm (unique : (state.visited.map (·.1)).Nodup)
    (same : state.registry.SameUpToOrder kept) {subTypes : List ClassRef}
    (member : (c, subTypes) ∈ state.visited) : (kept.subTypesOf c).Perm subTypes := by
  have related := same.entry? c
  unfold Registry.subTypesOf
  generalize kept.entry? c = there at related ⊢
  cases subTypes with
  | nil =>
    cases found : state.registry.entry? c with
    | none => rw [found] at related; cases related; exact .nil
    | some entry =>
      obtain ⟨inside, rfl⟩ := Registry.mem_of_entry? found
      obtain ⟨recorded, something⟩ := mem_registry_iff.mp inside
      exact absurd (congrArg Prod.snd (List.inj_on_of_nodup_map unique recorded member rfl))
        something
  | cons d rest =>
    have inside : ⟨c, d :: rest⟩ ∈ state.registry :=
      mem_registry_iff.mpr ⟨member, List.cons_ne_nil _ _⟩
    have found := Registry.entry?_of_mem (unique_registry unique) inside
    rw [found] at related
    cases related with
    | some related => exact related.2.symm

/-- The entries of a registry have the subtypes that were recorded. -/
theorem exists_of_entry? (same : state.registry.SameUpToOrder kept) {entry : PolymorphicType}
    (found : kept.entry? c = some entry) :
    ∃ subTypes, (c, subTypes) ∈ state.visited ∧ subTypes ≠ []
      ∧ entry.subTypes.Perm subTypes := by
  have related := same.entry? c
  rw [found] at related
  cases before : state.registry.entry? c with
  | none => rw [before] at related; cases related
  | some first =>
    rw [before] at related
    cases related with
    | some related =>
      obtain ⟨inside, rfl⟩ := Registry.mem_of_entry? before
      obtain ⟨recorded, something⟩ := mem_registry_iff.mp inside
      exact ⟨_, recorded, something, related.2.symm⟩

/-- A class that was recorded with some subtype has an entry. -/
theorem entry?_ne_none (unique : (state.visited.map (·.1)).Nodup)
    (same : state.registry.SameUpToOrder kept) {subTypes : List ClassRef}
    (member : (c, subTypes) ∈ state.visited) (something : subTypes ≠ []) :
    kept.entry? c ≠ none := by
  have perm := subTypesOf_perm unique same member
  intro nothing
  rw [Registry.subTypesOf, nothing] at perm
  exact something perm.nil_eq.symm

end WalkState

/-! ### Searches -/

namespace ClassTable

variable {table : ClassTable}

/-- Only models have properties. -/
theorem isModel_of_properties {c : ClassRef} {props : List Property}
    (found : table.properties c = .ok props) : .basic .model ∈ table.ancestors c := by
  by_cases isModel : table.isBasicSubclass c .model
  · exact isSubclass_iff.mp isModel
  · simp [properties, requireComplete, isModel] at found
    cases found

/-- No basic class descends from a model. -/
theorem hasNoBasicBelow_of_isModel {c : ClassRef} (isModel : .basic .model ∈ table.ancestors c) :
    table.HasNoBasicBelow c := by
  cases c with
  | declared i => exact hasNoBasicBelow_declared i
  | basic b =>
    have all : ∀ b ∈ BasicClass.all, .model ∈ b.ancestors → b = .model := by decide
    obtain ⟨m, hm, same⟩ := isBasic_of_mem_ancestors isModel
    cases same
    rw [all b (BasicClass.mem_all b) hm]
    exact hasNoBasicBelow_model

end ClassTable

section

variable {catalog : Catalog} {scope : Scope} {state : WalkState} {c : ClassRef}

/-- The walk that searches among the declared subclasses. -/
abbrev Walker.subclassing (catalog : Catalog) (scope : Scope) : Walker :=
  ⟨catalog, Locator.subclasses, scope⟩

/-- A search finds the subtypes of a class, each once. -/
theorem mem_of_search (layered : catalog.table.Layered) {found : List ClassRef}
    (search : (Walker.subclassing catalog scope).search c = .ok found) :
    found.Nodup ∧ ∀ d, d ∈ found ↔ catalog.isBranch scope c d = true := by
  cases search
  refine ⟨nodup_eraseDups _, fun d => ?_⟩
  rw [List.mem_eraseDups, List.mem_filter, Catalog.isBranch_iff,
    ClassTable.mem_descendants_iff layered]
  simp [and_assoc]

/-- Every class that a walk has entered is a model. -/
theorem Walker.Finished.isModel {walker : Walker} {entry : ClassRef × List ClassRef}
    (finished : walker.Finished state entry) :
    .basic .model ∈ walker.catalog.table.ancestors entry.1 := by
  cases found : walker.catalog.table.properties entry.1 with
  | ok props => exact ClassTable.isModel_of_properties found
  | error reason =>
    obtain ⟨_, target, _⟩ := finished.members (.fail reason) (by simp [memberSteps, found])
    cases target

/-! ### One entry for all -/

variable {roots : List Ty} {kept : Registry} {root : ClassRef}

/-- What was recorded for a class, if it is anything, is what a search for the class finds. -/
theorem Walker.Complete.recorded (layered : catalog.table.Layered)
    (complete : (Walker.subclassing catalog scope).Complete roots state)
    {subTypes : List ClassRef} (member : (c, subTypes) ∈ state.visited)
    (something : subTypes ≠ []) :
    subTypes.Nodup ∧ ∀ d, d ∈ subTypes ↔ catalog.isBranch scope c d = true := by
  have finished := complete.finished _ member
  rcases finished.origin with ⟨_, search⟩ | ⟨nothing, _⟩
  · exact mem_of_search layered search
  · exact absurd nothing something

/-- A subtype of a class is one of every class above it, except of itself. -/
theorem isBranch_of_isBranch (layered : catalog.table.Layered) {above d : ClassRef}
    (differs : above ≠ c) (below : above ∈ catalog.table.ancestors c)
    (isBranch : catalog.isBranch scope c d = true) : catalog.isBranch scope above d = true := by
  rw [Catalog.isBranch_iff] at isBranch ⊢
  obtain ⟨_, hd, rest⟩ := isBranch
  refine ⟨fun same => ?_, layered.ancestors_trans below hd, rest⟩
  subst same
  exact differs (layered.ancestors_antisymm below hd)

/-- The subtypes of an open class that was entered are done, also when they were not searched for
on their own but found together with those of a class above. -/
theorem Walker.Complete.isDone_of_search (layered : catalog.table.Layered)
    (complete : (Walker.subclassing catalog scope).Complete roots state)
    (entered : c ∈ state.visited.map (·.1)) (isOpen : catalog.isOpen c = true)
    {d : ClassRef} {subTypes : List ClassRef}
    (found : (Walker.subclassing catalog scope).search c = .ok subTypes)
    (member : d ∈ subTypes) : (Walker.subclassing catalog scope).isDone state d = true := by
  obtain ⟨⟨c, own⟩, recorded, rfl⟩ := List.mem_map.mp entered
  have finished := complete.finished _ recorded
  rcases finished.origin with ⟨-, search⟩ | ⟨-, closed | ⟨above, inside, covered⟩⟩
  · rw [found] at search
    cases search
    exact finished.subTypes d member
  · exact absurd isOpen (Bool.eq_false_iff.mp closed)
  · have isBranch := ((mem_of_search layered found).2 d).mp member
    have wider := (complete.recorded layered inside (List.ne_nil_of_mem covered)).2
    obtain ⟨differs, below, -⟩ := Catalog.isBranch_iff.mp ((wider c).mp covered)
    have inherited := isBranch_of_isBranch layered differs.symm below isBranch
    exact (complete.finished _ inside).subTypes d ((wider d).mpr inherited)

/-- The subtypes of a model are declared classes. -/
theorem declared_of_isBranch (isModel : .basic .model ∈ catalog.table.ancestors c) {d : ClassRef}
    (isBranch : catalog.isBranch scope c d = true) : d ∈ catalog.table.declared := by
  obtain ⟨differs, below, _⟩ := Catalog.isBranch_iff.mp isBranch
  cases d with
  | basic b => exact absurd (ClassTable.hasNoBasicBelow_of_isModel isModel b below).symm differs
  | declared i =>
    exact ClassTable.declared_mem_declared.mpr
      (ClassTable.declared_mem_allClasses.mp (ClassTable.mem_allClasses_of_mem_ancestors below))

/-- A class without an entry has those subtypes of its nearest ancestor with an entry that are its
own. There is such an ancestor when it was covered; when it was not, it has no subtypes. -/
theorem mem_inheritedSubTypes_iff (layered : catalog.table.Layered)
    (complete : (Walker.subclassing catalog scope).Complete roots state)
    (same : state.registry.SameUpToOrder kept) (member : (c, []) ∈ state.visited)
    (isOpen : catalog.isOpen c = true) (d : ClassRef) :
    d ∈ (SchemaSource.mk catalog kept root).inheritedSubTypes c
      ↔ catalog.isBranch scope c d = true := by
  have finished := complete.finished _ member
  unfold SchemaSource.inheritedSubTypes
  dsimp only
  cases nearest : (catalog.table.ancestors c).tail.findSome? kept.entry? with
  | some entry =>
    obtain ⟨before, above, after, split, found, _⟩ := List.findSome?_eq_some_iff.mp nearest
    have below : above ∈ catalog.table.ancestors c :=
      List.mem_of_mem_tail (split ▸ List.mem_append_right _ List.mem_cons_self)
    obtain ⟨subTypes, recorded, something, perm⟩ := WalkState.exists_of_entry? same found
    have differs : above ≠ c := by
      rintro rfl
      exact something (congrArg Prod.snd
        (List.inj_on_of_nodup_map complete.unique recorded member rfl))
    have hmem := (complete.recorded layered recorded something).2
    rw [List.mem_filter, perm.mem_iff, hmem, Bool.and_eq_true, bne_iff_ne,
      ClassTable.isSubclass_iff]
    constructor
    · rintro ⟨isBranch, other, hd⟩
      obtain ⟨_, _, rest⟩ := Catalog.isBranch_iff.mp isBranch
      exact Catalog.isBranch_iff.mpr ⟨other, hd, rest⟩
    · intro isBranch
      obtain ⟨other, hd, _⟩ := Catalog.isBranch_iff.mp isBranch
      exact ⟨isBranch_of_isBranch layered differs below isBranch, other, hd⟩
  | none =>
    refine iff_of_false List.not_mem_nil fun isBranch => ?_
    rcases finished.origin with ⟨_, search⟩ | ⟨_, closed | ⟨above, recorded, covered⟩⟩
    · exact absurd (((mem_of_search layered search).2 d).mpr isBranch)
        List.not_mem_nil
    · exact absurd isOpen (Bool.eq_false_iff.mp closed)
    · have something := List.ne_nil_of_mem covered
      have isBelow := ((complete.recorded layered recorded something).2 c).mp covered
      obtain ⟨differs, below, _⟩ := Catalog.isBranch_iff.mp isBelow
      have inTail := layered.mem_tail_of_mem_ancestors below differs.symm
      exact WalkState.entry?_ne_none complete.unique same recorded something
        (List.findSome?_eq_none_iff.mp nearest _ inTail)

theorem nodup_inheritedSubTypes (layered : catalog.table.Layered)
    (complete : (Walker.subclassing catalog scope).Complete roots state)
    (same : state.registry.SameUpToOrder kept) :
    ((SchemaSource.mk catalog kept root).inheritedSubTypes c).Nodup := by
  unfold SchemaSource.inheritedSubTypes
  dsimp only
  split
  next entry nearest =>
    obtain ⟨_, above, _, _, found, _⟩ := List.findSome?_eq_some_iff.mp nearest
    obtain ⟨subTypes, recorded, something, perm⟩ := WalkState.exists_of_entry? same found
    have nodup := (complete.recorded layered recorded something).1
    exact (perm.nodup_iff.mpr nodup).filter _
  next => exact List.nodup_nil

/-- The subtypes found for an open class that was entered are those a search for it finds. -/
theorem foundSubTypes_perm (layered : catalog.table.Layered)
    (complete : (Walker.subclassing catalog scope).Complete roots state)
    (same : state.registry.SameUpToOrder kept) {subTypes : List ClassRef}
    (member : (c, subTypes) ∈ state.visited) (isOpen : catalog.isOpen c = true) :
    ((SchemaSource.mk catalog kept root).foundSubTypes c).Perm
      (catalog.table.allClasses.filter (catalog.isBranch scope c)) := by
  have perm := WalkState.subTypesOf_perm complete.unique same member
  have inTable : ∀ d, catalog.isBranch scope c d = true → d ∈ catalog.table.allClasses :=
    fun d h => ClassTable.mem_allClasses_of_mem_ancestors (Catalog.isBranch_iff.mp h).2.1
  have nodup : (catalog.table.allClasses.filter (catalog.isBranch scope c)).Nodup :=
    ClassTable.nodup_allClasses.filter _
  unfold SchemaSource.foundSubTypes
  dsimp only
  cases subTypes with
  | nil =>
    rw [perm.eq_nil, List.isEmpty_nil, isOpen, Bool.and_self, if_pos rfl]
    refine (List.perm_ext_iff_of_nodup ?_ nodup).mpr fun d => ?_
    · exact nodup_inheritedSubTypes layered complete same
    · rw [mem_inheritedSubTypes_iff layered complete same member isOpen, List.mem_filter]
      exact ⟨fun h => ⟨inTable d h, h⟩, fun h => h.2⟩
  | cons e rest =>
    have something : e :: rest ≠ [] := List.cons_ne_nil _ _
    obtain ⟨nodup', hmem⟩ := complete.recorded layered member something
    have nonempty : (kept.subTypesOf c).isEmpty = false := by
      rw [perm.isEmpty_eq, List.isEmpty_cons]
    rw [nonempty, Bool.false_and, if_neg Bool.false_ne_true]
    refine perm.trans ((List.perm_ext_iff_of_nodup nodup' nodup).mpr fun d => ?_)
    rw [hmem, List.mem_filter]
    exact ⟨fun h => ⟨inTable d h, h⟩, fun h => h.2⟩

/-- A class that was entered and is not open has no subtypes but those of its closed list. -/
theorem foundSubTypes_of_not_isOpen
    (complete : (Walker.subclassing catalog scope).Complete roots state)
    (same : state.registry.SameUpToOrder kept) {subTypes : List ClassRef}
    (member : (c, subTypes) ∈ state.visited) (closed : catalog.isOpen c = false) :
    (SchemaSource.mk catalog kept root).foundSubTypes c = [] := by
  have perm := WalkState.subTypesOf_perm complete.unique same member
  have nothing : subTypes = [] := by
    rcases (complete.finished _ member).origin with ⟨isOpen, _⟩ | ⟨nothing, _⟩
    · exact absurd isOpen (Bool.eq_false_iff.mp closed)
    · exact nothing
  unfold SchemaSource.foundSubTypes
  dsimp only
  rw [closed, Bool.and_false, if_neg Bool.false_ne_true]
  exact (nothing ▸ perm).eq_nil

/-- The subtypes of a class that was entered are its branches. -/
theorem Walker.Complete.subTypes_eq (layered : catalog.table.Layered)
    (distinct : catalog.table.HasDistinctNames)
    (complete : (Walker.subclassing catalog scope).Complete roots state)
    (same : state.registry.SameUpToOrder kept) (entered : c ∈ state.visited.map (·.1)) :
    (SchemaSource.mk catalog kept root).subTypes c = catalog.branches scope c := by
  obtain ⟨⟨d, subTypes⟩, member, rfl⟩ := List.mem_map.mp entered
  unfold SchemaSource.subTypes Catalog.branches Catalog.explicitSubTypes
  dsimp only
  cases catalog.declaredSubTypes d with
  | cons first rest => simp
  | nil =>
    cases isOpen : catalog.isOpen d with
    | false => simp [foundSubTypes_of_not_isOpen complete same member isOpen]
    | true =>
      have perm : ((SchemaSource.mk catalog kept root).foundSubTypes d).Perm
          (catalog.table.allClasses.filter (catalog.isBranch scope d)) :=
        foundSubTypes_perm layered complete same member isOpen
      refine SchemaSource.sorted_eq_of_perm distinct perm fun s hs => ?_
      have isBranch := (List.mem_filter.mp (perm.mem_iff.mp hs)).2
      exact declared_of_isBranch (complete.finished _ member).isModel isBranch

/-! ### Main result -/

/-- After a walk, in whatever order it went and in whatever order it kept what it found, the
subtypes of every class that it entered are the closed list of the class, or else all subtypes in
scope when the class is open, or else none. -/
theorem subTypes_eq_branches (layered : catalog.table.Layered)
    (distinct : catalog.table.HasDistinctNames) {notices : List Notice} {registry : Registry}
    (run : (Walker.subclassing catalog scope).run roots = (notices, .ok registry))
    (same : registry.SameUpToOrder kept)
    (entered : c ∈ (Walker.subclassing catalog scope).classesVisited roots) :
    (SchemaSource.mk catalog kept root).subTypes c = catalog.branches scope c := by
  obtain ⟨state, complete, rfl, visited⟩ := Walker.complete_of_run run
  exact complete.subTypes_eq layered distinct same (visited ▸ entered)

end

/-! ### An example -/

section

open Example

/-- Drawings lead to figures, below which polygons and squares are covered. -/
theorem walks_figures :
    (Walker.subclassing figures .everything).Walks .start
      ((Walker.subclassing figures .everything).rootSteps [.cls drawing])
      ⟨[(drawing, []), (figure, [polygon, square]), (polygon, []), (square, [])],
        [(figure, 2)]⟩ := by
  have members : (Walker.subclassing figures .everything).memberSteps drawing
      = [.enter figure, .enter polygon, .enter drawing] := rfl
  have search : (Walker.subclassing figures .everything).search figure = .ok [polygon, square] :=
    rfl
  have sorted : (Walker.subclassing figures .everything).coverSteps [polygon, square]
      = [.cover polygon, .cover square] :=
    congrArg (List.map WalkStep.cover) (List.mergeSort_of_pairwise (by decide))
  refine .plain rfl rfl (.inl rfl) ?_
  rw [members]
  refine .search rfl rfl search ?_
  rw [sorted]
  exact .plain rfl rfl (.inr rfl) <| .plain rfl rfl (.inr rfl) <| .skip rfl rfl <|
    .skip rfl rfl .done

/-- Polygons are covered by figures, so that squares are inherited, and kept in another order. -/
theorem subTypes_eq_branches_polygon :
    (SchemaSource.mk figures [⟨figure, [square, polygon]⟩] drawing).subTypes polygon
      = figures.branches .everything polygon := by
  have layered : figures.table.Layered := by decide
  have distinct : figures.table.HasDistinctNames := by decide
  have same : Registry.SameUpToOrder [⟨figure, [polygon, square]⟩] [⟨figure, [square, polygon]⟩] :=
    .cons ⟨rfl, .swap ..⟩ .nil
  refine subTypes_eq_branches layered distinct (Walker.run_of_walks walks_figures) same ?_
  rw [Walker.classesVisited, Walker.followRoots_of_walks walks_figures]
  exact List.mem_of_elem_eq_true rfl

end

end ModelSchema
