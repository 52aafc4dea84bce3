import ModelSchema.Class.Marker

/-!
The hierarchy of classes.

A class is declared after its bases, and its ancestors are itself and those of its bases. So "is an
ancestor of" is a partial order, and it is what is reached by following bases.

* `ClassTable.Layered`: the ancestors of every declared class are those of its bases, which were
  declared before it.
* `Layered.ancestors_trans`, `Layered.ancestors_antisymm`: the order.
* `Catalog.WellFormed`: classes are declared after their bases, none is both a model and an
  enumeration, and the entries of a closed list are subtypes of the class it is declared for.
-/

namespace ModelSchema

/-! ### Basic classes -/

namespace BasicClass

theorem mem_all (c : BasicClass) : c ∈ all := by cases c <;> decide

theorem mem_ancestors_self (c : BasicClass) : c ∈ c.ancestors := by cases c <;> decide

theorem ancestors_trans {a b c : BasicClass} (hab : a ∈ b.ancestors) (hbc : b ∈ c.ancestors) :
    a ∈ c.ancestors := by
  have all : ∀ c ∈ BasicClass.all, ∀ b ∈ c.ancestors, ∀ a ∈ b.ancestors, a ∈ c.ancestors := by
    decide
  exact all c (mem_all c) b hbc a hab

theorem ancestors_antisymm {a b : BasicClass} (hab : a ∈ b.ancestors) (hba : b ∈ a.ancestors) :
    a = b := by
  have all : ∀ b ∈ BasicClass.all, ∀ a ∈ b.ancestors, b ∈ a.ancestors → a = b := by decide
  exact all b (mem_all b) a hab hba

/-- The ancestors of a class: itself, and those of its bases. -/
theorem mem_ancestors_iff {a c : BasicClass} :
    a ∈ c.ancestors ↔ a = c ∨ ∃ base ∈ c.bases, a ∈ base.ancestors := by
  have all : ∀ c ∈ BasicClass.all, ∀ a ∈ BasicClass.all,
      a ∈ c.ancestors ↔ a = c ∨ ∃ base ∈ c.bases, a ∈ base.ancestors := by decide
  exact all c (mem_all c) a (mem_all a)

/-- Induction along bases. -/
theorem bases_induction {P : BasicClass → Prop} (step : ∀ c, (∀ base ∈ c.bases, P base) → P c)
    (c : BasicClass) : P c := by
  have fewer : ∀ c ∈ BasicClass.all, ∀ base ∈ c.bases, base.ancestors.length < c.ancestors.length := by
    decide
  induction c using (measure fun c : BasicClass => c.ancestors.length).wf.induction with
  | _ c ih => exact step c fun base member => ih base (fewer c (mem_all c) base member)

end BasicClass

namespace ClassTable

variable {table : ClassTable}

/-! ### The classes of a table -/

@[simp] theorem basic_mem_allClasses (c : BasicClass) : .basic c ∈ table.allClasses :=
  List.mem_append_left _ (List.mem_map_of_mem (BasicClass.mem_all c))

@[simp] theorem declared_mem_declared {i : Nat} :
    .declared i ∈ table.declared ↔ i < table.classes.size := by
  simp [declared]

@[simp] theorem declared_mem_allClasses {i : Nat} :
    .declared i ∈ table.allClasses ↔ i < table.classes.size := by
  simp [allClasses]

theorem nodup_allClasses : table.allClasses.Nodup := by
  unfold allClasses declared
  rw [List.nodup_append]
  have basics : BasicClass.all.Nodup := by decide
  refine ⟨List.Pairwise.map _ (fun _ _ differ same => differ (ClassRef.basic.inj same)) basics,
    List.Pairwise.map _ (fun _ _ differ same => differ (ClassRef.declared.inj same))
      List.nodup_range, ?_⟩
  rintro a ha b hb rfl
  obtain ⟨_, -, rfl⟩ := List.mem_map.mp ha
  obtain ⟨_, -, same⟩ := List.mem_map.mp hb
  cases same

theorem ancestors_declared {i : Nat} {info : ClassInfo} (found : table.classes[i]? = some info) :
    table.ancestors (.declared i) = info.ancestors := by
  simp [ancestors, found]

theorem bases_declared {i : Nat} {info : ClassInfo} (found : table.classes[i]? = some info) :
    table.bases (.declared i) = info.bases := by
  simp [bases, found]

/-- Only the classes of a table have ancestors. -/
theorem mem_allClasses_of_mem_ancestors {a c : ClassRef} (h : a ∈ table.ancestors c) :
    c ∈ table.allClasses := by
  cases c with
  | basic c => exact basic_mem_allClasses c
  | declared i =>
    rw [declared_mem_allClasses]
    cases found : table.classes[i]? with
    | none => simp [ancestors, found] at h
    | some info => exact (Array.getElem?_eq_some_iff.mp found).1

/-- The ancestors of basic classes are basic. -/
theorem isBasic_of_mem_ancestors {a : ClassRef} {c : BasicClass}
    (h : a ∈ table.ancestors (.basic c)) : ∃ b ∈ c.ancestors, a = .basic b := by
  obtain ⟨b, hb, rfl⟩ := List.mem_map.mp h
  exact ⟨b, hb, rfl⟩

theorem isSubclass_iff {c base : ClassRef} :
    table.isSubclass c base = true ↔ base ∈ table.ancestors c := by
  simp [isSubclass]

/-! ### Order -/

/-- Classes are declared after their bases, and the ancestors of a class are the class itself and
the ancestors of its bases. -/
structure Layered (table : ClassTable) : Prop where
  base_earlier : ∀ {i : Nat} {info : ClassInfo}, table.classes[i]? = some info →
    ∀ {j : Nat}, .declared j ∈ info.bases → j < i
  ancestors_head : ∀ {i : Nat} {info : ClassInfo}, table.classes[i]? = some info →
    info.ancestors.head? = some (.declared i)
  mem_ancestors : ∀ {i : Nat} {info : ClassInfo}, table.classes[i]? = some info →
    ∀ {c : ClassRef}, c ∈ info.ancestors
      ↔ c = .declared i ∨ ∃ base ∈ info.bases, c ∈ table.ancestors base

/-- What `Layered` asks of one declaration, as far as it can be computed. -/
def isLayeredAt (table : ClassTable) (i : Nat) (info : ClassInfo) : Bool :=
  let expected := .declared i :: info.bases.flatMap table.ancestors
  (info.bases.all fun
      | .basic _ => true
      | .declared j => j < i)
    && info.ancestors.head? == some (.declared i)
    && info.ancestors.all expected.contains && expected.all info.ancestors.contains

theorem layered_iff :
    table.Layered ↔ ∀ i (h : i < table.classes.size), table.isLayeredAt i table.classes[i] := by
  constructor
  · intro layered i h
    have found := Array.getElem?_eq_getElem h
    simp only [isLayeredAt, Bool.and_eq_true, List.all_eq_true, List.contains_eq_mem,
      decide_eq_true_eq, beq_iff_eq, List.mem_cons, List.mem_flatMap]
    refine ⟨⟨⟨fun base member => ?_, layered.ancestors_head found⟩,
      fun c => (layered.mem_ancestors found).mp⟩, fun c => (layered.mem_ancestors found).mpr⟩
    cases base with
    | basic c => rfl
    | declared j => exact decide_eq_true (layered.base_earlier found member)
  · intro check
    have at? : ∀ {i info}, table.classes[i]? = some info → table.isLayeredAt i info = true := by
      intro i info found
      obtain ⟨h, rfl⟩ := Array.getElem?_eq_some_iff.mp found
      exact check i h
    simp only [isLayeredAt, Bool.and_eq_true, List.all_eq_true, List.contains_eq_mem,
      decide_eq_true_eq, beq_iff_eq, List.mem_cons, List.mem_flatMap] at at?
    refine ⟨fun found _ member => ?_, fun found => (at? found).1.1.2,
      fun {i info} found {c} => ⟨(at? found).1.2 c, (at? found).2 c⟩⟩
    exact of_decide_eq_true ((at? found).1.1.1 _ member)

instance : Decidable table.Layered := decidable_of_iff _ layered_iff.symm

namespace Layered

variable (layered : table.Layered)
include layered

/-- A class of the table is among its ancestors. -/
theorem mem_ancestors_self {c : ClassRef} (known : c ∈ table.allClasses) :
    c ∈ table.ancestors c := by
  cases c with
  | basic c => exact List.mem_map_of_mem (BasicClass.mem_ancestors_self c)
  | declared i =>
    have found := Array.getElem?_eq_getElem (declared_mem_allClasses.mp known)
    rw [ancestors_declared found]
    exact (layered.mem_ancestors found).mpr (.inl rfl)

/-- A class comes first among its ancestors. -/
theorem ancestors_eq_cons {c : ClassRef} (known : c ∈ table.allClasses) :
    table.ancestors c = c :: (table.ancestors c).tail := by
  cases c with
  | basic c => cases c <;> rfl
  | declared i =>
    have found := Array.getElem?_eq_getElem (declared_mem_allClasses.mp known)
    rw [ancestors_declared found]
    obtain ⟨rest, shape⟩ := List.head?_eq_some_iff.mp (layered.ancestors_head found)
    rw [shape, List.tail_cons]

/-- The ancestors of a class that are other classes. -/
theorem mem_tail_of_mem_ancestors {a c : ClassRef} (h : a ∈ table.ancestors c) (differs : a ≠ c) :
    a ∈ (table.ancestors c).tail := by
  rw [layered.ancestors_eq_cons (mem_allClasses_of_mem_ancestors h)] at h
  exact (List.mem_cons.mp h).resolve_left differs

/-- The ancestors of a declared class: itself, and those of its bases. -/
theorem mem_ancestors_declared {i : Nat} {info : ClassInfo}
    (found : table.classes[i]? = some info) {c : ClassRef} :
    c ∈ table.ancestors (.declared i)
      ↔ c = .declared i ∨ ∃ base ∈ info.bases, c ∈ table.ancestors base := by
  rw [ancestors_declared found]
  exact layered.mem_ancestors found

/-- Induction along bases: what a class has if all of its bases have it, every class has. -/
theorem bases_induction {P : ClassRef → Prop} (basic : ∀ c, P (.basic c))
    (outside : ∀ i, table.classes[i]? = none → P (.declared i))
    (declared : ∀ i info, table.classes[i]? = some info → (∀ base ∈ info.bases, P base) →
      P (.declared i)) (c : ClassRef) : P c := by
  cases c with
  | basic c => exact basic c
  | declared i =>
    induction i using Nat.strongRecOn with
    | ind i ih =>
      cases found : table.classes[i]? with
      | none => exact outside i found
      | some info =>
        refine declared i info found fun base member => ?_
        cases base with
        | basic c => exact basic c
        | declared j => exact ih j (layered.base_earlier found member)

/-- The ancestors of a class: itself, and those of its bases. -/
theorem mem_ancestors_iff {a c : ClassRef} (known : c ∈ table.allClasses) :
    a ∈ table.ancestors c ↔ a = c ∨ ∃ base ∈ table.bases c, a ∈ table.ancestors base := by
  cases c with
  | basic c =>
    constructor
    · intro above
      obtain ⟨b, hb, rfl⟩ := List.mem_map.mp above
      rcases BasicClass.mem_ancestors_iff.mp hb with rfl | ⟨base, isBase, above⟩
      · exact .inl rfl
      · exact .inr ⟨.basic base, List.mem_map_of_mem isBase, List.mem_map_of_mem above⟩
    · rintro (rfl | ⟨base, isBase, above⟩)
      · exact List.mem_map_of_mem (BasicClass.mem_ancestors_self c)
      · obtain ⟨b, hb, rfl⟩ := List.mem_map.mp isBase
        obtain ⟨d, hd, rfl⟩ := List.mem_map.mp above
        exact List.mem_map_of_mem (BasicClass.mem_ancestors_iff.mpr (.inr ⟨b, hb, hd⟩))
  | declared i =>
    have found := Array.getElem?_eq_getElem (declared_mem_allClasses.mp known)
    rw [bases_declared found]
    exact layered.mem_ancestors_declared found

/-- Induction along the bases of all classes, the basic ones as well. -/
theorem all_bases_induction {P : ClassRef → Prop} (step : ∀ c, (∀ base ∈ table.bases c, P base) → P c)
    (c : ClassRef) : P c := by
  induction c using layered.bases_induction with
  | basic b =>
    induction b using BasicClass.bases_induction with
    | step b ih =>
      refine step _ fun base isBase => ?_
      obtain ⟨b', member, rfl⟩ := List.mem_map.mp isBase
      exact ih b' member
  | outside i missing =>
    refine step _ fun base isBase => ?_
    simp [bases, missing] at isBase
  | declared i info found ih =>
    refine step _ fun base isBase => ih base ?_
    rwa [bases_declared found] at isBase

/-- No class is a base of itself. -/
theorem not_mem_bases_self (c : ClassRef) : c ∉ table.bases c := by
  induction c using layered.all_bases_induction with
  | step c ih => exact fun isBase => ih c isBase isBase

/-- Only the classes of a table have bases, and these are classes of the table. -/
theorem mem_allClasses_of_mem_bases {base c : ClassRef} (isBase : base ∈ table.bases c) :
    base ∈ table.allClasses ∧ c ∈ table.allClasses := by
  cases c with
  | basic c =>
    obtain ⟨b, -, rfl⟩ := List.mem_map.mp isBase
    exact ⟨basic_mem_allClasses b, basic_mem_allClasses c⟩
  | declared i =>
    cases found : table.classes[i]? with
    | none => simp [bases, found] at isBase
    | some info =>
      rw [bases_declared found] at isBase
      have inside := (Array.getElem?_eq_some_iff.mp found).1
      refine ⟨?_, declared_mem_allClasses.mpr inside⟩
      cases base with
      | basic b => exact basic_mem_allClasses b
      | declared j => exact declared_mem_allClasses.mpr (Nat.lt_trans (layered.base_earlier found isBase) inside)

/-- Ancestors of ancestors are ancestors. -/
theorem ancestors_trans {a b c : ClassRef} (hab : a ∈ table.ancestors b)
    (hbc : b ∈ table.ancestors c) : a ∈ table.ancestors c := by
  induction c using layered.bases_induction with
  | basic c =>
    obtain ⟨b', hb', rfl⟩ := List.mem_map.mp hbc
    obtain ⟨a', ha', rfl⟩ := List.mem_map.mp hab
    exact List.mem_map_of_mem (BasicClass.ancestors_trans ha' hb')
  | outside i missing => simp [ancestors, missing] at hbc
  | declared i info found ih =>
    rcases (layered.mem_ancestors_declared found).mp hbc with rfl | ⟨base, member, hb⟩
    · exact hab
    · exact (layered.mem_ancestors_declared found).mpr (.inr ⟨base, member, ih base member hb⟩)

/-- A declared ancestor of a declared class was not declared after it. -/
theorem index_le {i j : Nat} (h : .declared j ∈ table.ancestors (.declared i)) : j ≤ i := by
  induction i using Nat.strongRecOn with
  | ind i ih =>
    cases found : table.classes[i]? with
    | none => simp [ancestors, found] at h
    | some info =>
      rcases (layered.mem_ancestors_declared found).mp h with same | ⟨base, member, hb⟩
      · cases same; exact Nat.le_refl _
      · cases base with
        | basic c => simp [ancestors] at hb
        | declared k =>
          have earlier := layered.base_earlier found member
          exact Nat.le_of_lt (Nat.lt_of_le_of_lt (ih k earlier hb) earlier)

/-- No two classes are ancestors of each other. -/
theorem ancestors_antisymm {a b : ClassRef} (hab : a ∈ table.ancestors b)
    (hba : b ∈ table.ancestors a) : a = b := by
  cases a with
  | basic a =>
    obtain ⟨b', hb', rfl⟩ := isBasic_of_mem_ancestors hba
    obtain ⟨a', ha', same⟩ := isBasic_of_mem_ancestors hab
    cases same
    rw [BasicClass.ancestors_antisymm ha' hb']
  | declared i =>
    cases b with
    | basic b =>
      obtain ⟨_, _, same⟩ := isBasic_of_mem_ancestors hab
      cases same
    | declared j =>
      have := layered.index_le hab
      have := layered.index_le hba
      congr 1
      omega

end Layered

end ClassTable

/-! ### Catalogs that declarations can lead to -/

namespace Catalog

/-- What holds of a catalog whose classes and closed lists were declared one after the other. -/
structure WellFormed (catalog : Catalog) : Prop where
  layered : catalog.table.Layered
  apart : ∀ c ∈ catalog.table.allClasses, catalog.table.isBasicSubclass c .model = true →
    catalog.table.isBasicSubclass c .enumeration = false
  listed : ∀ list ∈ catalog.markers.subTypes, ∀ entry ∈ list.2,
    catalog.table.isSubclass entry.1 list.1 = true

theorem wellFormed_iff {catalog : Catalog} :
    catalog.WellFormed ↔ catalog.table.Layered
      ∧ (∀ c ∈ catalog.table.allClasses, catalog.table.isBasicSubclass c .model = true →
        catalog.table.isBasicSubclass c .enumeration = false)
      ∧ ∀ list ∈ catalog.markers.subTypes, ∀ entry ∈ list.2,
        catalog.table.isSubclass entry.1 list.1 = true :=
  ⟨fun h => ⟨h.layered, h.apart, h.listed⟩, fun h => ⟨h.1, h.2.1, h.2.2⟩⟩

instance {catalog : Catalog} : Decidable catalog.WellFormed :=
  decidable_of_iff _ wellFormed_iff.symm

variable {catalog : Catalog}

/-- Models are no enumerations. -/
theorem WellFormed.notEnumeration (wellFormed : catalog.WellFormed) {c : ClassRef}
    (isModel : catalog.table.isBasicSubclass c .model = true) :
    catalog.table.isBasicSubclass c .enumeration = false :=
  wellFormed.apart c
    (ClassTable.mem_allClasses_of_mem_ancestors (ClassTable.isSubclass_iff.mp isModel)) isModel

/-- The entries of a closed list are subtypes of the class, when they are in all that are kept. -/
theorem mem_ancestors_of_declaredSubTypes
    (listed : ∀ list ∈ catalog.markers.subTypes, ∀ entry ∈ list.2,
      catalog.table.isSubclass entry.1 list.1 = true) {c : ClassRef}
    {entry : ClassRef × Option String} (member : entry ∈ catalog.declaredSubTypes c) :
    c ∈ catalog.table.ancestors entry.1 := by
  unfold declaredSubTypes recordedFor? at member
  cases found : catalog.markers.subTypes.find? (·.1 = c) with
  | none => simp [found] at member
  | some list =>
    have same : list.1 = c := by simpa using List.find?_some found
    have inside := List.mem_of_find?_eq_some found
    have member : entry ∈ list.2 := by simpa [found] using member
    exact same ▸ ClassTable.isSubclass_iff.mp (listed list inside entry member)

theorem WellFormed.mem_ancestors_of_listed (wellFormed : catalog.WellFormed) {c : ClassRef}
    {entry : ClassRef × Option String} (member : entry ∈ catalog.declaredSubTypes c) :
    c ∈ catalog.table.ancestors entry.1 :=
  mem_ancestors_of_declaredSubTypes wellFormed.listed member

/-- Whether closed lists are lists of classes of the table. -/
def ListsClasses (catalog : Catalog) : Prop :=
  ∀ c, ∀ entry ∈ catalog.declaredSubTypes c, entry.1 ∈ catalog.table.allClasses

theorem WellFormed.listsClasses (wellFormed : catalog.WellFormed) : catalog.ListsClasses :=
  fun _ _ member =>
    ClassTable.mem_allClasses_of_mem_ancestors (wellFormed.mem_ancestors_of_listed member)

end Catalog

end ModelSchema
