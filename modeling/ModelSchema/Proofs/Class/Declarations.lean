import Mathlib.Data.List.Basic
import ModelSchema.Class.Enumeration
import ModelSchema.Proofs.Class.Hierarchy
import ModelSchema.Proofs.Property

/-!
What declarations lead to.

Classes are declared after their bases, with the merged orders of these as their ancestors, and none of
them changes later. A closed list is accepted when its entries are subtypes of the class that it is
declared for, and so they remain.

* `mem_mergeOrders`, `mem_ancestorsOfNew`: the ancestors of a new class are those of its bases.
* `ClassTable.Extends`: a table with the same classes and further ones.
* `extends_declareModel`, `extends_declarePlain`, `extends_declareEnumeration`: what declaring a class
  does to a table.
* `Catalog.Step`, `Catalog.Declared`: one declaration, and all that declarations lead to.
* `Declared.sound`: classes are in layers, and the entries of closed lists are subtypes.
-/

namespace ModelSchema

/-! ### The ancestors of a new class -/

theorem mem_dropAncestor {a c : ClassRef} {orders : List (List ClassRef)}
    (next : nextAncestor? orders = some a) :
    (∃ order ∈ orders, c ∈ order) ↔ c = a ∨ ∃ order ∈ dropAncestor a orders, c ∈ order := by
  constructor
  · rintro ⟨order, member, inside⟩
    by_cases first : order.head? = some a
    · obtain ⟨rest, rfl⟩ := List.head?_eq_some_iff.mp first
      rcases List.mem_cons.mp inside with rfl | inside
      · exact .inl rfl
      · refine .inr ⟨rest, List.mem_filter.mpr ⟨?_, ?_⟩, inside⟩
        · exact List.mem_map.mpr ⟨_, member, by simp⟩
        · simpa using List.ne_nil_of_mem inside
    · refine .inr ⟨order, List.mem_filter.mpr ⟨?_, ?_⟩, inside⟩
      · exact List.mem_map.mpr ⟨_, member, if_neg first⟩
      · simpa using List.ne_nil_of_mem inside
  · rintro (rfl | ⟨order, member, inside⟩)
    · obtain ⟨order, member, first⟩ := List.mem_filterMap.mp (List.mem_of_find?_eq_some next)
      exact ⟨order, member, List.mem_of_mem_head? first⟩
    · obtain ⟨before, isBefore, rfl⟩ := List.mem_map.mp (List.mem_filter.mp member).1
      refine ⟨before, isBefore, ?_⟩
      split at inside
      · exact List.mem_of_mem_tail inside
      · exact inside

/-- Merged orders have the classes of all of them. -/
theorem mem_mergeOrders {c : ClassRef} {size : Nat} {orders : List (List ClassRef)}
    {result : List ClassRef} (merged : mergeOrders size orders = .ok result) :
    c ∈ result ↔ ∃ order ∈ orders, c ∈ order := by
  induction size generalizing orders result with
  | zero =>
    cases orders with
    | nil =>
      cases merged
      simp
    | cons order rest => cases merged
  | succ size ih =>
    cases orders with
    | nil =>
      cases merged
      simp
    | cons order rest =>
      unfold mergeOrders at merged
      cases next : nextAncestor? (order :: rest) with
      | none =>
        rw [next] at merged
        cases merged
      | some a =>
        rw [next] at merged
        dsimp only at merged
        cases later : mergeOrders size (dropAncestor a (order :: rest)) with
        | error heads =>
          rw [later] at merged
          cases merged
        | ok others =>
          rw [later] at merged
          cases merged
          rw [List.mem_cons, ih later, mem_dropAncestor next]

namespace ClassTable

variable {table later : ClassTable} {bases : List ClassRef} {name : String}

/-- The ancestors of a new class, without the class itself, are those of its bases. -/
theorem mem_ancestorsOfNew (layered : table.Layered) (known : ∀ base ∈ bases, base ∈ table.allClasses)
    {ancestors : List ClassRef} (made : ancestorsOfNew table name bases = .ok ancestors)
    {c : ClassRef} : c ∈ ancestors ↔ ∃ base ∈ bases, c ∈ table.ancestors base := by
  unfold ancestorsOfNew at made
  obtain ⟨_, -, made⟩ := exists_of_bind_eq_ok made
  obtain ⟨_, -, made⟩ := exists_of_bind_eq_ok made
  obtain ⟨_, -, made⟩ := exists_of_bind_eq_ok made
  split at made
  · cases made
  · next order _ merged =>
    cases made
    unfold linearise at merged
    rw [mem_mergeOrders merged]
    constructor
    · rintro ⟨order, member, inside⟩
      rcases List.mem_append.mp (List.mem_filter.mp member).1 with ofBase | ofBases
      · obtain ⟨base, isBase, rfl⟩ := List.mem_map.mp ofBase
        exact ⟨base, isBase, inside⟩
      · cases List.mem_singleton.mp ofBases
        exact ⟨c, inside, layered.mem_ancestors_self (known c inside)⟩
    · rintro ⟨base, isBase, inside⟩
      refine ⟨table.ancestors base, List.mem_filter.mpr ⟨?_, ?_⟩, inside⟩
      · exact List.mem_append_left _ (List.mem_map_of_mem isBase)
      · simpa using List.ne_nil_of_mem inside
  · cases made

/-! ### Tables that grow -/

/-- Whether a table has the classes of another one, with the ancestors they have there, and is in
layers. -/
structure Extends (table later : ClassTable) : Prop where
  ancestors : ∀ c ∈ table.allClasses, later.ancestors c = table.ancestors c
  layered : later.Layered

section

variable {info : ClassInfo} (grown : later.classes = table.classes.push info)
include grown

/-- Adding a class leaves the classes that are there as they are. -/
theorem ancestors_of_push {c : ClassRef} (known : c ∈ table.allClasses) :
    later.ancestors c = table.ancestors c := by
  cases c with
  | basic c => rfl
  | declared i =>
    have inside := declared_mem_allClasses.mp known
    have differs : i ≠ table.classes.size := Nat.ne_of_lt inside
    simp [ancestors, grown, Array.getElem?_push, differs]

/-- A table with one more class, whose ancestors are itself and those of its bases, which are there
already. -/
theorem extends_of_push (layered : table.Layered)
    (known : ∀ base ∈ info.bases, base ∈ table.allClasses) {above : List ClassRef}
    (own : info.ancestors = .declared table.classes.size :: above)
    (ofBases : ∀ c, c ∈ above ↔ ∃ base ∈ info.bases, c ∈ table.ancestors base) :
    table.Extends later := by
  have there : ∀ {i : Nat} {found : ClassInfo}, later.classes[i]? = some found →
      table.classes[i]? = some found ∨ (i = table.classes.size ∧ found = info) := by
    intro i found at?
    rw [grown, Array.getElem?_push] at at?
    split at at?
    next last => exact .inr ⟨last, (Option.some.inj at?).symm⟩
    next => exact .inl at?
  have kept : ∀ {i : Nat} {found : ClassInfo}, table.classes[i]? = some found →
      ∀ base ∈ found.bases, base ∈ table.allClasses := by
    intro i found at? base member
    cases base with
    | basic b => exact basic_mem_allClasses b
    | declared j =>
      have inside := (Array.getElem?_eq_some_iff.mp at?).1
      exact declared_mem_allClasses.mpr (Nat.lt_trans (layered.base_earlier at? member) inside)
  refine ⟨fun c => ancestors_of_push grown, ?_, ?_, ?_⟩
  · intro i found at? j member
    rcases there at? with old | ⟨rfl, rfl⟩
    · exact layered.base_earlier old member
    · exact declared_mem_allClasses.mp (known _ member)
  · intro i found at?
    rcases there at? with old | ⟨rfl, rfl⟩
    · exact layered.ancestors_head old
    · rw [own]
      rfl
  · intro i found at? c
    rcases there at? with old | ⟨rfl, rfl⟩
    · rw [layered.mem_ancestors old]
      refine or_congr_right (exists_congr fun base => and_congr_right fun member => ?_)
      rw [ancestors_of_push grown (kept old base member)]
    · rw [own, List.mem_cons, ofBases]
      refine or_congr_right (exists_congr fun base => and_congr_right fun member => ?_)
      rw [ancestors_of_push grown (known base member)]

/-- A class that is declared after its bases, with their merged ancestors. -/
theorem extends_of_ancestorsOfNew (layered : table.Layered)
    (known : ∀ base ∈ info.bases, base ∈ table.allClasses) {above : List ClassRef}
    (made : ancestorsOfNew table name info.bases = .ok above)
    (own : info.ancestors = .declared table.classes.size :: above) : table.Extends later :=
  extends_of_push grown layered known own fun _ => mem_ancestorsOfNew layered known made

end

theorem extends_declareModel (layered : table.Layered) {id : Option String}
    {declaration : ModelDeclaration} {c : ClassRef}
    (known : ∀ base ∈ declaration.bases, base ∈ table.allClasses)
    (declared : table.declareModel id declaration = .ok (later, c)) : table.Extends later := by
  unfold declareModel at declared
  obtain ⟨above, made, declared⟩ := exists_of_bind_eq_ok declared
  obtain ⟨_, -, declared⟩ := exists_of_bind_eq_ok declared
  obtain ⟨_, -, declared⟩ := exists_of_bind_eq_ok declared
  cases declared
  refine extends_of_ancestorsOfNew rfl layered ?_ made rfl
  dsimp only
  split
  · simp
  · exact known

theorem extends_declarePlain (layered : table.Layered) {id : String} {className : ClassName}
    {c : ClassRef} (known : ∀ base ∈ bases, base ∈ table.allClasses)
    (declared : table.declarePlain id className bases = .ok (later, c)) : table.Extends later := by
  unfold declarePlain at declared
  split at declared
  · exact extends_declareModel layered known declared
  · obtain ⟨above, made, declared⟩ := exists_of_bind_eq_ok declared
    cases declared
    refine extends_of_ancestorsOfNew rfl layered ?_ made rfl
    dsimp only
    split
    · simp
    · exact known

theorem extends_declareEnumeration (layered : table.Layered) {id : String} {className : ClassName}
    {mixin : Mixin} {entries : List (String × Value)} {c : ClassRef}
    (declared : table.declareEnumeration id className mixin entries = .ok (later, c)) :
    table.Extends later := by
  unfold declareEnumeration at declared
  obtain ⟨above, made, declared⟩ := exists_of_bind_eq_ok declared
  obtain ⟨_, -, declared⟩ := exists_of_bind_eq_ok declared
  obtain ⟨_, -, declared⟩ := exists_of_bind_eq_ok declared
  cases declared
  refine extends_of_ancestorsOfNew rfl layered ?_ made rfl
  intro base member
  obtain ⟨b, -, rfl⟩ := List.mem_map.mp member
  exact basic_mem_allClasses b

end ClassTable

/-! ### Declarations -/

namespace Catalog

variable {catalog next : Catalog}

/-- One declaration: of a marker, of a closed list, or of further classes. -/
inductive Step : Catalog → Catalog → Prop
  | root {catalog : Catalog} (c : ClassRef) : Step catalog (catalog.markRoot c)
  | typeInfo {catalog : Catalog} (c : ClassRef) (property : String) :
      Step catalog (catalog.markTypeInfo c property)
  | typeName {catalog : Catalog} (c : ClassRef) (name : String) :
      Step catalog (catalog.markTypeName c name)
  | order {catalog : Catalog} (c : ClassRef) (names : List String) :
      Step catalog (catalog.markOrder c names)
  | subTypes {catalog next : Catalog} {base : ClassRef} {entries : List (Ty × Option String)} :
      catalog.declareSubTypes base entries = .ok next → Step catalog next
  | classes {catalog : Catalog} {later : ClassTable} :
      catalog.table.Extends later → Step catalog { catalog with table := later }

/-- What declarations lead to, one after the other, from nothing. -/
inductive Declared : Catalog → Prop
  | empty : Declared .empty
  | step {catalog next : Catalog} : Declared catalog → Step catalog next → Declared next

/-- Whether classes are in layers, and the entries of closed lists are subtypes of the class that the
list is declared for. -/
structure Sound (catalog : Catalog) : Prop where
  layered : catalog.table.Layered
  listed : ∀ list ∈ catalog.markers.subTypes, ∀ entry ∈ list.2,
    catalog.table.isSubclass entry.1 list.1 = true

theorem mem_recordFor {α : Type} {entries : List (ClassRef × α)} {c : ClassRef} {value : α}
    {entry : ClassRef × α} (member : entry ∈ recordFor entries c value) :
    entry ∈ entries ∨ entry = (c, value) := by
  rcases List.mem_append.mp member with old | new
  · exact .inl (List.mem_filter.mp old).1
  · exact .inr (List.mem_singleton.mp new)

/-- A closed list is accepted only when its entries are subtypes. -/
theorem isSubclass_of_checkedEntries {table : ClassTable} {base : ClassRef}
    {entries : List (Ty × Option String)} {list : List (ClassRef × Option String)}
    (accepted : checkedEntries table base entries = .ok list) :
    ∀ entry ∈ list, table.isSubclass entry.1 base = true := by
  induction entries generalizing list with
  | nil =>
    cases accepted
    simp
  | cons first rest ih =>
    obtain ⟨entry, name⟩ := first
    unfold checkedEntries at accepted
    split at accepted
    next c =>
      split at accepted
      next isSubclass =>
        obtain ⟨others, later, accepted⟩ := exists_of_bind_eq_ok accepted
        cases accepted
        intro entry member
        rcases List.mem_cons.mp member with rfl | member
        · exact isSubclass
        · exact ih later entry member
      next => cases accepted
    next => cases accepted

/-- A declaration keeps all this. -/
theorem Sound.step (sound : catalog.Sound) (step : Step catalog next) : next.Sound := by
  cases step with
  | root c =>
    unfold markRoot
    split
    · exact sound
    · exact ⟨sound.layered, sound.listed⟩
  | typeInfo c property => exact ⟨sound.layered, sound.listed⟩
  | typeName c name => exact ⟨sound.layered, sound.listed⟩
  | order c names => exact ⟨sound.layered, sound.listed⟩
  | @subTypes _ base entries accepted =>
    unfold declareSubTypes at accepted
    obtain ⟨list, checked, accepted⟩ := exists_of_bind_eq_ok accepted
    cases accepted
    refine ⟨sound.layered, fun other member => ?_⟩
    rcases mem_recordFor member with old | rfl
    · exact sound.listed other old
    · exact isSubclass_of_checkedEntries checked
  | classes grown =>
    refine ⟨grown.layered, fun list member entry inside => ?_⟩
    have above := ClassTable.isSubclass_iff.mp (sound.listed list member entry inside)
    have known := ClassTable.mem_allClasses_of_mem_ancestors above
    exact ClassTable.isSubclass_iff.mpr (grown.ancestors _ known ▸ above)

/-- So it is in every catalog that declarations lead to. -/
theorem Declared.sound (declared : catalog.Declared) : catalog.Sound := by
  induction declared with
  | empty => exact ⟨by decide, by simp [Catalog.empty]⟩
  | step _ step ih => exact ih.step step

end Catalog

end ModelSchema
