import Mathlib.Data.List.Nodup
import ModelSchema.Property

/-!
The order of properties leaves nothing out and adds nothing.

* `mem_of_mem_orderProperties`: only the properties of a model are ordered.
* `mem_orderProperties`: all of them are, when no two are the same one.
* `nodup_orderProperties`: none of them is there twice.
-/

namespace ModelSchema

/-! ### Checks -/

/-- A chain of two checks that succeeds. -/
theorem exists_of_bind_eq_ok {α β ε : Type} {x : Except ε α} {f : α → Except ε β} {b : β}
    (chain : (x >>= f) = .ok b) : ∃ a, x = .ok a ∧ f a = .ok b := by
  cases x with
  | error reason => cases chain
  | ok a => exact ⟨a, rfl, chain⟩

/-- A result of a list of checks is that of one of them. -/
theorem exists_of_mem_mapM {α β ε : Type} {f : α → Except ε β} {b : β} :
    ∀ {list : List α} {results : List β}, list.mapM f = .ok results → b ∈ results →
      ∃ a ∈ list, f a = .ok b
  | [], results, made, member => by
    cases made
    exact absurd member List.not_mem_nil
  | a :: rest, results, made, member => by
    rw [List.mapM_cons] at made
    obtain ⟨here, first, made⟩ := exists_of_bind_eq_ok made
    obtain ⟨others, later, made⟩ := exists_of_bind_eq_ok made
    cases made
    rcases List.mem_cons.mp member with rfl | member
    · exact ⟨a, List.mem_cons_self, first⟩
    · obtain ⟨x, inside, result⟩ := exists_of_mem_mapM later member
      exact ⟨x, List.mem_cons_of_mem _ inside, result⟩

/-! ### Order -/

variable {props : List Property} {names : List String} {p : Property}

theorem namedProperty?_mem {name : String} (found : namedProperty? props name = some p) :
    p ∈ props :=
  List.mem_of_find?_eq_some found

/-- Properties in an explicit order are properties of the model. -/
theorem mem_of_mem_explicitlyOrdered : p ∈ explicitlyOrdered props names → p ∈ props := by
  unfold explicitlyOrdered
  refine List.foldlRecOn (motive := fun ordered => p ∈ ordered → p ∈ props) names _
    (fun member => absurd member List.not_mem_nil) fun ordered inside name _ member => ?_
  split at member
  next q found =>
    split at member
    · exact inside member
    · rcases List.mem_append.mp member with old | new
      · exact inside old
      · exact List.mem_singleton.mp new ▸ namedProperty?_mem found
  next => exact inside member

theorem mem_of_mem_orderProperties (member : p ∈ orderProperties props names) : p ∈ props := by
  unfold orderProperties at member
  rcases List.mem_append.mp member with first | rest
  · exact mem_of_mem_explicitlyOrdered first
  · exact (List.mem_filter.mp (List.mem_mergeSort.mp rest)).1

/-- Whether no two properties of a list are the same one. -/
def ApartFromEachOther (props : List Property) : Prop :=
  ∀ p ∈ props, ∀ q ∈ props, p.isSame q = true → p = q

theorem mem_orderProperties (apart : ApartFromEachOther props) (member : p ∈ props) :
    p ∈ orderProperties props names := by
  unfold orderProperties
  rw [List.mem_append]
  by_cases ordered : (explicitlyOrdered props names).any p.isSame = true
  · obtain ⟨q, hq, same⟩ := List.any_eq_true.mp ordered
    exact .inl (apart p member q (mem_of_mem_explicitlyOrdered hq) same ▸ hq)
  · refine .inr (List.mem_mergeSort.mpr (List.mem_filter.mpr ⟨member, ?_⟩))
    simpa using ordered

theorem Property.isSame_iff {q : Property} :
    p.isSame q = true ↔ p.name = q.name ∧ p.readOnly = q.readOnly := by
  unfold isSame
  rw [Bool.and_eq_true, decide_eq_true_eq, decide_eq_true_eq]

theorem Property.isSame_self (p : Property) : p.isSame p = true :=
  isSame_iff.mpr ⟨rfl, rfl⟩

/-- A name in an explicit order that means a property again does not repeat it. -/
theorem nodup_explicitlyOrdered : (explicitlyOrdered props names).Nodup := by
  unfold explicitlyOrdered
  refine List.foldlRecOn (motive := List.Nodup) names _ List.nodup_nil
    fun ordered nodup name _ => ?_
  split
  next p _ =>
    split
    · exact nodup
    next new =>
      refine List.nodup_append.mpr ⟨nodup, List.nodup_singleton p, ?_⟩
      rintro _ member _ here rfl
      cases List.mem_singleton.mp here
      exact new (List.any_eq_true.mpr ⟨p, member, p.isSame_self⟩)
  next => exact nodup

theorem nodup_orderProperties (nodup : props.Nodup) : (orderProperties props names).Nodup := by
  unfold orderProperties
  refine List.nodup_append.mpr ⟨nodup_explicitlyOrdered, ?_, ?_⟩
  · exact (List.mergeSort_perm _ _).nodup_iff.mpr (nodup.filter _)
  · rintro p ordered _ rest rfl
    have notOrdered := (List.mem_filter.mp (List.mem_mergeSort.mp rest)).2
    have isOrdered := List.any_eq_true.mpr ⟨p, ordered, p.isSame_self⟩
    rw [isOrdered] at notOrdered
    cases notOrdered

/-- Whether no two properties are written under one name. -/
def HasDistinctKeys (props : List Property) : Prop := (props.map (·.publicName)).Nodup

/-- Ordering keeps the names apart. -/
theorem hasDistinctKeys_orderProperties (distinct : HasDistinctKeys props) :
    HasDistinctKeys (orderProperties props names) := by
  refine (nodup_orderProperties distinct.of_map).map_on fun p hp q hq same => ?_
  exact List.inj_on_of_nodup_map distinct (mem_of_mem_orderProperties hp)
    (mem_of_mem_orderProperties hq) same

/-! ### The properties of a model -/

variable {table : ClassTable} {c : ClassRef}

theorem ClassTable.properties_of_complete (complete : table.requireComplete c = .ok ()) :
    table.properties c = match table.model? c with
      | some info => (table.modelProperties info).mapError .fault
      | none => .ok [] := by
  unfold properties
  rw [complete]
  rfl

/-- The properties of a model are those of its fields, unless excluded, and of its computed fields. -/
theorem ClassTable.properties_eq_ok (found : table.properties c = .ok props) :
    table.requireComplete c = .ok () ∧ match table.model? c with
      | some info => ∃ fields, (info.fields.filter fun field => !field.excluded).mapM
          table.fieldProperty = .ok fields ∧ props = fields ++ info.computed.map table.computedProperty
      | none => props = [] := by
  cases complete : table.requireComplete c with
  | error reason =>
    unfold properties at found
    rw [complete] at found
    cases found
  | ok _ =>
    refine ⟨rfl, ?_⟩
    rw [properties_of_complete complete] at found
    cases model : table.model? c with
    | none =>
      rw [model] at found
      cases found
      rfl
    | some info =>
      rw [model] at found
      dsimp only at found ⊢
      unfold modelProperties at found
      cases fields : (info.fields.filter fun field => !field.excluded).mapM table.fieldProperty with
      | error fault =>
        rw [fields] at found
        cases found
      | ok fields =>
        rw [fields] at found
        cases found
        exact ⟨_, rfl, rfl⟩

/-- Where a property comes from. -/
theorem ClassTable.origin_of_mem_properties (found : table.properties c = .ok props)
    (member : p ∈ props) : ∃ info, table.model? c = some info
      ∧ ((∃ field ∈ info.fields, table.fieldProperty field = .ok p)
        ∨ ∃ field ∈ info.computed, table.computedProperty field = p) := by
  have parts := (properties_eq_ok found).2
  cases model : table.model? c with
  | none =>
    rw [model] at parts
    subst parts
    exact absurd member List.not_mem_nil
  | some info =>
    rw [model] at parts
    obtain ⟨fields, each, rfl⟩ := parts
    refine ⟨info, rfl, ?_⟩
    rcases List.mem_append.mp member with ofField | ofComputed
    · obtain ⟨field, inside, made⟩ := exists_of_mem_mapM each ofField
      exact .inl ⟨field, (List.mem_filter.mp inside).1, made⟩
    · obtain ⟨field, inside, made⟩ := List.mem_map.mp ofComputed
      exact .inr ⟨field, inside, made⟩

/-! ### Fragments -/

/-- Whether no fragment is injected into any model. -/
def ClassTable.HasNoFragments (table : ClassTable) : Prop :=
  ∀ c info, table.model? c = some info → info.config.extra.join = none
    ∧ (∀ field ∈ info.fields, field.extra = none) ∧ ∀ field ∈ info.computed, field.extra = none

/-- Whether a declaration injects no fragment. -/
def ClassInfo.hasNoFragments (declared : ClassInfo) : Bool :=
  match declared.kind with
  | .model info => info.config.extra.join.isNone && info.fields.all (·.extra.isNone)
      && info.computed.all (·.extra.isNone)
  | _ => true

/-- So it is when no declaration injects one. -/
theorem ClassTable.hasNoFragments_of_declared
    (plain : table.classes.toList.all ClassInfo.hasNoFragments = true) : table.HasNoFragments := by
  intro c info model
  unfold ClassTable.model? at model
  split at model
  · cases model
    exact ⟨rfl, List.forall_mem_nil _, List.forall_mem_nil _⟩
  split at model
  next declared =>
    cases model
    cases c with
    | basic => cases declared
    | declared index =>
      have member := List.mem_of_getElem? (Array.getElem?_toList.trans declared)
      simpa [ClassInfo.hasNoFragments, and_assoc] using List.all_eq_true.mp plain _ member
  next => cases model

theorem ClassTable.HasNoFragments.config (plain : table.HasNoFragments) (c : ClassRef) :
    (table.config c).extra.join = none := by
  unfold ClassTable.config
  split
  next info found => exact (plain c info found).1
  next => rfl

/-- The fragment of a property is that of its field or computed field. -/
theorem ClassTable.extra_of_mem_properties (found : table.properties c = .ok props)
    (member : p ∈ props) : ∃ info, table.model? c = some info
      ∧ ((∃ field ∈ info.fields, p.extra = field.extra)
        ∨ ∃ field ∈ info.computed, p.extra = field.extra) := by
  obtain ⟨info, model, ⟨field, inside, made⟩ | ⟨field, inside, rfl⟩⟩ :=
    origin_of_mem_properties found member
  · refine ⟨info, model, .inl ⟨field, inside, ?_⟩⟩
    unfold fieldProperty at made
    obtain ⟨limits, -, made⟩ := exists_of_bind_eq_ok made
    cases made
    rfl
  · exact ⟨info, model, .inr ⟨field, inside, rfl⟩⟩

theorem ClassTable.HasNoFragments.property (plain : table.HasNoFragments)
    (found : table.properties c = .ok props) (member : p ∈ props) : p.extra = none := by
  obtain ⟨info, model, ⟨field, inside, same⟩ | ⟨field, inside, same⟩⟩ :=
    extra_of_mem_properties found member
  · exact same.trans ((plain c info model).2.1 field inside)
  · exact same.trans ((plain c info model).2.2 field inside)

end ModelSchema
