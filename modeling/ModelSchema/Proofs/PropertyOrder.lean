import Mathlib.Data.List.Induction
import ModelSchema.Example.Figures
import ModelSchema.Proofs.Property

/-!
When an explicit order of properties is obeyed.

A name in an explicit order is looked up among public names and names alike, and the first property
that has it is meant. So a name of one property can stand in the way of the public name of a later one.

* `orderProperties_perm`: whatever the order, the properties are all there, each once.
* `namedProperty?_eq_some`: a public name means its property, unless a property before has it as name.
* `explicitlyOrdered_eq`: public names that all mean their properties give these properties.
* `isObeyed_of_resolved`: then they come first, as listed, and the others by public name.
* `orderProperties_isObeyed`: every order of public names is obeyed exactly when no name of a
  property is the public name of a later one.
-/

namespace ModelSchema

variable {props : List Property} {p : Property} {key : String} {order : List String}

/-- Whether the properties listed in an explicit order come first, as listed, and all others follow
by public name. -/
def IsObeyed (props : List Property) (order : List String) : Prop :=
  ∃ first rest, orderProperties props order = first ++ rest
    ∧ first.map (·.publicName) = order ∧ (rest.map (·.publicName)).Pairwise (· < ·)

/-! ### All properties are kept -/

/-- Properties with different names are not the same one. -/
theorem apartFromEachOther_of_nodup (named : (props.map (·.name)).Nodup) :
    ApartFromEachOther props := by
  intro p hp q hq same
  exact List.inj_on_of_nodup_map named hp hq (Property.isSame_iff.mp same).1

theorem orderProperties_perm (named : (props.map (·.name)).Nodup) :
    (orderProperties props order).Perm props := by
  have nodup : props.Nodup := named.of_map
  refine (List.perm_ext_iff_of_nodup (nodup_orderProperties nodup) nodup).mpr fun p => ?_
  constructor
  · exact mem_of_mem_orderProperties
  · exact mem_orderProperties (apartFromEachOther_of_nodup named)

/-! ### What a public name means -/

/-- What a name in an explicit order means has it as public name, if any property does and none
before has it as name. -/
theorem namedProperty?_eq_some (distinct : HasDistinctKeys props) (member : p ∈ props)
    (clear : props.Pairwise fun q p => p.publicName = key → q.name ≠ key)
    (keyed : p.publicName = key) : namedProperty? props key = some p := by
  induction props with
  | nil => cases member
  | cons q rest ih =>
    obtain ⟨clearHere, clear⟩ := List.pairwise_cons.mp clear
    obtain ⟨apart, distinct⟩ := List.nodup_cons.mp distinct
    rcases List.mem_cons.mp member with rfl | member
    · simp [namedProperty?, keyed]
    · have key_ne : q.publicName ≠ key := by
        intro same
        exact apart (List.mem_map.mpr ⟨p, member, keyed.trans same.symm⟩)
      have name_ne : q.name ≠ key := clearHere p member keyed
      have skipped : namedProperty? (q :: rest) key = namedProperty? rest key := by
        simp [namedProperty?, key_ne, name_ne]
      rw [skipped]
      exact ih distinct member clear

/-- Public names all mean their properties exactly when none of them is the name of a property
before. -/
theorem namedProperty?_publicName_iff (distinct : HasDistinctKeys props) :
    (∀ p ∈ props, namedProperty? props p.publicName = some p)
      ↔ props.Pairwise fun q p => q.name ≠ p.publicName := by
  constructor
  · intro resolved
    induction props with
    | nil => exact .nil
    | cons q rest ih =>
      obtain ⟨apart, distinct⟩ := List.nodup_cons.mp distinct
      have clear : ∀ p ∈ rest, q.name ≠ p.publicName := by
        intro p member same
        have found := resolved p (List.mem_cons_of_mem _ member)
        have head : q = p := by simpa [namedProperty?, same] using found
        exact apart (List.mem_map.mpr ⟨p, member, congrArg _ head.symm⟩)
      refine .cons clear (ih distinct fun p member => ?_)
      have key_ne : q.publicName ≠ p.publicName := by
        intro same
        exact apart (List.mem_map.mpr ⟨p, member, same.symm⟩)
      have found := resolved p (List.mem_cons_of_mem _ member)
      simpa [namedProperty?, key_ne, clear p member] using found
  · intro clear p member
    refine namedProperty?_eq_some distinct member (clear.imp ?_) rfl
    intro q r apart same name
    exact apart (name.trans same.symm)

/-! ### What comes first -/

/-- An order of one name puts first what the name means. -/
theorem explicitlyOrdered_singleton (found : namedProperty? props key = some p) :
    explicitlyOrdered props [key] = [p] := by
  simp [explicitlyOrdered, found]

/-- One more name puts what it means behind what is there, unless that is there already. -/
theorem explicitlyOrdered_concat (found : namedProperty? props key = some p)
    (new : ∀ q ∈ explicitlyOrdered props order, p.isSame q = false) :
    explicitlyOrdered props (order ++ [key]) = explicitlyOrdered props order ++ [p] := by
  have notOrdered : (explicitlyOrdered props order).any p.isSame = false := by
    rw [List.any_eq_false]
    intro q member
    simp [new q member]
  unfold explicitlyOrdered at notOrdered ⊢
  rw [List.foldl_append, List.foldl_cons, List.foldl_nil, found]
  simp only [notOrdered, Bool.false_eq_true, if_false]

/-- Public names that mean their properties give them one after the other. -/
theorem explicitlyOrdered_eq {listed : List Property}
    (resolved : ∀ p ∈ listed, namedProperty? props p.publicName = some p)
    (named : (listed.map (·.name)).Nodup) :
    explicitlyOrdered props (listed.map (·.publicName)) = listed := by
  -- From the right, so that what is there is what the names before have put there.
  induction listed using List.reverseRecOn with
  | nil => rfl
  | append_singleton before p ih =>
    rw [List.map_append] at named
    obtain ⟨namedBefore, -, apart⟩ := List.nodup_append.mp named
    have already : explicitlyOrdered props (before.map (·.publicName)) = before :=
      ih (fun q member => resolved q (List.mem_append_left _ member)) namedBefore
    have found : namedProperty? props p.publicName = some p := resolved p (by simp)
    have new : ∀ q ∈ explicitlyOrdered props (before.map (·.publicName)), p.isSame q = false := by
      intro q member
      rw [already] at member
      rw [Bool.eq_false_iff]
      intro same
      exact apart q.name (List.mem_map_of_mem member) p.name (by simp)
        (Property.isSame_iff.mp same).1.symm
    rw [List.map_append, List.map_singleton, explicitlyOrdered_concat found new, already]

/-- A list of public names is that of a list of properties. -/
theorem exists_map_publicName_eq (keys : ∀ key ∈ order, ∃ p ∈ props, p.publicName = key) :
    ∃ listed : List Property, listed.map (·.publicName) = order ∧ ∀ p ∈ listed, p ∈ props := by
  induction order with
  | nil => exact ⟨[], rfl, List.forall_mem_nil _⟩
  | cons key rest ih =>
    obtain ⟨p, member, rfl⟩ := keys key List.mem_cons_self
    obtain ⟨listed, rfl, members⟩ := ih fun other inside => keys other (List.mem_cons_of_mem _ inside)
    exact ⟨p :: listed, rfl, List.forall_mem_cons.mpr ⟨member, members⟩⟩

/-! ### What follows -/

/-- Properties that are not listed follow by public name. -/
theorem pairwise_lt_rest (ordered : List Property) (distinct : HasDistinctKeys props) :
    (((props.filter fun p => !ordered.any p.isSame).mergeSort fun p q =>
      p.publicName ≤ q.publicName).map (·.publicName)).Pairwise (· < ·) := by
  set rest := props.filter fun p => !ordered.any p.isSame with rest_eq
  have sorted : (rest.mergeSort fun p q => p.publicName ≤ q.publicName).Pairwise
      fun p q => decide (p.publicName ≤ q.publicName) = true := by
    refine List.pairwise_mergeSort ?_ ?_ rest
    · intro p q r before after
      have after := of_decide_eq_true after
      exact decide_eq_true (String.le_trans (of_decide_eq_true before) after)
    · intro p q
      rcases String.le_total p.publicName q.publicName with le | le <;> simp [le]
  have apart : (rest.mergeSort fun p q => p.publicName ≤ q.publicName).Pairwise
      fun p q => p.publicName ≠ q.publicName := by
    have kept : (rest.map (·.publicName)).Nodup := distinct.sublist (List.filter_sublist.map _)
    have perm := (List.mergeSort_perm rest fun p q => p.publicName ≤ q.publicName).map
      (·.publicName)
    exact List.pairwise_map.mp (perm.nodup_iff.mpr kept)
  refine List.pairwise_map.mpr ((sorted.and apart).imp ?_)
  rintro p q ⟨le, ne⟩
  exact String.not_le.mp fun ge => ne (String.le_antisymm (of_decide_eq_true le) ge)

/-- An order of public names that mean their properties is obeyed. -/
theorem isObeyed_of_resolved {listed : List Property} (distinct : HasDistinctKeys props)
    (named : (listed.map (·.name)).Nodup)
    (resolved : ∀ p ∈ listed, namedProperty? props p.publicName = some p) :
    IsObeyed props (listed.map (·.publicName)) := by
  refine ⟨listed, _, ?_, rfl, pairwise_lt_rest listed distinct⟩
  unfold orderProperties
  rw [explicitlyOrdered_eq resolved named]

/-- When a single public name is obeyed, it means its property. -/
theorem namedProperty?_of_isObeyed (distinct : HasDistinctKeys props) (member : p ∈ props)
    (obeyed : IsObeyed props [p.publicName]) :
    namedProperty? props p.publicName = some p := by
  obtain ⟨q, found⟩ : ∃ q, namedProperty? props p.publicName = some q := by
    refine Option.isSome_iff_exists.mp (List.find?_isSome.mpr ⟨p, member, ?_⟩)
    simp
  obtain ⟨first, rest, order_eq, keys, -⟩ := obeyed
  obtain ⟨r, rfl, keyed⟩ : ∃ r, first = [r] ∧ r.publicName = p.publicName := by
    simpa [List.map_eq_singleton_iff] using keys
  unfold orderProperties at order_eq
  rw [explicitlyOrdered_singleton found] at order_eq
  obtain rfl : q = r := (List.cons.inj order_eq).1
  rw [found, List.inj_on_of_nodup_map distinct (namedProperty?_mem found) member keyed]

/-! ### When orders are obeyed -/

/-- Ordering properties keeps each of them, whatever the order. An order of different public names is
obeyed when no property has one of them as its name that stands before the one it is the public name
of; and all such orders are obeyed exactly when no property has as its name the public name of a later
one. -/
theorem orderProperties_isObeyed (named : (props.map (·.name)).Nodup)
    (distinct : HasDistinctKeys props) :
    (∀ order, (orderProperties props order).Perm props)
      ∧ (∀ order, order.Nodup → (∀ key ∈ order, ∃ p ∈ props, p.publicName = key) →
        (props.Pairwise fun q p => p.publicName ∈ order → q.name ≠ p.publicName) →
          IsObeyed props order)
      ∧ ((∀ order, order.Nodup → (∀ key ∈ order, ∃ p ∈ props, p.publicName = key) →
          IsObeyed props order) ↔ props.Pairwise fun q p => q.name ≠ p.publicName) := by
  have obeyed : ∀ order, order.Nodup → (∀ key ∈ order, ∃ p ∈ props, p.publicName = key) →
      (props.Pairwise fun q p => p.publicName ∈ order → q.name ≠ p.publicName) →
        IsObeyed props order := by
    intro order nodup keys clear
    obtain ⟨listed, rfl, members⟩ := exists_map_publicName_eq keys
    refine isObeyed_of_resolved distinct ?_ ?_
    · exact nodup.of_map.map_on fun p hp q hq same =>
        List.inj_on_of_nodup_map named (members p hp) (members q hq) same
    · intro p member
      refine namedProperty?_eq_some distinct (members p member) (clear.imp ?_) rfl
      intro q r apart same
      exact same ▸ apart (same ▸ List.mem_map_of_mem member)
  refine ⟨fun order => orderProperties_perm named, obeyed, ?_⟩
  constructor
  · intro all
    refine (namedProperty?_publicName_iff distinct).mp fun p member => ?_
    refine namedProperty?_of_isObeyed distinct member (all _ (List.nodup_singleton _) ?_)
    intro key inside
    exact ⟨p, member, (List.mem_singleton.mp inside).symm⟩
  · intro clear order nodup keys
    refine obeyed order nodup keys (clear.imp ?_)
    intro q p apart _
    exact apart

/-! ### Examples -/

section

open Example

/-- The depth and the height of a frame come first, although the width is called height. -/
theorem orderProperties_isObeyed_frame :
    (frameProperties.map (·.name)).Nodup ∧ HasDistinctKeys frameProperties
      ∧ IsObeyed frameProperties ["depth", "height"] := by
  have named : (frameProperties.map (·.name)).Nodup := by decide
  have distinct : HasDistinctKeys frameProperties := by unfold HasDistinctKeys; decide
  obtain ⟨-, obeyed, -⟩ := orderProperties_isObeyed named distinct
  exact ⟨named, distinct, obeyed _ (by decide) (by decide) (by decide)⟩

/-- The width of a frame cannot be put behind its height, because it is called like the key of the
height. -/
theorem not_orderProperties_isObeyed_frame :
    ¬ ∀ (props : List Property) (order : List String), (props.map (·.name)).Nodup →
      HasDistinctKeys props → order.Nodup → (∀ key ∈ order, ∃ p ∈ props, p.publicName = key) →
      IsObeyed props order := by
  intro obeyed
  have distinct : HasDistinctKeys frameProperties := by unfold HasDistinctKeys; decide
  obtain ⟨first, rest, order_eq, keys, -⟩ :=
    obeyed frameProperties ["width", "height"] (by decide) distinct (by decide) (by decide)
  have ordered : explicitlyOrdered frameProperties ["width", "height"] = [width] := rfl
  unfold orderProperties at order_eq
  rw [ordered] at order_eq
  cases first with
  | nil => cases keys
  | cons p others =>
    obtain rfl : width = p := (List.cons.inj order_eq).1
    exact absurd (List.cons.inj keys).1 (by decide)

end

end ModelSchema
