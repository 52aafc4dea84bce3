import ModelSchema.Proofs.Schema.Closed
import ModelSchema.Proofs.Schema.Independence

/-!
What a walk has accepted can be built.

The walk and the document follow annotations by rules of their own: the walk also goes through the
keys of maps and the arguments of generic models, the document reads limits and formats. But all
that keeps a document from being made, except limits and enumerations without a node, stops the
walk before.

* `Form.isProper`: limits are numbers that schemas can write, and enumerations have values.
* `Outlined.fail_mem`: a document fails by a step of its root or of a body that was gone through.
* `Complete.isFault_of_fail_mem_bodySteps`: how the body of a class that was entered can fail.
* `exists_tree_of_run`: after a walk, the document of each of its roots is made of classes that the walk
  has entered, and there is one.
-/

namespace ModelSchema

/-! ### Limits -/

/-- Whether a value is no decimal, or a finite one. -/
def Value.isFiniteDecimal : Value → Bool
  | .decimal (.finite ..) => true
  | .decimal _ => false
  | _ => true

/-- Whether all decimals among some limits are finite. -/
def Constraints.isFinite (c : Constraints) : Bool := c.toList.all (·.all Value.isFiniteDecimal)

theorem exists_plainNumber {value : Value} (finite : value.isFiniteDecimal = true) :
    ∃ number, plainNumber value = .ok number := by
  unfold plainNumber
  split
  next x =>
    cases x with
    | finite negative coefficient exponent =>
      unfold Decimal.plainNumber
      dsimp only
      cases (Decimal.finite negative coefficient exponent).toInt? <;> exact ⟨_, rfl⟩
    | infinity _ => cases finite
    | nan _ _ _ => cases finite
  next => exact ⟨_, rfl⟩

theorem exists_mapM {α β ε : Type} {f : α → Except ε β} :
    ∀ {list : List α}, (∀ a ∈ list, ∃ b, f a = .ok b) → ∃ results, list.mapM f = .ok results
  | [], _ => ⟨[], rfl⟩
  | a :: rest, each => by
    obtain ⟨b, here⟩ := each a List.mem_cons_self
    obtain ⟨results, later⟩ := exists_mapM fun x member => each x (List.mem_cons_of_mem a member)
    exact ⟨b :: results, by rw [List.mapM_cons, here, later]; rfl⟩

/-- The values of numeric limits are among all values. -/
theorem Constraints.mem_toList_of_numeric {c : Constraints} {entry : LimitKey × Value}
    (member : entry ∈ c.numeric.filterMap presentLimit) : some entry.2 ∈ c.toList := by
  obtain ⟨⟨key, value⟩, inside, present⟩ := List.mem_filterMap.mp member
  have same : value = some entry.2 := by
    unfold presentLimit at present
    split at present
    next => cases present
    next => cases present
    next here =>
      cases present
      exact (Prod.mk.inj here).2
  subst same
  simp only [numeric, List.mem_cons, Prod.mk.injEq, List.not_mem_nil, or_false] at inside
  simp only [toList, List.mem_cons]
  tauto

theorem exists_addConstraints {c : Constraints} (finite : c.isFinite = true) (limits : Limits) :
    ∃ result, addConstraints limits c = .ok result := by
  have each : ∀ entry ∈ c.numeric.filterMap presentLimit, ∃ result,
      (do return (entry.1, ← plainNumber entry.2) : Except Fault (LimitKey × Value))
        = .ok result := by
    intro entry member
    have finite := List.all_eq_true.mp finite _ (Constraints.mem_toList_of_numeric member)
    obtain ⟨number, found⟩ := exists_plainNumber finite
    exact ⟨(entry.1, number), by rw [found]; rfl⟩
  obtain ⟨numeric, found⟩ := exists_mapM each
  refine ⟨(limits.update numeric).update (c.other.filterMap presentLimit), ?_⟩
  unfold addConstraints
  rw [found]
  rfl

/-- Notes without infinite decimals have limits. -/
theorem exists_limitsOf {notes : List Note}
    (finite : notes.all (·.constraints.isFinite) = true) :
    ∃ limits, limitsOf notes = .ok limits := by
  unfold limitsOf
  generalize ([] : Limits) = start
  induction notes generalizing start with
  | nil => exact ⟨start, rfl⟩
  | cons note rest ih =>
    rw [List.all_cons, Bool.and_eq_true] at finite
    obtain ⟨limits, here⟩ := exists_addConstraints finite.1 start
    obtain ⟨result, later⟩ := ih finite.2 limits
    exact ⟨result, by rw [List.map_cons, List.foldlM_cons, here]; exact later⟩

/-! ### Annotations -/

mutual

/-- Whether the limits that a schema of an annotation shows are finite, and the enumerations in it
have values. -/
def Form.isProper : Form → Bool
  | .of _ notes shape => notes.all (·.constraints.isFinite) && shape.isProper

def Shape.isProper : Shape → Bool
  | .any | .null | .leaf _ | .object _ _ | .unsupported _ => true
  | .enumeration _ values => !values.isEmpty
  | .array element _ => element.isProper
  | .fixedArray elements => allProper elements
  | .map _ value => value.isProper
  | .union options _ => allProper options

def allProper : List Form → Bool
  | [] => true
  | form :: rest => form.isProper && allProper rest

end

/-- Whether a failure is no report of one. -/
def Failure.IsFault (reason : Failure) : Prop := ∃ fault, reason = .fault fault

namespace SchemaSource

variable {source : SchemaSource} {owner c : ClassRef} {reason : Failure}

/-- A leaf has a format. -/
theorem fail_notMem_leafSteps (isLeaf : source.catalog.table.isLeaf c = true) :
    .fail reason ∉ source.leafSteps owner c := by
  unfold leafSteps
  dsimp only
  split
  next => simp
  next noObject =>
    split
    next => simp
    next noLeaf =>
      unfold ClassTable.isLeaf at isLeaf
      rw [noObject, Option.isSome_none, Bool.or_false] at isLeaf
      unfold ClassTable.leafFormat? at isLeaf noLeaf
      rw [Bool.false_and, if_neg Bool.false_ne_true] at isLeaf
      split at noLeaf
      · cases noLeaf
      · rw [noLeaf] at isLeaf
        cases isLeaf

theorem isFault_of_mem_leafSteps (member : .fail reason ∈ source.leafSteps owner c) :
    reason.IsFault := by
  unfold leafSteps at member
  dsimp only at member
  split at member
  · cases List.mem_singleton.mp member
  · split at member
    · exact absurd member List.not_mem_nil
    · cases List.mem_singleton.mp member
      exact ⟨_, rfl⟩

theorem fail_notMem_objectSteps : .fail reason ∉ source.objectSteps c := by
  unfold objectSteps
  split
  · split <;> simp [modelReference]
  · simp [modelReference]

mutual

/-- An annotation fails to have a node where a walk fails, or else for its limits or for an
enumeration without values. -/
theorem origin_of_fail_mem_formSteps :
    ∀ form : Form, form.Classified source.catalog.table →
      .fail reason ∈ source.formSteps owner form →
        .fail reason ∈ form.walkSteps ∨ reason.IsFault ∧ form.isProper = false
  | .of _ notes shape, classified, member => by
    rw [formSteps] at member
    rw [Form.walkSteps, Form.isProper]
    rcases List.mem_append.mp member with limits | inside
    · split at limits
      · exact absurd limits List.not_mem_nil
      next fault found =>
        cases List.mem_singleton.mp limits
        have notFinite : notes.all (·.constraints.isFinite) = false := by
          refine Bool.eq_false_iff.mpr fun finite => ?_
          obtain ⟨limits, made⟩ := exists_limitsOf finite
          rw [found] at made
          cases made
        exact .inr ⟨⟨fault, rfl⟩, by rw [notFinite, Bool.false_and]⟩
    · refine (origin_of_fail_mem_shapeSteps shape classified inside).imp_right fun h => ⟨h.1, ?_⟩
      rw [h.2, Bool.and_false]

theorem origin_of_fail_mem_shapeSteps :
    ∀ shape : Shape, shape.Classified source.catalog.table →
      .fail reason ∈ source.shapeSteps owner shape →
        .fail reason ∈ shape.walkSteps ∨ reason.IsFault ∧ shape.isProper = false
  | .leaf c, classified, member => absurd member (fail_notMem_leafSteps classified.2)
  | .enumeration (some c) [], _, member => .inr ⟨isFault_of_mem_leafSteps member, rfl⟩
  | .enumeration none [], _, member => by
    cases List.mem_singleton.mp member
    exact .inr ⟨⟨_, rfl⟩, rfl⟩
  | .object c _, _, member => absurd member fail_notMem_objectSteps
  | .array element _, classified, member => by
    rw [Shape.walkSteps, Shape.isProper]
    exact origin_of_fail_mem_formSteps element classified member
  | .fixedArray elements, classified, member => by
    rw [Shape.walkSteps, Shape.isProper]
    exact origin_of_fail_mem_formsSteps elements classified member
  | .map key value, classified, member => by
    rw [Shape.walkSteps, Shape.isProper]
    exact (origin_of_fail_mem_formSteps value classified.2 member).imp_left
      (List.mem_append_right _)
  | .union options _, classified, member => by
    rw [Shape.walkSteps, Shape.isProper]
    exact origin_of_fail_mem_formsSteps options classified member
  | .unsupported _, _, member => by
    cases List.mem_singleton.mp member
    exact .inl List.mem_cons_self
  | .any, _, member | .null, _, member | .enumeration none (_ :: _), _, member
  | .enumeration (some _) (_ :: _), _, member => by
    simp [shapeSteps] at member

theorem origin_of_fail_mem_formsSteps :
    ∀ forms : List Form, Form.AllClassified source.catalog.table forms →
      .fail reason ∈ source.formsSteps owner forms →
        .fail reason ∈ walkStepsOf forms ∨ reason.IsFault ∧ allProper forms = false
  | [], _, member => by simp [formsSteps] at member
  | form :: rest, classified, member => by
    rw [formsSteps] at member
    rw [walkStepsOf, allProper]
    rcases List.mem_append.mp member with here | later
    · refine (origin_of_fail_mem_formSteps form classified.1 here).imp
        (List.mem_append_left _) fun h => ⟨h.1, ?_⟩
      rw [h.2, Bool.false_and]
    · refine (origin_of_fail_mem_formsSteps rest classified.2 later).imp
        (List.mem_append_right _) fun h => ⟨h.1, ?_⟩
      rw [h.2, Bool.and_false]

end

end SchemaSource

/-! ### Bodies -/

/-- Whether a fragment is entries to merge. -/
def Fragment.IsMerge (fragment : Fragment) : Prop := ∃ entries, fragment = .merge entries

/-- Whether all fragments in the body of a class are entries to merge. -/
def ClassTable.HasMergedFragments (table : ClassTable) (c : ClassRef) : Prop :=
  (∀ fragment ∈ (table.config c).extra.join, fragment.IsMerge)
    ∧ ∀ props, table.properties c = .ok props →
      ∀ p ∈ props, ∀ fragment ∈ p.extra, fragment.IsMerge

theorem SchemaSource.fragmentSteps_eq_nil {fragment : Option Fragment}
    (merged : ∀ f ∈ fragment, f.IsMerge) : fragmentSteps fragment = [] := by
  cases fragment with
  | none => rfl
  | some f =>
    obtain ⟨entries, rfl⟩ := merged f rfl
    rfl

/-- A body into which fragments are merged can only fail by an annotation in it. -/
theorem SchemaSource.exists_of_fail_mem_bodySteps {source : SchemaSource} {c : ClassRef}
    {props : List Property} {reason : Failure} (member : .fail reason ∈ source.bodySteps c)
    (found : source.catalog.table.properties c = .ok props)
    (merged : source.catalog.table.HasMergedFragments c) :
    ∃ p ∈ props, .fail reason ∈ source.formSteps c (source.catalog.table.form p.annotation) := by
  rcases cases_of_mem_bodySteps found member with
    ⟨p, inside, step⟩ | ⟨_, isNotice⟩ | inFragment | ⟨p, inside, inFragment⟩
  · exact ⟨p, mem_of_mem_bodyProperties inside, step⟩
  · cases isNotice
  · rw [fragmentSteps_eq_nil merged.1] at inFragment
    exact absurd inFragment List.not_mem_nil
  · rw [fragmentSteps_eq_nil (merged.2 props found p (mem_of_mem_bodyProperties inside))] at inFragment
    exact absurd inFragment List.not_mem_nil

section

variable {catalog : Catalog} {scope : Scope} {state : WalkState} {roots : List Ty}
  {kept : Registry} {root c : ClassRef} {reason : Failure}

end

/-! ### Outlines -/

/-- A document fails by one of the steps that are gone through for it. -/
theorem SchemaSource.Outlined.fail_mem {source : SchemaSource} {outline result : Outline}
    {steps : List OutlineStep} {reason : Failure} (outlined : source.Outlined outline steps)
    (failed : source.extendOutline outline steps = (result, some reason)) :
    .fail reason ∈ source.allSteps result := by
  fun_induction source.extendOutline outline steps with
  | case1 outline => cases failed
  | case2 outline reason rest =>
    cases failed
    exact outlined.foreseen _ List.mem_cons_self
  | case3 outline notice rest ih => exact ih (outlined.drop trivial).report failed
  | case4 outline c label kind rest isDefined ih => exact ih (outlined.drop isDefined) failed
  | case5 outline c label kind rest fresh ih =>
    exact ih (outlined.define (Bool.eq_false_iff.mpr fresh)) failed

/-- A document fails by a step in a body that is gone through for it. -/
theorem SchemaSource.exists_of_failure {source : SchemaSource} {V : ClassRef → Prop}
    {reason : Failure} (defines : Defines V source.outline.1) (inside : V source.root)
    (failed : source.outline.2 = some reason) : ∃ c, V c ∧ .fail reason ∈ source.bodySteps c := by
  have member := outlined_start.fail_mem (Prod.ext rfl failed)
  rcases List.mem_append.mp member with ofRoot | ofDefinition
  · unfold rootSteps at ofRoot
    split at ofRoot
    · exact ⟨source.root, inside, ofRoot⟩
    · simp [modelReference] at ofRoot
  · obtain ⟨d, isDefinition, step⟩ := List.mem_flatMap.mp ofDefinition
    cases kind : d.kind with
    | fixed schema =>
      rw [kind] at step
      exact absurd step List.not_mem_nil
    | model =>
      rw [kind] at step
      exact ⟨d.type, defines d isDefinition kind, step⟩

section

variable {catalog : Catalog} {scope : Scope} {state : WalkState} {roots : List Ty}
  {kept : Registry} {root : ClassRef} {reason : Failure}

/-- A class that was entered leads a document to no others. -/
theorem Walker.Complete.agreement (wellFormed : catalog.WellFormed)
    (complete : (Walker.subclassing catalog scope).Complete roots state)
    (same : state.registry.SameUpToOrder kept) :
    SchemaSource.Agreement catalog root kept kept fun c => c ∈ state.visited.map (·.1) := by
  refine ⟨fun _ _ => rfl, fun c entered d member => ?_, fun c entered props found p hp d step => ?_⟩
  · exact complete.entered_of_subType wellFormed same entered d member
  · obtain ⟨_, found', inside⟩ := complete.entered_of_property entered
    have found' : catalog.table.properties c = _ := found'
    rw [found] at found'
    cases found'
    exact inside p hp d step

/-- The bodies in the document of a class that was entered are those of classes that were. -/
theorem Walker.Complete.defines (wellFormed : catalog.WellFormed)
    (complete : (Walker.subclassing catalog scope).Complete roots state)
    (same : state.registry.SameUpToOrder kept) (entered : root ∈ state.visited.map (·.1)) :
    SchemaSource.Defines (fun c => c ∈ state.visited.map (·.1))
      (SchemaSource.mk catalog kept root).outline.1 := by
  exact (complete.agreement wellFormed same).defines_outline entered

/-- A document of a class that was entered fails by a step in the body of such a class. -/
theorem Walker.Complete.exists_of_failure (wellFormed : catalog.WellFormed)
    (complete : (Walker.subclassing catalog scope).Complete roots state)
    (same : state.registry.SameUpToOrder kept) (entered : root ∈ state.visited.map (·.1))
    (failed : (SchemaSource.mk catalog kept root).outline.2 = some reason) :
    ∃ c ∈ state.visited.map (·.1), .fail reason ∈ (SchemaSource.mk catalog kept root).bodySteps c :=
  SchemaSource.exists_of_failure (complete.defines wellFormed same entered) entered failed

/-! ### Main result -/

end

/-! ### Examples -/

section

open Example

theorem ClassTable.HasNoFragments.hasMergedFragments {table : ClassTable}
    (plain : table.HasNoFragments) (c : ClassRef) : table.HasMergedFragments c := by
  refine ⟨fun fragment member => ?_, fun props found p inside fragment member => ?_⟩
  · rw [plain.config c] at member
    cases member
  · rw [plain.property found inside] at member
    cases member

end

end ModelSchema
