import ModelSchema.Proofs.Class.Hierarchy
import ModelSchema.Proofs.Schema.Independence
import ModelSchema.Proofs.Shape

/-!
What the walk finds: the open classes that are reached, with their subtypes.

* `Opening`: what annotations are opened at. A model leads to its type arguments and parameters, a
  type variable to its limits or its bound.
* `ClassTable.Leads`: which models an annotation leads to, with some openings left out.
* `ClassTable.enter_of_leads`: a form is deep enough for all of them, since no opening has to be made
  inside itself.
* `Catalog.Reaches`: which annotations and models are reached from some roots, said without a walk.
* `Walker.Complete.entered_of_reaches`: a walk without failure has entered all of these models.
* `registry_of_reaches`: what is registered is right, and nothing that is reached is missing.
* `not_registersReached`: with a wider notion of what is reached, something would be missing.
-/

namespace ModelSchema

/-! ### Annotations inside annotations -/

/-- The annotations directly inside an annotation. -/
def Ty.parts : Ty → List Ty
  | .annotated t _ | .array _ t | .tuple [t, .ellipsis] => [t]
  | .tuple ts | .union _ ts => ts
  | .map _ a b => [a, b]
  | _ => []

/-- What leads from an annotation to others that are not inside it. -/
inductive Opening where
  | model (c : ClassRef)
  | variable (index : Nat)
  deriving DecidableEq

/-- The annotation that is opened. -/
def Opening.ty : Opening → Ty
  | .model c => .cls c
  | .variable index => .typeVar index

namespace ClassTable

/-- Whether a class is written as an object: a model that is no leaf. -/
def isObject (table : ClassTable) (c : ClassRef) : Bool :=
  table.isBasicSubclass c .model && !table.isLeaf c

/-- What a type variable stands for: the types it is limited to, else its bound. -/
def variableTypes (table : ClassTable) (index : Nat) : List Ty :=
  match table.typeVariables[index]? with
  | none => []
  | some v => if v.limits.isEmpty then v.bound.toList else v.limits

/-- The annotations that an opening leads to. -/
def opened (table : ClassTable) : Opening → List Ty
  | .model c => if table.isObject c then table.typeArguments c else []
  | .variable index => table.variableTypes index

/-- All openings that lead somewhere. -/
def openings (table : ClassTable) : List Opening :=
  table.declared.map .model ++ (List.range table.typeVariables.size).map .variable

variable {table : ClassTable}

@[simp] theorem length_openings : table.openings.length = table.nestingDepth := by
  simp [openings, declared, nestingDepth]

@[simp] theorem typeArguments_basic (b : BasicClass) : table.typeArguments (.basic b) = [] := by
  cases b <;> rfl

theorem mem_openings_of_opened {o : Opening} {t : Ty} (member : t ∈ table.opened o) :
    o ∈ table.openings := by
  cases o with
  | model c =>
    cases c with
    | basic b => simp [opened] at member
    | declared i =>
      refine List.mem_append_left _ (List.mem_map_of_mem (declared_mem_declared.mpr ?_))
      by_contra outside
      have missing : table.classes[i]? = none := by simpa using outside
      simp [opened, typeArguments, model?, info?, missing] at member
  | «variable» i =>
    refine List.mem_append_right _ (List.mem_map_of_mem (List.mem_range.mpr ?_))
    by_contra outside
    have missing : table.typeVariables[i]? = none := by simpa using outside
    simp [opened, variableTypes, missing] at member

/-! ### What an annotation leads to -/

/-- Whether an annotation leads to a model, with some openings left out. -/
inductive Leads (table : ClassTable) (left : List Opening) (c : ClassRef) : Ty → Prop where
  | here : table.isObject c = true → Leads table left c (.cls c)
  | part {t inner : Ty} : inner ∈ t.parts → Leads table left c inner → Leads table left c t
  | opened {o : Opening} {inner : Ty} : o ∉ left → inner ∈ table.opened o →
      Leads table left c inner → Leads table left c o.ty

/-- An opening can be left out, unless it leads to the model without being made again. -/
theorem Leads.leave_out {left : List Opening} {c : ClassRef} {t : Ty} (o : Opening)
    (leads : table.Leads left c t) :
    table.Leads (o :: left) c t ∨ ∃ inner ∈ table.opened o, table.Leads (o :: left) c inner := by
  induction leads with
  | here isObject => exact .inl (.here isObject)
  | part inside _ ih => exact ih.imp_left (.part inside)
  | @opened other inner fresh inside _ ih =>
    rcases ih with ih | ih
    · by_cases same : other = o
      · subst same
        exact .inr ⟨inner, inside, ih⟩
      · exact .inl (.opened (by simp [same, fresh]) inside ih)
    · exact .inr ih

end ClassTable

/-! ### What a form leads to -/

section

variable {table : ClassTable} {step : WalkStep}

section

variable {atVariable : Nat → Shape} {argumentsOf : ClassRef → List Form} {t : Ty}

theorem mem_walkStepsOf_forms {ts : List Ty} (member : t ∈ ts)
    (isStep : step ∈ (t.shape table atVariable argumentsOf).walkSteps) :
    step ∈ walkStepsOf (Ty.forms table atVariable argumentsOf ts) := by
  induction ts with
  | nil => cases member
  | cons first rest ih =>
    rw [Ty.forms, walkStepsOf, List.mem_append, Form.walkSteps_ofTy]
    rcases List.mem_cons.mp member with rfl | later
    · exact .inl isStep
    · exact .inr (ih later)

/-- The members of a union that are left out of its form ask for nothing. -/
theorem mem_walkStepsOf_presentForms {ts : List Ty} (member : t ∈ ts)
    (isStep : step ∈ (t.shape table atVariable argumentsOf).walkSteps) :
    step ∈ walkStepsOf (Ty.presentForms table atVariable argumentsOf ts) := by
  induction ts with
  | nil => cases member
  | cons first rest ih =>
    rw [Ty.presentForms]
    split
    next nothing =>
      rcases List.mem_cons.mp member with rfl | later
      · obtain rfl : t = .none := by
          unfold Ty.same at nothing
          split at nothing <;> simp_all
        simp [Ty.shape, Shape.walkSteps] at isStep
      · exact ih later
    next =>
      rw [walkStepsOf, List.mem_append, Form.walkSteps_ofTy]
      rcases List.mem_cons.mp member with rfl | later
      · exact .inl isStep
      · exact .inr (ih later)

/-- An annotation asks for what the annotations inside it ask for. -/
theorem Ty.mem_walkSteps_of_parts {inner : Ty} (inside : inner ∈ t.parts)
    (isStep : step ∈ (inner.shape table atVariable argumentsOf).walkSteps) :
    step ∈ (t.shape table atVariable argumentsOf).walkSteps := by
  cases t with
  | annotated t notes =>
    obtain rfl := List.mem_singleton.mp inside
    simpa [Ty.shape] using isStep
  | array kind t =>
    obtain rfl := List.mem_singleton.mp inside
    simpa [Ty.shape, Shape.walkSteps] using isStep
  | map kind a b =>
    rw [Ty.shape, Shape.walkSteps, List.mem_append, Form.walkSteps_ofTy, Form.walkSteps_ofTy]
    rcases (by simpa [Ty.parts] using inside : inner = a ∨ inner = b) with rfl | rfl
    · exact .inl isStep
    · exact .inr isStep
  | union piped ts =>
    rw [Ty.shape, Shape.walkSteps]
    exact mem_walkStepsOf_presentForms (by simpa [Ty.parts] using inside) isStep
  | tuple ts =>
    unfold Ty.shape
    unfold Ty.parts at inside
    split
    · simp at inside
    next t =>
      obtain rfl := List.mem_singleton.mp inside
      simpa [Shape.walkSteps] using isStep
    next many =>
      rw [Shape.walkSteps]
      refine mem_walkStepsOf_forms ?_ isStep
      split at inside <;> simp_all
  | _ => simp [Ty.parts] at inside

end

namespace ClassTable

variable {depth : Nat} {t inner : Ty} {c : ClassRef}

theorem mem_walkSteps_of_parts (inside : inner ∈ t.parts)
    (isStep : step ∈ (table.formWithin depth inner).walkSteps) :
    step ∈ (table.formWithin depth t).walkSteps := by
  cases depth with
  | zero =>
    rw [formWithin, Form.walkSteps_ofTy] at isStep ⊢
    exact Ty.mem_walkSteps_of_parts inside isStep
  | succ depth =>
    rw [formWithin, Form.walkSteps_ofTy] at isStep ⊢
    exact Ty.mem_walkSteps_of_parts inside isStep

theorem isObject_iff : table.isObject c = true
    ↔ table.isBasicSubclass c .model = true ∧ table.isLeaf c = false := by
  simp [isObject]

section

variable (apart : ∀ c, table.isBasicSubclass c .model = true →
  table.isBasicSubclass c .enumeration = false)
include apart

theorem enter_mem_walkSteps (isObject : table.isObject c = true) :
    .enter c ∈ (table.formWithin depth (.cls c)).walkSteps := by
  obtain ⟨isModel, notLeaf⟩ := isObject_iff.mp isObject
  cases depth <;>
    simp [formWithin, Ty.shape, classShape_of_isModel isModel notLeaf (apart c isModel),
      Shape.walkSteps]

/-- A form that is one deeper asks for what an opening leads to. -/
theorem mem_walkSteps_of_opened {o : Opening} (inside : inner ∈ table.opened o)
    (isStep : step ∈ (table.formWithin depth inner).walkSteps) :
    step ∈ (table.formWithin (depth + 1) o.ty).walkSteps := by
  cases o with
  | model c =>
    rw [opened] at inside
    split at inside
    next isObject =>
      obtain ⟨isModel, notLeaf⟩ := isObject_iff.mp isObject
      rw [Opening.ty, formWithin, Form.walkSteps_ofTy, Ty.shape,
        classShape_of_isModel isModel notLeaf (apart c isModel), Shape.walkSteps]
      exact List.mem_cons_of_mem _ (mem_walkStepsOf.mpr ⟨_, List.mem_map_of_mem inside, isStep⟩)
    next => cases inside
  | «variable» i =>
    rw [Opening.ty, formWithin, Form.walkSteps_ofTy, Ty.shape]
    rw [opened, variableTypes] at inside
    rw [variableShape]
    generalize table.typeVariables[i]? = found at inside ⊢
    cases found with
    | none => cases inside
    | some v =>
      dsimp only at inside ⊢
      split at inside
      next unlimited =>
        have bound : v.bound = some inner := by simpa using inside
        simpa only [unlimited, if_true, bound, Form.walkSteps_shape] using isStep
      next limited =>
        simp only [limited, Bool.false_eq_true, if_false, Shape.walkSteps]
        exact mem_walkStepsOf.mpr ⟨_, List.mem_map_of_mem inside, isStep⟩

/-- A form asks for every model that its annotation leads to, when it is as deep as there are
openings that may be made. -/
theorem enter_of_leads {depth : Nat} {left : List Opening} {t : Ty}
    (enough : (table.openings.filter fun o => o ∉ left).length ≤ depth)
    (leads : table.Leads left c t) : .enter c ∈ (table.formWithin depth t).walkSteps := by
  induction depth generalizing left t with
  | zero =>
    have none_left := List.eq_nil_of_length_eq_zero (Nat.le_zero.mp enough)
    induction leads with
    | here isObject => exact enter_mem_walkSteps apart isObject
    | part inside _ ih => exact mem_walkSteps_of_parts inside ih
    | opened fresh inside =>
      have inList := List.filter_eq_nil_iff.mp none_left _ (mem_openings_of_opened inside)
      exact absurd fresh (by simpa using inList)
  | succ depth ihDepth =>
    induction leads with
    | here isObject => exact enter_mem_walkSteps apart isObject
    | part inside _ ih => exact mem_walkSteps_of_parts inside ih
    | @opened o inner fresh inside leads _ =>
      -- Below the opening it is not made again, so that one fewer is left for the rest of the way.
      have fewer : (table.openings.filter fun other => other ∉ o :: left).length
          < (table.openings.filter fun other => other ∉ left).length := by
        refine length_filter_lt (fun x hx => ?_) ?_ ?_ (mem_openings_of_opened inside)
        · simp at hx ⊢
          exact hx.2
        · simpa using fresh
        · simp
      obtain ⟨inner, inside, leads⟩ : ∃ inner ∈ table.opened o, table.Leads (o :: left) c inner :=
        (leads.leave_out o).elim (fun leads => ⟨_, inside, leads⟩) id
      exact mem_walkSteps_of_opened apart inside (ihDepth (by omega) leads)

theorem enter_mem_form (leads : table.Leads [] c t) : .enter c ∈ (table.form t).walkSteps :=
  enter_of_leads apart (by simp) leads

end

end ClassTable

end

/-! ### Reachability -/

/-- Something that is reached: an annotation, or a model that is entered. -/
inductive Reachable where
  | ty (t : Ty)
  | model (c : ClassRef)

/-- How far the reach goes: whether annotations enter models that are leaves as well, and whether
the type arguments and parameters of a model are followed however it was entered. -/
structure Extent where
  leaves : Bool
  arguments : Bool

/-- As far as the walk goes: leaves are not entered, and type arguments and parameters are followed
where an annotation names the model. -/
def Extent.walked : Extent := ⟨false, false⟩

namespace Catalog

/-- What is reached from some roots. An annotation leads to the annotations inside it and enters the
model that it names; a type variable leads to its limits or its bound. A model that is entered leads
to the annotations of its properties, enters the entries of its closed list, and, when it is open,
its subtypes in scope. -/
inductive Reaches (catalog : Catalog) (scope : Scope) (extent : Extent) (roots : List Ty) :
    Reachable → Prop where
  | root {t : Ty} : t ∈ roots → Reaches catalog scope extent roots (.ty t)
  | part {t inner : Ty} : Reaches catalog scope extent roots (.ty t) → inner ∈ t.parts →
      Reaches catalog scope extent roots (.ty inner)
  | variable {index : Nat} {t : Ty} :
      Reaches catalog scope extent roots (.ty (.typeVar index)) →
      t ∈ catalog.table.variableTypes index → Reaches catalog scope extent roots (.ty t)
  | named {c : ClassRef} : Reaches catalog scope extent roots (.ty (.cls c)) →
      catalog.table.isBasicSubclass c .model = true →
      extent.leaves = true ∨ catalog.table.isLeaf c = false →
      Reaches catalog scope extent roots (.model c)
  | argument {c : ClassRef} {t : Ty} :
      Reaches catalog scope extent roots (.ty (.cls c)) →
      catalog.table.isBasicSubclass c .model = true →
      extent.leaves = true ∨ catalog.table.isLeaf c = false →
      t ∈ catalog.table.typeArguments c → Reaches catalog scope extent roots (.ty t)
  | argumentOfEntered {c : ClassRef} {t : Ty} : extent.arguments = true →
      Reaches catalog scope extent roots (.model c) → t ∈ catalog.table.typeArguments c →
      Reaches catalog scope extent roots (.ty t)
  | property {c : ClassRef} {props : List Property} {p : Property} :
      Reaches catalog scope extent roots (.model c) → catalog.table.properties c = .ok props →
      p ∈ props → Reaches catalog scope extent roots (.ty p.annotation)
  | listed {c : ClassRef} {entry : ClassRef × Option String} :
      Reaches catalog scope extent roots (.model c) → entry ∈ catalog.declaredSubTypes c →
      Reaches catalog scope extent roots (.model entry.1)
  | found {c d : ClassRef} : Reaches catalog scope extent roots (.model c) →
      catalog.isOpen c = true → catalog.isBranch scope c d = true →
      Reaches catalog scope extent roots (.model d)

end Catalog

namespace Walker

variable {catalog : Catalog} {scope : Scope} {roots : List Ty} {state : WalkState} {c d : ClassRef}

/-- A subtype of an open class that was entered was entered. -/
theorem Complete.entered_of_isBranch (layered : catalog.table.Layered)
    (complete : (subclassing catalog scope).Complete roots state)
    (entered : c ∈ state.visited.map (·.1)) (isOpen : catalog.isOpen c = true)
    (isBranch : catalog.isBranch scope c d = true) : d ∈ state.visited.map (·.1) := by
  obtain ⟨entry, recorded, rfl⟩ := List.mem_map.mp entered
  obtain ⟨-, below, -⟩ := Catalog.isBranch_iff.mp isBranch
  obtain ⟨subTypes, found⟩ : ∃ subTypes,
      (subclassing catalog scope).search entry.1 = .ok subTypes := ⟨_, rfl⟩
  have member := ((mem_of_search layered found).2 d).mpr isBranch
  exact entered_of_isDone (complete.isDone_of_search layered entered isOpen found member)
    (ClassTable.mem_allClasses_of_mem_ancestors below)

/-- What is known, at the end of a walk, of something that is reached: a model was entered, and an
annotation leads to models that were entered. -/
def Covers (table : ClassTable) (state : WalkState) : Reachable → Prop
  | .ty t => ∀ c, table.Leads [] c t → c ∈ state.visited.map (·.1)
  | .model c => c ∈ state.visited.map (·.1)

/-- A walk without failure has entered every model that is reached. -/
theorem Complete.covers_of_reaches (wellFormed : catalog.WellFormed)
    (complete : (subclassing catalog scope).Complete roots state) {item : Reachable}
    (reaches : catalog.Reaches scope .walked roots item) : Covers catalog.table state item := by
  have apart : ∀ c, catalog.table.isBasicSubclass c .model = true →
      catalog.table.isBasicSubclass c .enumeration = false := fun _ => wellFormed.notEnumeration
  have isObject : ∀ {c : ClassRef}, catalog.table.isBasicSubclass c .model = true →
      Extent.walked.leaves = true ∨ catalog.table.isLeaf c = false →
      catalog.table.isObject c = true := fun isModel notLeaf =>
    ClassTable.isObject_iff.mpr ⟨isModel, notLeaf.resolve_left Bool.false_ne_true⟩
  induction reaches with
  | root member =>
    intro c leads
    have step := ClassTable.enter_mem_form apart leads
    obtain ⟨_, target, isDone⟩ := complete.settled _ (List.mem_flatMap.mpr ⟨_, member, step⟩)
    cases target
    exact entered_of_isDone isDone
      (Form.mem_allClasses_of_enter _ (ClassTable.form_classified _) step)
  | part _ inside ih => exact fun c leads => ih c (.part inside leads)
  | «variable» _ inside ih =>
    exact fun c leads => ih c (.opened (o := .variable _) List.not_mem_nil inside leads)
  | named _ isModel notLeaf ih => exact ih _ (.here (isObject isModel notLeaf))
  | argument _ isModel notLeaf inside ih =>
    refine fun c leads => ih c (.opened (o := .model _) List.not_mem_nil ?_ leads)
    rwa [ClassTable.opened, if_pos (isObject isModel notLeaf)]
  | argumentOfEntered further => cases further
  | property _ found member ih =>
    intro c leads
    obtain ⟨_, found', entered⟩ := complete.entered_of_property ih
    cases found.symm.trans found'
    exact entered _ member c (ClassTable.enter_mem_form apart leads)
  | listed _ member ih => exact complete.entered_of_listed wellFormed ih member
  | found _ isOpen isBranch ih =>
    exact complete.entered_of_isBranch wellFormed.layered ih isOpen isBranch

end Walker

/-! ### Main result -/

/-- Whether a registry has a class: with an entry of its own, or as a subtype of another one. -/
def Registry.Has (registry : Registry) (c : ClassRef) : Prop :=
  ∃ entry ∈ registry, entry.type = c ∨ c ∈ entry.subTypes

section

variable {catalog : Catalog} {scope : Scope} {roots : List Ty}

/-- An open class that was entered, and has subtypes, is in the registry. -/
theorem Walker.Complete.has_of_entered {state : WalkState} {c d : ClassRef}
    (layered : catalog.table.Layered)
    (complete : (Walker.subclassing catalog scope).Complete roots state)
    (entered : c ∈ state.visited.map (·.1)) (isOpen : catalog.isOpen c = true)
    (isBranch : catalog.isBranch scope c d = true) : state.registry.Has c := by
  obtain ⟨⟨c, subTypes⟩, recorded, rfl⟩ := List.mem_map.mp entered
  have finished := complete.finished _ recorded
  rcases finished.origin with ⟨-, search⟩ | ⟨-, closed | ⟨above, inside, covered⟩⟩
  · have member := ((mem_of_search layered search).2 d).mpr isBranch
    exact ⟨⟨c, subTypes⟩, WalkState.mem_registry_iff.mpr ⟨recorded, List.ne_nil_of_mem member⟩,
      .inl rfl⟩
  · exact absurd isOpen (Bool.eq_false_iff.mp closed)
  · exact ⟨⟨above.1, above.2⟩,
      WalkState.mem_registry_iff.mpr ⟨inside, List.ne_nil_of_mem covered⟩, .inr covered⟩

/-- Every entry of the registry is that of an open class, with all its subtypes in scope and at least
one, and no class has two. Every open class with subtypes that is reached has an entry, or is a
subtype in the entry of another one. -/
theorem registry_of_reaches (wellFormed : catalog.WellFormed) {notices : List Notice}
    {registry : Registry}
    (run : (Walker.subclassing catalog scope).run roots = (notices, .ok registry)) :
    (registry.map (·.type)).Nodup
      ∧ (∀ entry ∈ registry, catalog.isOpen entry.type = true ∧ entry.subTypes ≠ []
        ∧ entry.subTypes.Nodup
        ∧ ∀ d, d ∈ entry.subTypes ↔ catalog.isBranch scope entry.type d = true)
      ∧ ∀ c, catalog.Reaches scope .walked roots (.model c) → catalog.isOpen c = true →
        (∃ d, catalog.isBranch scope c d = true) → registry.Has c := by
  obtain ⟨state, complete, rfl, -⟩ := Walker.complete_of_run run
  refine ⟨WalkState.unique_registry complete.unique, fun entry member => ?_,
    fun c reaches isOpen ⟨d, isBranch⟩ => ?_⟩
  · obtain ⟨recorded, something⟩ := WalkState.mem_registry_iff.mp member
    obtain ⟨nodup, exactly⟩ := complete.recorded wellFormed.layered recorded something
    refine ⟨?_, something, nodup, exactly⟩
    rcases (complete.finished _ recorded).origin with ⟨isOpen, -⟩ | ⟨nothing, -⟩
    · exact isOpen
    · exact absurd nothing something
  · exact complete.has_of_entered wellFormed.layered
      (complete.covers_of_reaches wellFormed reaches) isOpen isBranch

end

/-! ### Examples -/

section

open Example

/-- A drawing leads to figures through the elements of a field, and below them to squares. Polygons
are open as well, and are found below figures. -/
theorem registry_of_reaches_polygon :
    figures.Reaches .everything .walked [.cls drawing] (.model polygon)
      ∧ Registry.Has [⟨figure, [polygon, square]⟩] polygon := by
  have reaches : figures.Reaches .everything .walked [.cls drawing] (.model polygon) := by
    refine .found (c := figure) ?_ rfl (by decide)
    have fields : figures.table.properties drawing = .ok _ := rfl
    refine .named (.part (.property (.named (.root List.mem_cons_self) rfl (.inr rfl)) fields
      List.mem_cons_self) ?_) rfl (.inr rfl)
    exact List.mem_cons_self
  have wellFormed : figures.WellFormed := by decide
  obtain ⟨-, -, complete⟩ :=
    registry_of_reaches wellFormed (Walker.run_of_walks walks_figures)
  exact ⟨reaches, complete polygon reaches rfl ⟨square, by decide⟩⟩

/-- Whether walks register every open class with subtypes that is reached, to some extent. -/
def RegistersReached (extent : Extent) : Prop :=
  ∀ (catalog : Catalog) (scope : Scope) (roots : List Ty) (notices : List Notice)
    (registry : Registry), catalog.WellFormed →
    (Walker.subclassing catalog scope).run roots = (notices, .ok registry) →
    ∀ c, catalog.Reaches scope extent roots (.model c) → catalog.isOpen c = true →
      (∃ d, catalog.isBranch scope c d = true) → registry.Has c

/-- Volumes are found below publications, and have no properties. -/
theorem walks_library :
    (Walker.subclassing library .everything).Walks .start
      ((Walker.subclassing library .everything).rootSteps [.cls publication])
      ⟨[(publication, [volume]), (volume, [])], [(publication, 1)]⟩ := by
  have search : (Walker.subclassing library .everything).search publication = .ok [volume] := rfl
  have sorted : (Walker.subclassing library .everything).coverSteps [volume] = [.cover volume] :=
    congrArg (List.map WalkStep.cover) (List.mergeSort_singleton volume)
  refine .search rfl rfl search ?_
  rw [sorted]
  exact .plain rfl rfl (.inr rfl) .done

/-- Neither part of the wider extent is walked. A link is a leaf, so that its own walk does not enter
it. A volume is entered as a publication, so that its parameter is not followed to persons. -/
theorem not_registersReached :
    ¬ RegistersReached ⟨true, false⟩ ∧ ¬ RegistersReached ⟨false, true⟩ := by
  constructor
  · intro registers
    have alone : (Walker.subclassing links .everything).Walks .start
        ((Walker.subclassing links .everything).rootSteps [.cls link]) .start := .done
    have reaches : links.Reaches .everything ⟨true, false⟩ [.cls link] (.model link) :=
      .named (.root List.mem_cons_self) rfl (.inl rfl)
    obtain ⟨entry, member, -⟩ := registers links .everything _ _ _ (by decide)
      (Walker.run_of_walks alone) link reaches rfl ⟨deepLink, by decide⟩
    cases member
  · intro registers
    have entered : library.Reaches .everything ⟨false, true⟩ [.cls publication] (.model volume) :=
      .found (.named (.root List.mem_cons_self) rfl (.inr rfl)) rfl (by decide)
    have parameter : library.Reaches .everything ⟨false, true⟩ [.cls publication]
        (.ty (.typeVar 0)) := .argumentOfEntered rfl entered List.mem_cons_self
    have reaches : library.Reaches .everything ⟨false, true⟩ [.cls publication] (.model person) :=
      .named (.variable parameter List.mem_cons_self) rfl (.inr rfl)
    obtain ⟨entry, member, has⟩ := registers library .everything _ _ _ (by decide)
      (Walker.run_of_walks walks_library) person reaches rfl ⟨novelist, by decide⟩
    have member : entry ∈ [⟨publication, [volume]⟩] := member
    cases List.mem_singleton.mp member
    revert has
    decide

end

end ModelSchema
