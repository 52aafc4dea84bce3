import ModelSchema.Proofs.Calls
import ModelSchema.Proofs.Class.Creation
import ModelSchema.Proofs.Schema.Definitions

/-!
Building ends.

Here a document is built call by call. A body calls for its properties, these for their annotations, an
annotation for those inside of it, and what refers to a class calls for the body of its definition, unless
there is one. Classes lead to each other in any way, a registry sends a class to any others, and the root
can be among the definitions. The calls end all the same: every definition leaves fewer classes without
one, and in between annotations get smaller or lead to what was created earlier.

* `BuildPart`, `BuildTask`: what a call is for.
* `SchemaSource.perform`: what a call does, and which calls it makes.
* `SchemaSource.ends`: the calls come to an end.
* `SchemaSource.nodup_bodies`: no body is built twice for one purpose.
* `SchemaSource.extendOutline_of_runs`: they do what is done by following the references.
* `SchemaSource.tree_ends`: so every run of building a document ends, with a tree or a failure.
-/

namespace ModelSchema

/-- The body of the document itself, or that of a definition. -/
inductive BodyRole where
  | root
  | definition (c : ClassRef)

/-- A part of a document: a body, a property in it, the node of an annotation, or that of the shape of
an annotation. -/
inductive BuildPart where
  | body (role : BodyRole)
  | property (owner : ClassRef) (p : Property)
  | node (owner : ClassRef) (t : Ty)
  | shape (owner : ClassRef) (t : Ty)

/-- What a call is for: a part, or something that happens in it. -/
inductive BuildTask where
  | part (part : BuildPart)
  | step (step : OutlineStep)

/-- The body that a call is for. -/
def BuildTask.body? : BuildTask → Option BodyRole
  | .part (.body role) => some role
  | _ => none

/-- The forms inside a shape that get nodes of their own. -/
def Shape.built : Shape → List Form
  | .object _ _ => []
  | .map _ value => [value]
  | shape => shape.contained

theorem Shape.mem_contained_of_mem_built {shape : Shape} {form : Form} (member : form ∈ shape.built) :
    form ∈ shape.contained := by
  cases shape with
  | object c arguments => exact absurd member List.not_mem_nil
  | map key value => exact List.mem_cons_of_mem _ member
  | _ => exact member

namespace SchemaSource

/-! ### The calls -/

/-- The class whose body it is. -/
def bodyType (source : SchemaSource) : BodyRole → ClassRef
  | .root => source.root
  | .definition c => c

/-- The calls that the body of a class makes. -/
def bodyTasks (source : SchemaSource) (c : ClassRef) (props : List Property) : List BuildTask :=
  (source.bodyProperties c props).map (fun p => .part (.property c p))
    ++ (fragmentSteps (source.catalog.table.config c).extra.join).map .step

/-- The calls that a property makes. -/
def propertyTasks (source : SchemaSource) (owner : ClassRef) (p : Property) : List BuildTask :=
  (if p.conflicting then
      [.step (.notice (.conflictingRequirement p.publicName
        (source.catalog.table.qualifiedName owner)))]
    else [])
    ++ .part (.node owner p.annotation) :: (fragmentSteps p.extra).map .step

/-- What happens at a shape, but for the forms inside of it. -/
def ownSteps (source : SchemaSource) (owner : ClassRef) : Shape → List OutlineStep
  | .leaf c | .enumeration (some c) [] => source.leafSteps owner c
  | .enumeration none [] => [.fail (.fault (source.emptyLiteral owner))]
  | .object c _ => source.objectSteps c
  | .unsupported reason => [.fail reason]
  | _ => []

/-- The calls that a type variable makes: it is what it is bound to, or a union of its limits. -/
def variableTasks (source : SchemaSource) (owner : ClassRef) (index : Nat) : List BuildTask :=
  match source.catalog.table.typeVariables[index]? with
  | none => []
  | some v =>
    if v.limits.isEmpty then v.bound.toList.map fun t => .part (.shape owner t)
    else v.limits.map fun t => .part (.node owner t)

/-- The calls that the shape of an annotation makes. -/
def shapeTasks (source : SchemaSource) (owner : ClassRef) : Ty → List BuildTask
  | .annotated t _ => [.part (.shape owner t)]
  | .typeVar i => source.variableTasks owner i
  | t =>
    (source.ownSteps owner (source.catalog.table.surface t)).map .step
      ++ (source.catalog.table.surface t).built.map fun form => .part (.node owner form.source)

/-- The calls that a part makes. -/
def partTasks (source : SchemaSource) : BuildPart → Except Failure (List BuildTask)
  | .body role =>
    match source.catalog.table.properties (source.bodyType role) with
    | .error reason => .error reason
    | .ok props => .ok (source.bodyTasks (source.bodyType role) props)
  | .property owner p => .ok (source.propertyTasks owner p)
  | .node owner t =>
    match limitsOf t.stripped.2 with
    | .error fault => .error (.fault fault)
    | .ok _ => .ok [.part (.shape owner t)]
  | .shape owner t => .ok (source.shapeTasks owner t)

/-- The calls that a new definition makes. -/
def definitionTasks (c : ClassRef) : DefinitionKind → List BuildTask
  | .model => [.part (.body (.definition c))]
  | .fixed _ => []

/-- What a call does, and which calls it makes. The name of a definition is taken before its body is
built. -/
def perform (source : SchemaSource) (outline : Outline) :
    BuildTask → Except Failure (Outline × List BuildTask)
  | .part part =>
    match source.partTasks part with
    | .error reason => .error reason
    | .ok tasks => .ok (outline, tasks)
  | .step (.fail reason) => .error reason
  | .step (.notice notice) => .ok (outline.report notice, [])
  | .step (.reference c label kind) =>
    if outline.has c then .ok (outline, [])
    else .ok (outline.define c label kind, definitionTasks c kind)

/-- The calls that a document begins with. -/
def rootTasks (source : SchemaSource) : List BuildTask :=
  match source.subTypes source.root with
  | [] => [.part (.body .root)]
  | subTypes => subTypes.map fun s => .step (source.modelReference s)

/-- Whether the class that a task is a reference to, if it is one, is one of the table. -/
def HasKnownClass (source : SchemaSource) : BuildTask → Prop
  | .step (.reference c _ _) => c ∈ source.catalog.table.allClasses
  | _ => True

variable {source : SchemaSource} {outline after final : Outline} {owner : ClassRef}
  {part : BuildPart} {task made : BuildTask} {tasks inner : List BuildTask}

/-- What a call does, told for the calls that do not fail. -/
inductive Performs (source : SchemaSource) (outline : Outline) :
    BuildTask → Outline → List BuildTask → Prop where
  | part {part : BuildPart} {tasks : List BuildTask} : source.partTasks part = .ok tasks →
      Performs source outline (.part part) outline tasks
  | report {notice : Notice} :
      Performs source outline (.step (.notice notice)) (outline.report notice) []
  | again {c : ClassRef} {label : String} {kind : DefinitionKind} : outline.has c = true →
      Performs source outline (.step (.reference c label kind)) outline []
  | define {c : ClassRef} {label : String} {kind : DefinitionKind} : outline.has c = false →
      Performs source outline (.step (.reference c label kind)) (outline.define c label kind)
        (definitionTasks c kind)

theorem performs_of_perform (performed : source.perform outline task = .ok (after, inner)) :
    source.Performs outline task after inner := by
  match task with
  | .part part =>
    rw [perform] at performed
    split at performed
    · cases performed
    next made =>
      cases performed
      exact .part made
  | .step (.fail reason) => cases performed
  | .step (.notice notice) =>
    cases performed
    exact .report
  | .step (.reference c label kind) =>
    rw [perform] at performed
    split at performed
    next has =>
      cases performed
      exact .again has
    next fresh =>
      cases performed
      exact .define (Bool.eq_false_iff.mpr fresh)

/-! ### What calls are made -/

/-- The failure of a fragment is no reference. -/
theorem hasKnownClass_of_mem_fragmentSteps {fragment : Option Fragment} {step : OutlineStep}
    (member : step ∈ fragmentSteps fragment) : source.HasKnownClass (.step step) := by
  cases step with
  | reference c label kind => exact absurd member reference_notMem_fragmentSteps
  | _ => trivial

/-- What happens at a shape are references to classes of the table. -/
theorem hasKnownClass_of_mem_ownSteps (lists : source.catalog.ListsClasses)
    (isOver : source.registry.IsOver source.catalog.table) {shape : Shape}
    (classified : shape.Classified source.catalog.table) {step : OutlineStep}
    (member : step ∈ source.ownSteps owner shape) : source.HasKnownClass (.step step) := by
  cases step with
  | reference d label kind =>
    unfold ownSteps at member
    split at member
    · exact (isFixedReference_of_mem_leafSteps member).mem_allClasses
    · exact (isFixedReference_of_mem_leafSteps member).mem_allClasses
    · cases List.mem_singleton.mp member
    next c arguments =>
      rcases (origin_of_mem_objectSteps member).2 with rfl | isSubType
      · exact ClassTable.mem_allClasses_of_mem_ancestors (ClassTable.isSubclass_iff.mp classified.1)
      · exact mem_allClasses_of_subType lists isOver isSubType
    · cases List.mem_singleton.mp member
    · exact absurd member List.not_mem_nil
  | _ => trivial

theorem shapeTasks_eq {t : Ty} (notNoted : ∀ u notes, t ≠ .annotated u notes)
    (notVariable : ∀ i, t ≠ .typeVar i) :
    source.shapeTasks owner t = (source.ownSteps owner (source.catalog.table.surface t)).map .step
      ++ (source.catalog.table.surface t).built.map
        fun form => .part (.node owner form.source) := by
  unfold shapeTasks
  split
  · exact absurd rfl (notNoted _ _)
  · exact absurd rfl (notVariable _)
  · rfl

/-- The calls that the shape of an annotation makes are for what happens there, and for what comes next
in the annotation. -/
theorem mem_shapeTasks {t : Ty} (member : made ∈ source.shapeTasks owner t) :
    (∃ step ∈ source.ownSteps owner (source.catalog.table.surface t), made = .step step)
      ∨ ∃ u ∈ source.catalog.table.followed t,
        made = .part (.shape owner u) ∨ made = .part (.node owner u) := by
  cases t.layer with
  | annotated u notes =>
    exact .inr ⟨u, List.mem_cons_self, .inl (List.mem_singleton.mp member)⟩
  | «variable» i =>
    have member : made ∈ source.variableTasks owner i := member
    have next : source.catalog.table.followed (.typeVar i)
        = source.catalog.table.variableTypes i := rfl
    unfold variableTasks at member
    rw [next, ClassTable.variableTypes]
    split at member
    · exact absurd member List.not_mem_nil
    · split at member
      · obtain ⟨u, inside, rfl⟩ := List.mem_map.mp member
        exact .inr ⟨u, by simp_all, .inl rfl⟩
      · obtain ⟨u, inside, rfl⟩ := List.mem_map.mp member
        exact .inr ⟨u, by simp_all, .inr rfl⟩
  | own notNoted notVariable =>
    rw [shapeTasks_eq notNoted notVariable] at member
    rcases List.mem_append.mp member with own | inside
    · obtain ⟨step, happens, rfl⟩ := List.mem_map.mp own
      exact .inl ⟨step, happens, rfl⟩
    · obtain ⟨form, isBuilt, rfl⟩ := List.mem_map.mp inside
      refine .inr ⟨form.source, ?_, .inr rfl⟩
      rw [ClassTable.followed_eq notNoted notVariable]
      exact List.mem_map_of_mem (Shape.mem_contained_of_mem_built isBuilt)

/-! ### Building ends -/

/-- Which calls can make which others while nothing is defined. -/
inductive Below (table : ClassTable) : BuildTask → BuildTask → Prop where
  | step {step : OutlineStep} {part : BuildPart} : Below table (.step step) (.part part)
  | property {owner : ClassRef} {p : Property} {role : BodyRole} :
      Below table (.part (.property owner p)) (.part (.body role))
  | node {owner ownerElse : ClassRef} {t : Ty} {p : Property} :
      Below table (.part (.node owner t)) (.part (.property ownerElse p))
  | shape {owner ownerElse : ClassRef} {t : Ty} :
      Below table (.part (.shape owner t)) (.part (.node ownerElse t))
  | next {owner ownerElse : ClassRef} {t u : Ty} : u ∈ table.followed t →
      Below table (.part (.shape owner u)) (.part (.shape ownerElse t))
  | inside {owner ownerElse : ClassRef} {t u : Ty} : u ∈ table.followed t →
      Below table (.part (.node owner u)) (.part (.shape ownerElse t))

theorem wellFounded_below {table : ClassTable} (inOrder : table.IsCreatedInOrder) :
    WellFounded (Below table) := by
  have step : ∀ step, Acc (Below table) (.step step) := fun step => ⟨_, fun made below => nomatch below⟩
  have node : ∀ t, (∀ owner, Acc (Below table) (.part (.shape owner t))) →
      ∀ owner, Acc (Below table) (.part (.node owner t)) := by
    refine fun t shape owner => ⟨_, fun made below => ?_⟩
    cases below with
    | step => exact step _
    | shape => exact shape _
  have shape : ∀ t owner, Acc (Below table) (.part (.shape owner t)) := by
    intro t
    induction t using (ClassTable.wellFounded_followed inOrder).induction with
    | _ t ih =>
    refine fun owner => ⟨_, fun made below => ?_⟩
    cases below with
    | step => exact step _
    | next followed => exact ih _ followed _
    | inside followed => exact node _ (ih _ followed) _
  have property : ∀ owner p, Acc (Below table) (.part (.property owner p)) := by
    refine fun owner p => ⟨_, fun made below => ?_⟩
    cases below with
    | step => exact step _
    | node => exact node _ (shape _) _
  refine ⟨fun task => ?_⟩
  cases task with
  | step s => exact step s
  | part part =>
    cases part with
    | shape owner t => exact shape t owner
    | node owner t => exact node t (shape t) owner
    | property owner p => exact property owner p
    | body role =>
      refine ⟨_, fun made below => ?_⟩
      cases below with
      | step => exact step _
      | property => exact property _ _

/-- A part makes calls below itself, for classes of the table. -/
theorem below_of_mem_partTasks (lists : source.catalog.ListsClasses)
    (isOver : source.registry.IsOver source.catalog.table) (parted : source.partTasks part = .ok tasks)
    (member : made ∈ tasks) :
    source.HasKnownClass made ∧ Below source.catalog.table made (.part part) := by
  have fragment : ∀ {fragment part}, made ∈ (fragmentSteps fragment).map BuildTask.step →
      source.HasKnownClass made ∧ Below source.catalog.table made (.part part) := by
    intro fragment part member
    obtain ⟨step, inside, rfl⟩ := List.mem_map.mp member
    exact ⟨hasKnownClass_of_mem_fragmentSteps inside, .step⟩
  cases part with
  | body role =>
    rw [partTasks] at parted
    split at parted
    · cases parted
    next props found =>
      cases parted
      rcases List.mem_append.mp member with ofProperty | ofFragment
      · obtain ⟨p, -, rfl⟩ := List.mem_map.mp ofProperty
        exact ⟨trivial, .property⟩
      · exact fragment ofFragment
  | property owner p =>
    cases parted
    rcases List.mem_append.mp member with notice | later
    · split at notice
      · cases List.mem_singleton.mp notice
        exact ⟨trivial, .step⟩
      · exact absurd notice List.not_mem_nil
    · rcases List.mem_cons.mp later with rfl | ofFragment
      · exact ⟨trivial, .node⟩
      · exact fragment ofFragment
  | node owner t =>
    rw [partTasks] at parted
    split at parted
    · cases parted
    next limits found =>
      cases parted
      cases List.mem_singleton.mp member
      exact ⟨trivial, .shape⟩
  | shape owner t =>
    cases parted
    rcases mem_shapeTasks member with ⟨step, happens, rfl⟩ | ⟨u, next, rfl | rfl⟩
    · exact ⟨hasKnownClass_of_mem_ownSteps lists isOver (ClassTable.surface_classified t) happens, .step⟩
    · exact ⟨trivial, .next next⟩
    · exact ⟨trivial, .inside next⟩

/-- A call makes calls for classes of the table, and defines a class or makes only calls below it. -/
theorem Performs.progress (lists : source.catalog.ListsClasses)
    (isOver : source.registry.IsOver source.catalog.table)
    (performs : source.Performs outline task after inner) (isKnown : source.HasKnownClass task) :
    (∀ made ∈ inner, source.HasKnownClass made)
      ∧ ((after.undefined source.catalog.table).length
          < (outline.undefined source.catalog.table).length
        ∨ ((after.undefined source.catalog.table).length
            ≤ (outline.undefined source.catalog.table).length
          ∧ ∀ made ∈ inner, Below source.catalog.table made task)) := by
  cases performs with
  | part parted =>
    have each : ∀ made ∈ inner, source.HasKnownClass made ∧ Below source.catalog.table made (.part _) :=
      fun made member => below_of_mem_partTasks lists isOver parted member
    exact ⟨fun made member => (each made member).1,
      .inr ⟨Nat.le_refl _, fun made member => (each made member).2⟩⟩
  | report | again => exact ⟨fun _ member => absurd member List.not_mem_nil,
      .inr ⟨Nat.le_refl _, fun _ member => absurd member List.not_mem_nil⟩⟩
  | @define c label kind fresh =>
    refine ⟨fun made member => ?_, .inl (Outline.undefined_define_lt isKnown fresh)⟩
    cases kind with
    | model =>
      cases List.mem_singleton.mp member
      trivial
    | fixed schema => exact absurd member List.not_mem_nil

/-- However classes refer to each other, calls for classes of the table come to an end. -/
theorem ends (inOrder : source.catalog.table.IsCreatedInOrder) (lists : source.catalog.ListsClasses)
    (isOver : source.registry.IsOver source.catalog.table)
    (known : ∀ task ∈ tasks, source.HasKnownClass task) : Ends source.perform outline tasks := by
  refine ends_of_wellFounded (fun outline => (outline.undefined source.catalog.table).length)
    (wellFounded_below inOrder) (fun outline task after inner isKnown performed => ?_) known
  exact (performs_of_perform performed).progress lists isOver isKnown

/-! ### Bodies are built once -/

/-- Whether a body has been called for: that of the document is at once, that of a definition when the
definition has got its name. -/
def IsBegun (outline : Outline) : BodyRole → Prop
  | .root => True
  | .definition c => outline.has c = true

/-- Only references call for bodies. -/
theorem Below.body?_eq_none {table : ClassTable} (below : Below table made task) :
    made.body? = none := by
  cases below <;> rfl

/-- The body of the document is built once, and that of a definition when the class is defined. -/
theorem nodup_bodies (lists : source.catalog.ListsClasses)
    (isOver : source.registry.IsOver source.catalog.table) {outcome : Option Failure}
    (run : Runs source.perform outline tasks inner final outcome)
    (once : (tasks.filterMap BuildTask.body?).Nodup)
    (begun : ∀ role ∈ tasks.filterMap BuildTask.body?, IsBegun outline role) :
    (inner.filterMap BuildTask.body?).Nodup := by
  refine (run.nodup BuildTask.body? IsBegun ?_ ?_ once begun).1
  · intro outline task after inner performed role isBegun
    cases role with
    | root => trivial
    | definition c =>
      cases performs_of_perform performed with
      | define => exact Outline.has_define.mpr (.inl isBegun)
      | _ => exact isBegun
  · intro outline task after inner performed
    cases performs_of_perform performed with
    | part parted =>
      have none : inner.filterMap BuildTask.body? = [] :=
        List.filterMap_eq_nil_iff.mpr fun made member =>
          (below_of_mem_partTasks lists isOver parted member).2.body?_eq_none
      rw [none]
      exact ⟨List.nodup_nil, fun _ member => absurd member List.not_mem_nil⟩
    | report | again => exact ⟨List.nodup_nil, fun _ member => absurd member List.not_mem_nil⟩
    | @define c label kind fresh =>
      cases kind with
      | fixed schema => exact ⟨List.nodup_nil, fun _ member => absurd member List.not_mem_nil⟩
      | model =>
        refine ⟨List.nodup_singleton _, fun role member => ?_⟩
        cases List.mem_singleton.mp member
        exact ⟨Bool.eq_false_iff.mp fresh, Outline.has_define.mpr (.inr rfl)⟩

/-! ### The calls do what the steps do -/

/-- The steps that a part stands for. -/
def partSteps (source : SchemaSource) : BuildPart → List OutlineStep
  | .body role => source.bodySteps (source.bodyType role)
  | .property owner p => source.propertySteps owner p
  | .node owner t => source.formSteps owner (source.catalog.table.form t)
  | .shape owner t => source.shapeSteps owner (source.catalog.table.form t).shape

/-- The steps that a task stands for. -/
def stepsFor (source : SchemaSource) : BuildTask → List OutlineStep
  | .part part => source.partSteps part
  | .step step => [step]

theorem formsSteps_eq_flatMap {forms : List Form} :
    source.formsSteps owner forms = forms.flatMap (source.formSteps owner) := by
  induction forms with
  | nil => rfl
  | cons form rest ih => rw [formsSteps, ih, List.flatMap_cons]

theorem flatMap_stepsFor_step {steps : List OutlineStep} :
    (steps.map BuildTask.step).flatMap source.stepsFor = steps := by
  simp [List.flatMap_map, stepsFor]

/-- A type variable asks for what its calls ask for. -/
theorem shapeSteps_variableShape {i : Nat} :
    source.shapeSteps owner (source.catalog.table.variableShape source.catalog.table.form i)
      = (source.variableTasks owner i).flatMap source.stepsFor := by
  unfold ClassTable.variableShape variableTasks
  cases source.catalog.table.typeVariables[i]? with
  | none => rfl
  | some v =>
    dsimp only
    split
    · cases v.bound <;> simp [shapeSteps, stepsFor, partSteps]
    · simp [shapeSteps, formsSteps_eq_flatMap, List.flatMap_map, stepsFor, partSteps]

/-- A shape asks for what happens at it, and for what the forms inside of it ask for. -/
theorem shapeSteps_refill {shape : Shape} {f : Ty → Form} :
    source.shapeSteps owner (shape.refill f) = source.ownSteps owner shape
      ++ shape.built.flatMap fun form => source.formSteps owner (f form.source) := by
  cases shape with
  | enumeration of values =>
    cases of <;> cases values <;> simp [Shape.refill, shapeSteps, ownSteps, Shape.built, Shape.contained]
  | _ => simp [Shape.refill, shapeSteps, ownSteps, Shape.built, Shape.contained,
      formsSteps_eq_flatMap, List.flatMap_map]

/-- The shape of an annotation asks for what its calls ask for. -/
theorem shapeSteps_form (inOrder : source.catalog.table.IsCreatedInOrder) (t : Ty) :
    source.shapeSteps owner (source.catalog.table.form t).shape
      = (source.shapeTasks owner t).flatMap source.stepsFor := by
  cases t.layer with
  | annotated u notes =>
    rw [ClassTable.shape_form_annotated inOrder]
    exact (List.append_nil _).symm
  | «variable» i =>
    rw [ClassTable.shape_form_typeVar inOrder]
    exact shapeSteps_variableShape
  | own notNoted notVariable =>
    rw [ClassTable.shape_form inOrder notNoted notVariable, shapeTasks_eq notNoted notVariable,
      shapeSteps_refill, List.flatMap_append, flatMap_stepsFor_step, List.flatMap_map]
    rfl

/-- A part asks for what the calls ask for that it makes, or first of all fails. -/
theorem partSteps_eq (inOrder : source.catalog.table.IsCreatedInOrder) (part : BuildPart) :
    (∃ tasks, source.partTasks part = .ok tasks
        ∧ source.partSteps part = tasks.flatMap source.stepsFor)
      ∨ ∃ reason more, source.partTasks part = .error reason
        ∧ source.partSteps part = .fail reason :: more := by
  cases part with
  | body role =>
    rw [partTasks, partSteps, bodySteps]
    cases source.catalog.table.properties (source.bodyType role) with
    | error reason => exact .inr ⟨reason, [], rfl, rfl⟩
    | ok props =>
      refine .inl ⟨_, rfl, ?_⟩
      rw [bodyTasks, List.flatMap_append, flatMap_stepsFor_step, List.flatMap_map]
      rfl
  | property owner p =>
    refine .inl ⟨_, rfl, ?_⟩
    rw [propertyTasks, List.flatMap_append, List.flatMap_cons, flatMap_stepsFor_step, partSteps,
      propertySteps, List.append_assoc]
    split <;> rfl
  | node owner t =>
    have form : source.catalog.table.form t
        = .of t t.stripped.2 (source.catalog.table.form t).shape := by
      rw [ClassTable.form_eq inOrder]
      rfl
    have steps := formSteps.eq_1 source owner t t.stripped.2 (source.catalog.table.form t).shape
    rw [← form] at steps
    rw [partTasks, partSteps, steps]
    cases limitsOf t.stripped.2 with
    | error fault => exact .inr ⟨_, _, rfl, rfl⟩
    | ok limits => exact .inl ⟨_, rfl, (List.append_nil _).symm⟩
  | shape owner t => exact .inl ⟨_, rfl, shapeSteps_form inOrder t⟩

theorem isDefined_eq_has {c : ClassRef} (known : c ∈ source.catalog.table.allClasses) :
    source.isDefined outline c = outline.has c := by
  simp [isDefined, known]

/-- A call does the first of the steps that are to be done. -/
theorem extendOutline_of_performs (inOrder : source.catalog.table.IsCreatedInOrder)
    (isKnown : source.HasKnownClass task) (performs : source.Performs outline task after inner)
    (rest : List OutlineStep) :
    source.extendOutline outline (source.stepsFor task ++ rest)
      = source.extendOutline after (inner.flatMap source.stepsFor ++ rest) := by
  cases performs with
  | @part part tasks parted =>
    rcases partSteps_eq inOrder part with ⟨same, made, steps⟩ | ⟨reason, more, failed, -⟩
    · cases parted.symm.trans made
      rw [stepsFor, steps]
    · cases parted.symm.trans failed
  | report => rw [stepsFor, List.singleton_append, extendOutline, List.flatMap_nil, List.nil_append]
  | again has =>
    rw [stepsFor, List.singleton_append, extendOutline,
      dif_pos ((isDefined_eq_has isKnown).trans has), List.flatMap_nil, List.nil_append]
  | @define c label kind fresh =>
    have undefined : source.isDefined outline c = false := (isDefined_eq_has isKnown).trans fresh
    have steps : (definitionTasks c kind).flatMap source.stepsFor = source.definitionSteps c kind := by
      cases kind <;> simp [definitionTasks, definitionSteps, stepsFor, partSteps, bodyType]
    rw [stepsFor, List.singleton_append, extendOutline, dif_neg (Bool.eq_false_iff.mp undefined),
      steps]

/-- A call that fails ends the steps as well. -/
theorem extendOutline_of_failed (inOrder : source.catalog.table.IsCreatedInOrder) {reason : Failure}
    (failed : source.perform outline task = .error reason) (rest : List OutlineStep) :
    source.extendOutline outline (source.stepsFor task ++ rest) = (outline, some reason) := by
  match task with
  | .part part =>
    rw [perform] at failed
    rcases partSteps_eq inOrder part with ⟨tasks, made, -⟩ | ⟨cause, more, isFailed, steps⟩
    · rw [made] at failed
      cases failed
    · rw [isFailed] at failed
      cases failed
      rw [stepsFor, steps, List.cons_append, extendOutline]
  | .step (.fail cause) =>
    cases failed
    rw [stepsFor, List.singleton_append, extendOutline]
  | .step (.notice notice) => cases failed
  | .step (.reference c label kind) =>
    rw [perform] at failed
    split at failed <;> cases failed

/-- The pending calls do all of the steps that they stand for, or fail where these fail. -/
theorem extendOutline_of_runs (inOrder : source.catalog.table.IsCreatedInOrder)
    (lists : source.catalog.ListsClasses) (isOver : source.registry.IsOver source.catalog.table)
    {calls : List BuildTask} {outcome : Option Failure}
    (run : Runs source.perform outline tasks calls final outcome)
    (known : ∀ task ∈ tasks, source.HasKnownClass task) :
    source.extendOutline outline (tasks.flatMap source.stepsFor) = (final, outcome) := by
  induction run with
  | done => rw [List.flatMap_nil, extendOutline]
  | fails failed => rw [List.flatMap_cons, extendOutline_of_failed inOrder failed]
  | @makes outline after final task inner rest calls outcome isCall _ ih =>
    have performs := performs_of_perform isCall
    have isKnown := known task List.mem_cons_self
    rw [List.flatMap_cons, extendOutline_of_performs inOrder isKnown performs, ← List.flatMap_append]
    refine ih fun made member => ?_
    exact (List.mem_append.mp member).elim ((performs.progress lists isOver isKnown).1 made)
      fun later => known made (List.mem_cons_of_mem _ later)

/-! ### Main result -/

/-- What a document begins with asks for the steps of the root. -/
theorem flatMap_stepsFor_rootTasks : source.rootTasks.flatMap source.stepsFor = source.rootSteps := by
  unfold rootTasks rootSteps
  cases source.subTypes source.root with
  | nil => exact List.append_nil _
  | cons s rest =>
    rw [List.flatMap_map]
    exact (List.map_eq_flatMap ..).symm

theorem hasKnownClass_rootTasks (lists : source.catalog.ListsClasses)
    (isOver : source.registry.IsOver source.catalog.table) :
    ∀ task ∈ source.rootTasks, source.HasKnownClass task := by
  intro task member
  unfold rootTasks at member
  split at member
  · cases List.mem_singleton.mp member
    trivial
  next some =>
    obtain ⟨s, isSubType, rfl⟩ := List.mem_map.mp member
    exact mem_allClasses_of_subType lists isOver isSubType

/-- Of the bodies, a document begins with its own at most. -/
theorem nodup_body?_rootTasks (source : SchemaSource) :
    (source.rootTasks.filterMap BuildTask.body?).Nodup
      ∧ ∀ role ∈ source.rootTasks.filterMap BuildTask.body?, IsBegun .start role := by
  unfold rootTasks
  split
  · refine ⟨List.nodup_singleton _, fun role member => ?_⟩
    cases List.mem_singleton.mp member
    trivial
  · have none : ((source.subTypes source.root).map fun s =>
        BuildTask.step (source.modelReference s)).filterMap BuildTask.body? = [] := by
      refine List.filterMap_eq_nil_iff.mpr fun task member => ?_
      obtain ⟨s, -, rfl⟩ := List.mem_map.mp member
      rfl
    rw [none]
    exact ⟨List.nodup_nil, fun _ member => absurd member List.not_mem_nil⟩

/-- However fields, closed lists, subclasses and the registry lead from class to class, the calls by
which a document is made come to an end, in one way only. The body of the document is built once at
most, and so is the body of the definition of each class. A name for a definition is found after no
more attempts than there are names already, and it is not one of these. What the calls end with is the
tree, or why there is none. -/
theorem tree_ends (inOrder : source.catalog.table.IsCreatedInOrder)
    (lists : source.catalog.ListsClasses) (isOver : source.registry.IsOver source.catalog.table) :
    (∃ made final outcome, Runs source.perform .start source.rootTasks made final outcome
      ∧ (∀ madeElse finalElse outcomeElse,
        Runs source.perform .start source.rootTasks madeElse finalElse outcomeElse →
          madeElse = made ∧ finalElse = final ∧ outcomeElse = outcome)
      ∧ (made.filterMap BuildTask.body?).Nodup
      ∧ source.tree = (final.notices, match outcome with
        | none => .ok (.dict (source.document final))
        | some failure => .error failure))
    ∧ ∀ (taken : List String) (label : String), ∃ n ≤ taken.length,
      uniqueName taken label = nameAttempt (sanitizedName label) n
        ∧ uniqueName taken label ∉ taken ∧ ∀ m < n, nameAttempt (sanitizedName label) m ∈ taken := by
  refine ⟨?_, uniqueName_first⟩
  have known := hasKnownClass_rootTasks lists isOver
  have ended : Ends source.perform .start source.rootTasks := ends inOrder lists isOver known
  obtain ⟨made, final, outcome, run⟩ := ended
  obtain ⟨once, begun⟩ := source.nodup_body?_rootTasks
  refine ⟨made, final, outcome, run, fun _ _ _ other => other.unique run,
    nodup_bodies lists isOver run once begun, ?_⟩
  have outlined : source.outline = (final, outcome) := by
    rw [outline, ← flatMap_stepsFor_rootTasks]
    exact extendOutline_of_runs inOrder lists isOver run known
  rw [tree, outlined]
  cases outcome <;> rfl

end SchemaSource

/-! ### An example -/

section

open Example

/-- Nothing is opened where there are neither type variables nor generic models. -/
theorem isCreatedInOrder_figures : figures.table.IsCreatedInOrder := by
  refine ⟨fun _ => 0, fun o t member => ?_⟩
  have isOpening : o ∈ [.model figure, .model polygon, .model square, .model drawing] :=
    ClassTable.mem_openings_of_opened member
  simp only [List.mem_cons, List.not_mem_nil, or_false] at isOpening
  rcases isOpening with rfl | rfl | rfl | rfl <;> cases member

/-- In this registry drawings are among their own subtypes, and among those of figures. Building the
document of a drawing ends nevertheless, and builds no body twice. -/
theorem tree_ends_drawing :
    ∃ made final outcome,
      Runs (SchemaSource.mk figures [⟨figure, [drawing, square]⟩, ⟨drawing, [figure, drawing]⟩]
        drawing).perform .start (SchemaSource.mk figures
          [⟨figure, [drawing, square]⟩, ⟨drawing, [figure, drawing]⟩] drawing).rootTasks
        made final outcome
      ∧ (made.filterMap BuildTask.body?).Nodup := by
  have wellFormed : figures.WellFormed := by decide
  have isOver : Registry.IsOver [⟨figure, [drawing, square]⟩, ⟨drawing, [figure, drawing]⟩]
      figures.table := by
    unfold Registry.IsOver
    decide
  have inOrder : (SchemaSource.mk figures [⟨figure, [drawing, square]⟩, ⟨drawing, [figure, drawing]⟩]
      drawing).catalog.table.IsCreatedInOrder := isCreatedInOrder_figures
  obtain ⟨⟨made, final, outcome, run, -, once, -⟩, -⟩ :=
    SchemaSource.tree_ends inOrder wellFormed.listsClasses isOver
  exact ⟨made, final, outcome, run, once⟩

end

end ModelSchema
