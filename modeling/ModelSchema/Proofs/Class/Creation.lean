import ModelSchema.Proofs.Polymorphism.Reach

/-!
Classes and type variables are created one after the other.

What a type variable is bound or limited to, and the arguments of a generic model, were there when it was
created. So no chain of such openings comes back to where it began, and a form is deep enough to hold
all that is reached by opening.

* `Ty.Mentions`: the classes and type variables in an annotation.
* `ClassTable.IsCreatedInOrder`: whether openings mention only what was created earlier.
* `ClassTable.form_eq`: then the depth of a form is never felt.
* `ClassTable.surface`, `ClassTable.followed`: an annotation is gone into layer by layer.
* `ClassTable.shape_form`: a form is made of these layers.
* `ClassTable.wellFounded_followed`: and this ends.
-/

namespace ModelSchema

/-- Whether a class or a type variable is in an annotation. -/
inductive Ty.Mentions (o : Opening) : Ty → Prop where
  | here : Mentions o o.ty
  | part {t inner : Ty} : inner ∈ t.parts → Mentions o inner → Mentions o t

/-- A class and a type variable mention nothing but themselves. -/
theorem Ty.Mentions.eq {o other : Opening} (mentions : o.ty.Mentions other) : other = o := by
  generalize same : o.ty = t at mentions
  cases mentions with
  | here => cases o <;> cases other <;> cases same <;> rfl
  | part inside =>
    subst same
    cases o <;> cases inside

/-- The items of a fixed array are inside of it. -/
theorem Ty.parts_tuple {ts : List Ty} (notOpen : ∀ t, ts = [t, .ellipsis] → False) :
    (Ty.tuple ts).parts = ts := by
  unfold Ty.parts
  split <;> simp_all

namespace ClassTable

/-- Whether classes and type variables can have been created in some order, in which what a type
variable is bound or limited to, and the arguments and parameters of a generic model, mention only
earlier ones. -/
def IsCreatedInOrder (table : ClassTable) : Prop :=
  ∃ created : Opening → Nat, ∀ o, ∀ t ∈ table.opened o, ∀ other, t.Mentions other →
    created other < created o

variable {table : ClassTable} {t : Ty}

/-! ### Forms of the same openings -/

section

variable {atVariable atVariableElse : Nat → Shape} {argumentsOf argumentsElse : ClassRef → List Form}

/-- Only an object shows its arguments. -/
theorem classShape_congr {c : ClassRef} {arguments others : List Form}
    (same : table.isObject c = true → arguments = others) :
    table.classShape arguments c = table.classShape others c := by
  by_cases isObject : table.isObject c = true
  · rw [same isObject]
  · have notObject : ¬ (table.isBasicSubclass c .model = true ∧ table.isLeaf c = false) :=
      fun both => isObject (isObject_iff.mpr both)
    unfold classShape
    split_ifs <;> simp_all

mutual

/-- The shape of an annotation depends on the shapes of what it mentions. -/
theorem shape_congr :
    ∀ t : Ty, (∀ o, t.Mentions o → o.ty.shape table atVariable argumentsOf
        = o.ty.shape table atVariableElse argumentsElse) →
      t.shape table atVariable argumentsOf = t.shape table atVariableElse argumentsElse
  | .annotated t notes, same => by
    rw [Ty.shape, Ty.shape]
    exact shape_congr t fun o mentions => same o (.part List.mem_cons_self mentions)
  | .typeVar i, same => same (.variable i) .here
  | .cls c, same => same (.model c) .here
  | .union piped ts, same => by
    rw [Ty.shape, Ty.shape,
      presentForms_congr ts fun t member o mentions => same o (.part member mentions)]
  | .tuple ts, same => by
    unfold Ty.shape
    split
    · rfl
    · rw [shape_congr _ fun o mentions => same o (.part List.mem_cons_self mentions)]
    next others notEmpty notOpen =>
      have inside : ∀ t ∈ ts, t ∈ (Ty.tuple ts).parts := by
        rw [Ty.parts_tuple notOpen]
        exact fun _ member => member
      rw [forms_congr ts fun t member o mentions => same o (.part (inside t member) mentions)]
  | .array kind t, same => by
    rw [Ty.shape, Ty.shape, shape_congr t fun o mentions => same o (.part List.mem_cons_self mentions)]
  | .map kind a b, same => by
    rw [Ty.shape, Ty.shape,
      shape_congr a fun o mentions => same o (.part List.mem_cons_self mentions),
      shape_congr b fun o mentions =>
        same o (.part (List.mem_cons_of_mem _ List.mem_cons_self) mentions)]
  | .bareMap _, _ | .literal _, _ | .any, _ | .none, _ | .bareTuple, _ | .bareArray _, _
  | .unsupported _ _, _ | .ellipsis, _ | .forward _, _ | .bareName _, _ | .newType _, _ => rfl

theorem forms_congr :
    ∀ ts : List Ty, (∀ t ∈ ts, ∀ o, t.Mentions o → o.ty.shape table atVariable argumentsOf
        = o.ty.shape table atVariableElse argumentsElse) →
      Ty.forms table atVariable argumentsOf ts = Ty.forms table atVariableElse argumentsElse ts
  | [], _ => rfl
  | t :: ts, same => by
    rw [Ty.forms, Ty.forms, shape_congr t (same t List.mem_cons_self),
      forms_congr ts fun u member => same u (List.mem_cons_of_mem _ member)]

theorem presentForms_congr :
    ∀ ts : List Ty, (∀ t ∈ ts, ∀ o, t.Mentions o → o.ty.shape table atVariable argumentsOf
        = o.ty.shape table atVariableElse argumentsElse) →
      Ty.presentForms table atVariable argumentsOf ts
        = Ty.presentForms table atVariableElse argumentsElse ts
  | [], _ => rfl
  | t :: ts, same => by
    rw [Ty.presentForms, Ty.presentForms, shape_congr t (same t List.mem_cons_self),
      presentForms_congr ts fun u member => same u (List.mem_cons_of_mem _ member)]

end

end

/-! ### Deep enough forms -/

section

variable {f g : Ty → Form}

/-- The shape of a type variable depends on what the variable stands for. -/
theorem variableShape_congr {i : Nat} (same : ∀ u ∈ table.variableTypes i, f u = g u) :
    table.variableShape f i = table.variableShape g i := by
  unfold variableTypes at same
  unfold variableShape
  split
  · rfl
  next v found =>
    rw [found] at same
    dsimp only at same
    split
    next unlimited =>
      rw [if_pos unlimited] at same
      split
      next bound isBound => rw [same bound (by simp [isBound])]
      · rfl
    next limited =>
      rw [if_neg limited] at same
      rw [List.map_congr_left same]

theorem variableShape_of_nothing {i : Nat} (nothing : table.variableTypes i = []) :
    table.variableShape f i = .any := by
  unfold variableTypes at nothing
  unfold variableShape
  split
  · rfl
  next v found =>
    rw [found] at nothing
    dsimp only at nothing
    split at nothing
    next unlimited =>
      rw [if_pos unlimited, Option.toList_eq_nil_iff.mp nothing]
    next limited => exact absurd (List.isEmpty_iff.mpr nothing) limited

/-- The shape of an annotation with all that its openings lead to. -/
def openedShape (table : ClassTable) (f : Ty → Form) (t : Ty) : Shape :=
  t.shape table (table.variableShape f) fun c => (table.typeArguments c).map f

theorem openedShape_congr
    (same : ∀ o, t.Mentions o → ∀ u ∈ table.opened o, f u = g u) :
    table.openedShape f t = table.openedShape g t := by
  refine shape_congr t fun o mentions => ?_
  have same := same o mentions
  cases o with
  | «variable» i => exact variableShape_congr same
  | model c =>
    refine classShape_congr fun isObject => List.map_congr_left fun u member => same u ?_
    rw [opened, if_pos isObject]
    exact member

theorem openedShape_of_nothing (nothing : ∀ o, t.Mentions o → table.opened o = []) :
    table.openedShape f t = t.shape table (fun _ => .any) fun _ => [] := by
  refine shape_congr t fun o mentions => ?_
  have nothing := nothing o mentions
  cases o with
  | «variable» i => exact variableShape_of_nothing nothing
  | model c =>
    refine classShape_congr fun isObject => ?_
    rw [opened, if_pos isObject] at nothing
    exact (congrArg (List.map f) nothing).trans List.map_nil

end

/-- One opening deeper, nothing is left to open, when there are no more openings than the depth among
those that were created early enough. -/
theorem formWithin_succ {created : Opening → Nat}
    (inOrder : ∀ o, ∀ t ∈ table.opened o, ∀ other, t.Mentions other → created other < created o)
    {depth : Nat} {t : Ty} {time : Nat}
    (early : ∀ o ∈ table.openings, t.Mentions o → created o < time)
    (enough : (table.openings.filter fun o => created o < time).length ≤ depth) :
    table.formWithin depth t = table.formWithin (depth + 1) t := by
  induction depth generalizing t time with
  | zero =>
    have none := List.eq_nil_of_length_eq_zero (Nat.le_zero.mp enough)
    have nothing : ∀ o, t.Mentions o → table.opened o = [] := by
      intro o mentions
      refine List.eq_nil_iff_forall_not_mem.mpr fun u member => ?_
      have isOpening := mem_openings_of_opened member
      have late := List.filter_eq_nil_iff.mp none o isOpening
      exact late (decide_eq_true (early o isOpening mentions))
    exact congrArg (Form.ofTy t) (openedShape_of_nothing nothing).symm
  | succ depth ih =>
    have same : table.openedShape (table.formWithin depth) t
        = table.openedShape (table.formWithin (depth + 1)) t := by
      refine openedShape_congr fun o mentions u member => ?_
      have isOpening := mem_openings_of_opened member
      have before := early o isOpening mentions
      refine ih (fun other _ inside => inOrder o u member other inside) ?_
      -- The opening itself is no longer among those that were created earlier.
      have fewer : (table.openings.filter fun other => created other < created o).length
          < (table.openings.filter fun other => created other < time).length := by
        refine length_filter_lt (fun x isEarlier => ?_) (by simpa using before) (by simp) isOpening
        simp only [decide_eq_true_eq] at isEarlier ⊢
        omega
      omega
    exact congrArg (Form.ofTy t) same

/-- At some time everything has been created. -/
theorem exists_late (created : Opening → Nat) : ∃ time, ∀ o ∈ table.openings, created o < time := by
  refine ⟨(table.openings.map created).sum + 1, fun o member => Nat.lt_succ_of_le ?_⟩
  exact List.single_le_sum (fun _ _ => Nat.zero_le _) _ (List.mem_map_of_mem member)

/-- The form of an annotation holds the forms of all that it leads to. -/
theorem form_eq (inOrder : table.IsCreatedInOrder) (t : Ty) :
    table.form t = .ofTy t (table.openedShape table.form t) := by
  obtain ⟨created, inOrder⟩ := inOrder
  obtain ⟨time, early⟩ := exists_late created
  exact formWithin_succ inOrder (fun o member _ => early o member)
    ((List.length_filter_le ..).trans (le_of_eq length_openings))

end ClassTable

/-! ### Layers -/

/-- How an annotation is gone into: notes and type variables have no shape of their own. -/
inductive Ty.Layer : Ty → Prop where
  | annotated (t : Ty) (notes : List Note) : Layer (.annotated t notes)
  | variable (index : Nat) : Layer (.typeVar index)
  | own {t : Ty} : (∀ u notes, t ≠ .annotated u notes) → (∀ i, t ≠ .typeVar i) → Layer t

theorem Ty.layer (t : Ty) : t.Layer := by
  cases t with
  | annotated t notes => exact .annotated t notes
  | typeVar i => exact .variable i
  | _ => exact .own (by simp) (by simp)

@[simp] theorem Form.source_ofTy {t : Ty} {shape : Shape} : (Form.ofTy t shape).source = t := rfl

@[simp] theorem Form.shape_ofTy {t : Ty} {shape : Shape} : (Form.ofTy t shape).shape = shape := rfl

/-- A shape with other forms for the annotations inside it. -/
def Shape.refill (f : Ty → Form) : Shape → Shape
  | .array element unique => .array (f element.source) unique
  | .fixedArray elements => .fixedArray (elements.map fun form => f form.source)
  | .map key value => .map (f key.source) (f value.source)
  | .union options nullable => .union (options.map fun form => f form.source) nullable
  | .object c arguments => .object c (arguments.map fun form => f form.source)
  | shape => shape

section

variable {table : ClassTable} {atVariable : Nat → Shape} {argumentsOf : ClassRef → List Form}

theorem Ty.forms_eq_map {ts : List Ty} :
    Ty.forms table atVariable argumentsOf ts
      = ts.map fun t => .ofTy t (t.shape table atVariable argumentsOf) := by
  induction ts with
  | nil => rfl
  | cons t ts ih => rw [Ty.forms, ih, List.map_cons]

theorem Ty.presentForms_eq_map {ts : List Ty} :
    Ty.presentForms table atVariable argumentsOf ts
      = (ts.filter fun t => !t.same .none).map fun t =>
        .ofTy t (t.shape table atVariable argumentsOf) := by
  induction ts with
  | nil => rfl
  | cons t ts ih =>
    rw [Ty.presentForms, ih, List.filter_cons]
    cases t.same .none <;> rfl

end

namespace ClassTable

variable {table : ClassTable} {t : Ty}

/-- The form of an annotation that nothing is known of but what the annotation is. -/
def hollow (t : Ty) : Form := .ofTy t .any

/-- The outermost layer of the shape of an annotation. Notes and type variables have none of their own.
-/
def surface (table : ClassTable) : Ty → Shape
  | .annotated _ _ | .typeVar _ => .any
  | t => t.shape table (fun _ => .any) fun c => (table.typeArguments c).map hollow

theorem surface_classified (t : Ty) : (table.surface t).Classified table := by
  have anything : Shape.any.Classified table := trivial
  have hollow : ∀ c, Form.AllClassified table ((table.typeArguments c).map hollow) := by
    refine fun c => Form.allClassified_iff.mpr fun form member => ?_
    obtain ⟨u, -, rfl⟩ := List.mem_map.mp member
    trivial
  unfold surface
  split
  · exact anything
  · exact anything
  · exact Ty.shape_classified (fun _ => anything) hollow t

/-- The annotations that come next when an annotation is gone into. -/
def followed (table : ClassTable) : Ty → List Ty
  | .annotated t _ => [t]
  | .typeVar i => table.variableTypes i
  | t => (table.surface t).contained.map Form.source

theorem followed_eq (notNoted : ∀ u notes, t ≠ .annotated u notes) (notVariable : ∀ i, t ≠ .typeVar i) :
    table.followed t = (table.surface t).contained.map Form.source := by
  unfold followed
  split
  · exact absurd rfl (notNoted _ _)
  · exact absurd rfl (notVariable _)
  · rfl

theorem form_any : table.form .any = .any := by
  unfold form
  cases table.nestingDepth <;> rfl

theorem form_text : table.form (.basic .str) = .text := by
  unfold form
  cases table.nestingDepth <;> rfl

theorem classShape_refill {c : ClassRef} {f : Ty → Form} (any : f .any = .any)
    (text : f (.basic .str) = .text) {ts : List Ty} :
    table.classShape (ts.map f) c = (table.classShape (ts.map hollow) c).refill f := by
  have anySource : f Form.any.source = .any := any
  have textSource : f Form.text.source = .text := text
  unfold classShape
  split_ifs <;> simp [Shape.refill, anySource, textSource, hollow, Function.comp_def]

section

variable (inOrder : table.IsCreatedInOrder)
include inOrder

theorem shape_form_annotated {notes : List Note} :
    (table.form (.annotated t notes)).shape = (table.form t).shape := by
  rw [form_eq inOrder, form_eq inOrder t, Form.shape_ofTy, Form.shape_ofTy, openedShape, Ty.shape]
  rfl

theorem shape_form_typeVar {i : Nat} :
    (table.form (.typeVar i)).shape = table.variableShape table.form i := by
  rw [form_eq inOrder]
  rfl

/-- The shape of an annotation is its outermost layer, with the forms of the annotations inside it. -/
theorem shape_form (notNoted : ∀ u notes, t ≠ .annotated u notes) (notVariable : ∀ i, t ≠ .typeVar i) :
    (table.form t).shape = (table.surface t).refill table.form := by
  have own : ∀ u : Ty, Form.ofTy u (u.shape table (table.variableShape table.form) fun c =>
      (table.typeArguments c).map table.form) = table.form u := fun u => (form_eq inOrder u).symm
  rw [form_eq inOrder, Form.shape_ofTy, openedShape]
  cases t with
  | annotated u notes => exact absurd rfl (notNoted u notes)
  | typeVar i => exact absurd rfl (notVariable i)
  | cls c => exact classShape_refill form_any form_text
  | union piped ts =>
    simp [surface, Ty.shape, Shape.refill, Ty.presentForms_eq_map, own, Function.comp_def]
  | tuple ts =>
    unfold surface
    dsimp only
    unfold Ty.shape
    split
    · exact congrArg (Shape.array · false) form_any.symm
    · simp [Shape.refill, own]
    · simp [Shape.refill, Ty.forms_eq_map, own, Function.comp_def]
  | array kind u => simp [surface, Ty.shape, Shape.refill, own]
  | map kind a b => simp [surface, Ty.shape, Shape.refill, own]
  | bareMap kind => exact congrArg₂ Shape.map form_text.symm form_any.symm
  | bareTuple => exact congrArg (Shape.array · false) form_any.symm
  | bareArray kind => exact congrArg (Shape.array · kind.isUnique) form_any.symm
  | _ => rfl

end

/-! ### Going into annotations ends -/

theorem sizeOf_lt_of_mem_parts {u : Ty} (member : u ∈ t.parts) : sizeOf u < sizeOf t := by
  unfold Ty.parts at member
  split at member
  · cases List.mem_singleton.mp member
    simp only [Ty.annotated.sizeOf_spec]
    omega
  · cases List.mem_singleton.mp member
    simp only [Ty.array.sizeOf_spec]
    omega
  · cases List.mem_singleton.mp member
    simp only [Ty.tuple.sizeOf_spec, List.cons.sizeOf_spec]
    omega
  · have := List.sizeOf_lt_of_mem member
    simp only [Ty.tuple.sizeOf_spec]
    omega
  · have := List.sizeOf_lt_of_mem member
    simp only [Ty.union.sizeOf_spec]
    omega
  · rcases List.mem_pair.mp member with rfl | rfl <;> simp only [Ty.map.sizeOf_spec] <;> omega
  · cases member

/-- What comes next is inside the annotation, or what it is opened to, or nothing comes after it. -/
theorem mem_followed {u : Ty} (member : u ∈ table.followed t) :
    u ∈ t.parts ∨ (∃ o : Opening, t = o.ty ∧ u ∈ table.opened o) ∨ table.followed u = [] := by
  have any : table.followed .any = [] := rfl
  have text : table.followed (.basic .str) = [] := rfl
  cases t with
  | annotated t notes => exact .inl member
  | typeVar i => exact .inr (.inl ⟨.variable i, rfl, member⟩)
  | cls c =>
    change u ∈ (table.classShape ((table.typeArguments c).map hollow) c).contained.map Form.source
      at member
    unfold classShape at member
    split_ifs at member with _ _ notLeaf _ _ _ isModel
    all_goals simp only [Shape.contained, List.map_nil, List.map_cons, List.not_mem_nil, List.map_map,
      List.mem_cons, or_false] at member
    · exact .inr (.inr (member ▸ any))
    · exact .inr (.inr (member ▸ any))
    · rcases member with rfl | rfl
      · exact .inr (.inr text)
      · exact .inr (.inr any)
    · refine .inr (.inl ⟨.model c, rfl, ?_⟩)
      rw [opened, if_pos (isObject_iff.mpr ⟨isModel, Bool.eq_false_iff.mpr notLeaf⟩)]
      simpa [Function.comp_def, hollow] using member
  | union piped ts =>
    change u ∈ (Ty.presentForms table (fun _ => .any)
      (fun c => (table.typeArguments c).map hollow) ts).map Form.source at member
    rw [Ty.presentForms_eq_map, List.map_map] at member
    obtain ⟨v, inside, rfl⟩ := List.mem_map.mp member
    exact .inl (List.mem_of_mem_filter inside)
  | tuple ts =>
    change u ∈ ((Ty.tuple ts).shape table (fun _ => .any)
      fun c => (table.typeArguments c).map hollow).contained.map Form.source at member
    unfold Ty.shape at member
    split at member
    · exact .inr (.inr (List.mem_singleton.mp member ▸ any))
    · exact .inl member
    next notEmpty notOpen =>
      rw [Shape.contained, Ty.forms_eq_map, List.map_map] at member
      obtain ⟨v, inside, rfl⟩ := List.mem_map.mp member
      exact .inl ((Ty.parts_tuple notOpen).symm ▸ inside)
  | array kind t => exact .inl member
  | map kind a b => exact .inl member
  | bareMap kind =>
    rcases List.mem_pair.mp member with rfl | rfl
    · exact .inr (.inr text)
    · exact .inr (.inr any)
  | bareTuple | bareArray kind => exact .inr (.inr (List.mem_singleton.mp member ▸ any))
  | _ => exact absurd member List.not_mem_nil

/-- An annotation can be gone into only so deep. -/
theorem wellFounded_followed (inOrder : table.IsCreatedInOrder) :
    WellFounded fun u t => u ∈ table.followed t := by
  obtain ⟨created, inOrder⟩ := inOrder
  have early : ∀ time (t : Ty), (∀ o ∈ table.openings, t.Mentions o → created o < time) →
      Acc (fun u t => u ∈ table.followed t) t := by
    intro time
    induction time using Nat.strongRecOn with
    | ind time earlier =>
    intro t
    -- Inside of an annotation nothing else is mentioned, so that it is enough that it gets smaller.
    induction size : sizeOf t using Nat.strongRecOn generalizing t with
    | ind n smaller =>
    intro before
    refine ⟨_, fun u member => ?_⟩
    rcases mem_followed member with part | ⟨o, rfl, isOpened⟩ | last
    · exact smaller _ (size ▸ sizeOf_lt_of_mem_parts part) u rfl
        fun o isOpening mentions => before o isOpening (.part part mentions)
    · have isOpening := mem_openings_of_opened isOpened
      exact earlier (created o) (before o isOpening .here) u
        fun other _ mentions => inOrder o u isOpened other mentions
    · refine ⟨_, fun v next => ?_⟩
      rw [last] at next
      exact absurd next List.not_mem_nil
  obtain ⟨time, late⟩ := exists_late created
  exact ⟨fun t => early time t fun o member _ => late o member⟩

end ClassTable

end ModelSchema
