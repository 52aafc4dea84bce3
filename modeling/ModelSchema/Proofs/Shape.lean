import ModelSchema.Polymorphism.Walk
import ModelSchema.Proofs.Class.Hierarchy

/-!
The classes in a form are what the form says they are.

* `Form.Classified`: objects are models that are no leaves, leaves are leaves, and enumerations list
  what the members of an enumeration or the values of a literal are written as.
* `ClassTable.form_classified`: so it is in the form of every annotation.
* `Form.isModel_of_enter`: the classes that annotations lead to are models.
-/

namespace ModelSchema

/-! ### Classified forms -/

mutual

/-- Whether the classes in a form are what the form says they are. -/
def Form.Classified (table : ClassTable) : Form → Prop
  | .of _ _ shape => shape.Classified table

def Shape.Classified (table : ClassTable) : Shape → Prop
  | .any | .null | .unsupported _ => True
  | .enumeration none values => ∃ literals : List Value, values = literals.map table.enumeratedValue
  | .enumeration (some c) values =>
    table.isBasicSubclass c .enumeration = true
      ∧ values = (table.members c).map table.enumeratedValue
  | .leaf c => table.isBasicSubclass c .enumeration = false ∧ table.isLeaf c = true
  | .object c arguments =>
    table.isBasicSubclass c .model = true ∧ table.isLeaf c = false
      ∧ Form.AllClassified table arguments
  | .array element _ => element.Classified table
  | .fixedArray elements => Form.AllClassified table elements
  | .map key value => key.Classified table ∧ value.Classified table
  | .union options _ => Form.AllClassified table options

def Form.AllClassified (table : ClassTable) : List Form → Prop
  | [] => True
  | form :: rest => form.Classified table ∧ Form.AllClassified table rest

end

variable {table : ClassTable}

theorem Form.allClassified_iff {forms : List Form} :
    Form.AllClassified table forms ↔ ∀ form ∈ forms, form.Classified table := by
  induction forms with
  | nil => simp [Form.AllClassified]
  | cons form rest ih => simp [Form.AllClassified, ih]

theorem Form.shape_classified {form : Form} (h : form.Classified table) :
    form.shape.Classified table := by
  cases form
  exact h

theorem Form.any_classified : Form.any.Classified table := trivial

theorem Form.text_classified : Form.text.Classified table := ⟨rfl, rfl⟩

/-! ### Forms of annotations -/

/-- The shape of a class says what the class is. -/
theorem ClassTable.classShape_classified {arguments : List Form}
    (h : Form.AllClassified table arguments) (c : ClassRef) :
    (table.classShape arguments c).Classified table := by
  unfold classShape
  split
  · trivial
  split
  next isEnumeration => exact ⟨isEnumeration, rfl⟩
  next notEnumeration =>
    split
    next isLeaf => exact ⟨Bool.eq_false_iff.mpr notEnumeration, isLeaf⟩
    next notLeaf =>
      split
      · trivial
      split
      · trivial
      split
      · exact ⟨Form.text_classified, Form.any_classified⟩
      split
      next isModel => exact ⟨isModel, Bool.eq_false_iff.mpr notLeaf, h⟩
      · trivial

/-- A model that is neither a leaf nor an enumeration is an object. -/
theorem ClassTable.classShape_of_isModel {arguments : List Form} {c : ClassRef}
    (isModel : table.isBasicSubclass c .model = true) (notLeaf : table.isLeaf c = false)
    (notEnumeration : table.isBasicSubclass c .enumeration = false) :
    table.classShape arguments c = .object c arguments := by
  have other : ∀ b : BasicClass, .model ∉ b.ancestors → c ≠ .basic b := by
    rintro b apart rfl
    obtain ⟨_, inside, same⟩ := isBasic_of_mem_ancestors (isSubclass_iff.mp isModel)
    cases same
    exact apart inside
  unfold classShape
  rw [if_neg (other _ (by decide)), notEnumeration, if_neg Bool.false_ne_true, notLeaf,
    if_neg Bool.false_ne_true, if_neg, if_neg, if_neg (other _ (by decide)), if_pos isModel]
  · exact not_or.mpr ⟨other _ (by decide), other _ (by decide)⟩
  · exact not_or.mpr ⟨other _ (by decide), other _ (by decide)⟩

section

variable {atVariable : Nat → Shape} {argumentsOf : ClassRef → List Form}

mutual

theorem Ty.shape_classified (atVariables : ∀ i, (atVariable i).Classified table)
    (arguments : ∀ c, Form.AllClassified table (argumentsOf c)) :
    ∀ t : Ty, (t.shape table atVariable argumentsOf).Classified table
  | .annotated t _ => by
    rw [Ty.shape]
    exact t.shape_classified atVariables arguments
  | .typeVar i => by
    rw [Ty.shape]
    exact atVariables i
  | .union _ ts => by
    rw [Ty.shape]
    exact Ty.presentForms_classified atVariables arguments ts
  | .tuple ts => by
    unfold Ty.shape
    split
    · trivial
    next t => exact t.shape_classified atVariables arguments
    · exact Ty.forms_classified atVariables arguments ts
  | .array _ t => by
    rw [Ty.shape]
    exact t.shape_classified atVariables arguments
  | .map _ a b => by
    rw [Ty.shape]
    exact ⟨a.shape_classified atVariables arguments, b.shape_classified atVariables arguments⟩
  | .cls c => by
    rw [Ty.shape]
    exact table.classShape_classified (arguments c) c
  | .bareMap _ => ⟨Form.text_classified, Form.any_classified⟩
  | .literal values => ⟨values, rfl⟩
  | .any | .none | .bareTuple | .bareArray _ | .unsupported _ _ | .ellipsis | .forward _
  | .bareName _ | .newType _ => trivial

theorem Ty.forms_classified (atVariables : ∀ i, (atVariable i).Classified table)
    (arguments : ∀ c, Form.AllClassified table (argumentsOf c)) :
    ∀ ts : List Ty, Form.AllClassified table (Ty.forms table atVariable argumentsOf ts)
  | [] => trivial
  | t :: ts => ⟨t.shape_classified atVariables arguments, Ty.forms_classified atVariables arguments ts⟩

theorem Ty.presentForms_classified (atVariables : ∀ i, (atVariable i).Classified table)
    (arguments : ∀ c, Form.AllClassified table (argumentsOf c)) :
    ∀ ts : List Ty, Form.AllClassified table (Ty.presentForms table atVariable argumentsOf ts)
  | [] => trivial
  | t :: ts => by
    rw [Ty.presentForms]
    split
    · exact Ty.presentForms_classified atVariables arguments ts
    · exact ⟨t.shape_classified atVariables arguments, Ty.presentForms_classified atVariables arguments ts⟩

end

end

namespace ClassTable

/-- The shape of a type variable says what the classes in it are, when all forms do. -/
theorem variableShape_classified {form : Ty → Form} (h : ∀ t, (form t).Classified table) (i : Nat) :
    (table.variableShape form i).Classified table := by
  unfold variableShape
  split
  · trivial
  next v _ =>
    split
    · split
      next bound _ => exact Form.shape_classified (h bound)
      · trivial
    · refine Form.allClassified_iff.mpr fun f member => ?_
      obtain ⟨t, -, rfl⟩ := List.mem_map.mp member
      exact h t

theorem formWithin_classified : ∀ (depth : Nat) (t : Ty), (table.formWithin depth t).Classified table
  | 0, t => by
    have nothing : Form.AllClassified table [] := trivial
    have anything : Shape.any.Classified table := trivial
    exact t.shape_classified (fun _ => anything) fun _ => nothing
  | depth + 1, t => by
    refine Ty.shape_classified
      (variableShape_classified (formWithin_classified depth)) (fun c => ?_) t
    refine Form.allClassified_iff.mpr fun f member => ?_
    obtain ⟨t, -, rfl⟩ := List.mem_map.mp member
    exact formWithin_classified depth t

/-- The form of an annotation says what the classes in it are. -/
theorem form_classified (t : Ty) : (table.form t).Classified table :=
  formWithin_classified table.nestingDepth t

end ClassTable

/-! ### The classes an annotation leads to -/

@[simp] theorem Form.walkSteps_ofTy (t : Ty) (shape : Shape) :
    (Form.ofTy t shape).walkSteps = shape.walkSteps := by
  rw [Form.ofTy, Form.walkSteps]

@[simp] theorem Form.walkSteps_shape (form : Form) : form.shape.walkSteps = form.walkSteps := by
  cases form
  rw [Form.walkSteps, Form.shape]

theorem mem_walkStepsOf {step : WalkStep} {forms : List Form} :
    step ∈ walkStepsOf forms ↔ ∃ form ∈ forms, step ∈ form.walkSteps := by
  induction forms with
  | nil => simp [walkStepsOf]
  | cons form rest ih => simp [walkStepsOf, ih]

mutual

/-- The classes that annotations lead to are models. -/
theorem Form.isModel_of_enter {table : ClassTable} {c : ClassRef} :
    ∀ form : Form, form.Classified table → .enter c ∈ form.walkSteps →
      table.isBasicSubclass c .model = true
  | .of _ _ shape, classified, member => by
    rw [Form.walkSteps] at member
    exact shape.isModel_of_enter classified member

theorem Shape.isModel_of_enter {table : ClassTable} {c : ClassRef} :
    ∀ shape : Shape, shape.Classified table → .enter c ∈ shape.walkSteps →
      table.isBasicSubclass c .model = true
  | .any, _, member | .null, _, member | .leaf _, _, member | .enumeration _ _, _, member
  | .unsupported _, _, member => by simp [Shape.walkSteps] at member
  | .object d arguments, classified, member => by
    rw [Shape.walkSteps] at member
    rcases List.mem_cons.mp member with same | inside
    · cases same
      exact classified.1
    · exact isModel_of_enterOf arguments classified.2.2 inside
  | .array element _, classified, member => by
    rw [Shape.walkSteps] at member
    exact element.isModel_of_enter classified member
  | .fixedArray elements, classified, member => by
    rw [Shape.walkSteps] at member
    exact isModel_of_enterOf elements classified member
  | .map key value, classified, member => by
    rw [Shape.walkSteps] at member
    rcases List.mem_append.mp member with inKey | inValue
    · exact key.isModel_of_enter classified.1 inKey
    · exact value.isModel_of_enter classified.2 inValue
  | .union options _, classified, member => by
    rw [Shape.walkSteps] at member
    exact isModel_of_enterOf options classified member

theorem isModel_of_enterOf {table : ClassTable} {c : ClassRef} :
    ∀ forms : List Form, Form.AllClassified table forms → .enter c ∈ walkStepsOf forms →
      table.isBasicSubclass c .model = true
  | [], _, member => by simp [walkStepsOf] at member
  | form :: rest, classified, member => by
    rw [walkStepsOf] at member
    rcases List.mem_append.mp member with here | later
    · exact form.isModel_of_enter classified.1 here
    · exact isModel_of_enterOf rest classified.2 later

end

/-- So they are classes of the table. -/
theorem Form.mem_allClasses_of_enter {table : ClassTable} {c : ClassRef} (form : Form)
    (classified : form.Classified table) (member : .enter c ∈ form.walkSteps) :
    c ∈ table.allClasses :=
  ClassTable.mem_allClasses_of_mem_ancestors
    (ClassTable.isSubclass_iff.mp (form.isModel_of_enter classified member))

end ModelSchema
