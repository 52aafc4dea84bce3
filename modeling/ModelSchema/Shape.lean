import ModelSchema.AnnotationText
import ModelSchema.Leaf

/-!
Shapes: what an annotation looks like once it is written as JSON.

* `Form`: an annotation with the notes around it and its shape.
* `Shape`: the kinds of shape. An annotation without a shape is `unsupported`, with the reason.
* `ClassTable.form`: the form of an annotation. Type variables stand for their bounds, and generic
  models carry the forms of their arguments, so that a form holds all that is reached from the
  annotation without looking into a model's fields.
-/

namespace ModelSchema

mutual

/-- An annotation, the notes around it, and its shape. -/
inductive Form where
  | of (source : Ty) (notes : List Note) (shape : Shape)

/-- The kinds of shape. `arguments` are those of a generic model and its open parameters. An
`enumeration` lists the values of a class or, without an owner, of a literal. -/
inductive Shape where
  | any
  | null
  | leaf (c : ClassRef)
  | enumeration (owner : Option ClassRef) (values : List Value)
  | object (c : ClassRef) (arguments : List Form)
  | array (element : Form) (unique : Bool)
  | fixedArray (elements : List Form)
  | map (key value : Form)
  | union (options : List Form) (nullable : Bool)
  | unsupported (reason : Failure)

end

instance : Inhabited Shape := ⟨.any⟩

instance : Inhabited Form := ⟨.of .any [] .any⟩

namespace Form

def source : Form → Ty
  | of source _ _ => source

def notes : Form → List Note
  | of _ notes _ => notes

def shape : Form → Shape
  | of _ _ shape => shape

/-- The form of an annotation whose shape is known. -/
def ofTy (t : Ty) (shape : Shape) : Form := .of t t.stripped.2 shape

/-- The form of an annotation that admits everything. -/
def any : Form := .of .any [] .any

/-- The form of plain texts. -/
def text : Form := .of (.basic .str) [] (.leaf (.basic .str))

end Form

/-- The forms a shape holds, in the order in which they are followed. -/
def Shape.contained : Shape → List Form
  | .array element _ => [element]
  | .fixedArray elements => elements
  | .map key value => [key, value]
  | .union options _ => options
  | .object _ arguments => arguments
  | _ => []

/-- Whether the items of an array are distinct. -/
def ArrayKind.isUnique : ArrayKind → Bool
  | set | frozenSet | abstractSet | mutableSet => true
  | _ => false

/-- The value an enumerated value is written as: that of a member, and for values that are no
texts, numbers or truth values their plain text. -/
def ClassTable.enumeratedValue (table : ClassTable) (value : Value) : Value :=
  let value :=
    match value with
    | .member _ _ _ value => value
    | value => value
  match value with
  | .null | .bool _ | .int _ | .float _ | .str _ => value
  | .member _ .str _ _ | .member _ .int _ _ | .member _ .float _ _ | .member _ .intFlag _ _ => value
  | value => .str (value.shown table)

/-- Why a generic annotation has no shape. -/
def ClassTable.unsupportedGeneric (table : ClassTable) (t : Ty) : Failure :=
  .introspection (t.displayed table) (some s!"Unsupported generic type: {t.displayed table}") []
    none

/-- Why an annotation that is no type has no shape. -/
def ClassTable.unresolvedAnnotation (table : ClassTable) (t : Ty) : Failure :=
  .introspection (t.displayed table)
    (some s!"Unsupported or unresolved annotation: {t.displayed table}") [] none

/-- Why a class has no shape. -/
def ClassTable.unsupportedClass (table : ClassTable) (c : ClassRef) : Failure :=
  .introspection (table.qualifiedName c) (some s!"Unsupported type: {table.classText c}") [] none

/-- The shape of a class. The arguments are those of a generic model. -/
def ClassTable.classShape (table : ClassTable) (arguments : List Form) (c : ClassRef) : Shape :=
  if c = .basic .object then .any
  else if table.isBasicSubclass c .enumeration then
    .enumeration (some c) ((table.members c).map table.enumeratedValue)
  else if table.isLeaf c then .leaf c
  else if c = .basic .list ∨ c = .basic .tuple then .array .any false
  else if c = .basic .set ∨ c = .basic .frozenSet then .array .any true
  else if c = .basic .dict then .map .text .any
  else if table.isBasicSubclass c .model then .object c arguments
  else .unsupported (table.unsupportedClass c)

mutual

/-- The shape of an annotation, when the shapes of type variables and the argument forms of
generic models are known. -/
def Ty.shape (table : ClassTable) (atVariable : Nat → Shape) (argumentsOf : ClassRef → List Form) :
    Ty → Shape
  | .annotated t _ => t.shape table atVariable argumentsOf
  | .any => .any
  | .none => .null
  | .typeVar i => atVariable i
  | .union _ ts =>
    .union (Ty.presentForms table atVariable argumentsOf ts) (ts.any fun t => t.same .none)
  | .literal values => .enumeration Option.none (values.map table.enumeratedValue)
  | .tuple ts =>
    match ts with
    | [] => .array .any false
    | [t, .ellipsis] => .array (.ofTy t (t.shape table atVariable argumentsOf)) false
    | ts => .fixedArray (Ty.forms table atVariable argumentsOf ts)
  | .bareTuple => .array .any false
  | .array k t => .array (.ofTy t (t.shape table atVariable argumentsOf)) k.isUnique
  | .bareArray k => .array .any k.isUnique
  | .map _ a b =>
    .map (.ofTy a (a.shape table atVariable argumentsOf))
      (.ofTy b (b.shape table atVariable argumentsOf))
  | .bareMap _ => .map .text .any
  | .unsupported k t => .unsupported (table.unsupportedGeneric (.unsupported k t))
  | .cls c => table.classShape (argumentsOf c) c
  | t => .unsupported (table.unresolvedAnnotation t)

/-- The forms of several annotations. -/
def Ty.forms (table : ClassTable) (atVariable : Nat → Shape) (argumentsOf : ClassRef → List Form) :
    List Ty → List Form
  | [] => []
  | t :: ts =>
    .ofTy t (t.shape table atVariable argumentsOf) :: Ty.forms table atVariable argumentsOf ts

/-- The forms of the members of a union that are not nothing. -/
def Ty.presentForms (table : ClassTable) (atVariable : Nat → Shape)
    (argumentsOf : ClassRef → List Form) : List Ty → List Form
  | [] => []
  | t :: ts =>
    if t.same .none then Ty.presentForms table atVariable argumentsOf ts
    else
      .ofTy t (t.shape table atVariable argumentsOf)
        :: Ty.presentForms table atVariable argumentsOf ts

end

namespace ClassTable

/-- The shape of a type variable: a union of the types it is limited to, else that of its bound. -/
def variableShape (table : ClassTable) (form : Ty → Form) (index : Nat) : Shape :=
  match table.typeVariables[index]? with
  | none => .any
  | some v =>
    if v.limits.isEmpty then
      match v.bound with
      | some bound => (form bound).shape
      | none => .any
    else .union (v.limits.map form) false

/-- The form of an annotation, following at most `depth` type variables and generic arguments one
inside the other. -/
def formWithin (table : ClassTable) : Nat → Ty → Form
  | 0, t => .ofTy t (t.shape table (fun _ => .any) (fun _ => []))
  | depth + 1, t =>
    .ofTy t (t.shape table (table.variableShape (table.formWithin depth))
      (fun c => (table.typeArguments c).map (table.formWithin depth)))

/-- Bounds and arguments name earlier declarations only, so no chain of them is longer than this. -/
def nestingDepth (table : ClassTable) : Nat := table.classes.size + table.typeVariables.size

/-- The form of an annotation. -/
def form (table : ClassTable) (t : Ty) : Form := table.formWithin table.nestingDepth t

end ClassTable

end ModelSchema
