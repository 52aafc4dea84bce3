import ModelSchema.Notice
import ModelSchema.Polymorphism.Registry
import ModelSchema.Property
import ModelSchema.Saturation
import ModelSchema.Schema.Node

/-!
The outline of a document: which definitions it has and what they are called.

Before any body is written, the references of all bodies are followed in the order in which they
will be written. A class gets its definition name at its first reference.

* `SchemaSource.bodySteps`: the references, notices and failures of one body, in order.
* `SchemaSource.outline`: the definitions of a document with their names, or why there is none.
* `uniqueName`: a definition name that is not taken.
-/

namespace ModelSchema

/-- What a definition consists of: the body of a model, or a fixed schema. -/
inductive DefinitionKind where
  | model
  | fixed (schema : Value)
  deriving Repr, Inhabited

/-- Something that happens while a body is written. -/
inductive OutlineStep where
  | reference (c : ClassRef) (label : String) (kind : DefinitionKind)
  | notice (notice : Notice)
  | fail (reason : Failure)
  deriving Inhabited

namespace SchemaSource

/-! ### The steps of one body -/

/-- A reference to a model. -/
def modelReference (source : SchemaSource) (c : ClassRef) : OutlineStep :=
  .reference c (source.catalog.table.name c) .model

/-- The references a property with a model as its type makes: to the subtypes, else to the model,
unless it is the root, which is the document itself. -/
def objectSteps (source : SchemaSource) (c : ClassRef) : List OutlineStep :=
  match source.subTypes c with
  | [] => if c = source.root then [] else [source.modelReference c]
  | subTypes => subTypes.map source.modelReference

/-- The references of a leaf, or that it has no format. -/
def leafSteps (source : SchemaSource) (owner c : ClassRef) : List OutlineStep :=
  let table := source.catalog.table
  match table.objectFormat? c with
  | some (label, schema) => [.reference c label (.fixed schema)]
  | none =>
    match table.leafFormat? (table.numericDurations owner) c with
    | some _ => []
    | none => [.fail (.fault (.noFormat (table.qualifiedName c)))]

/-- Why a literal without values has no node. -/
def emptyLiteral (source : SchemaSource) (owner : ClassRef) : Fault :=
  if source.catalog.table.numericDurations owner then .notAClass else .noFormat "None"

mutual

/-- The steps of the node of an annotation in the body of `owner`. -/
def formSteps (source : SchemaSource) (owner : ClassRef) : Form → List OutlineStep
  | .of _ notes shape =>
    (match limitsOf notes with
      | .ok _ => []
      | .error fault => [.fail (.fault fault)])
      ++ source.shapeSteps owner shape

def shapeSteps (source : SchemaSource) (owner : ClassRef) : Shape → List OutlineStep
  | .any | .null => []
  | .leaf c => source.leafSteps owner c
  | .enumeration (some c) [] => source.leafSteps owner c
  | .enumeration none [] => [.fail (.fault (source.emptyLiteral owner))]
  | .enumeration _ _ => []
  | .object c _ => source.objectSteps c
  | .array element _ => source.formSteps owner element
  | .fixedArray elements => source.formsSteps owner elements
  | .map _ value => source.formSteps owner value
  | .union options _ => source.formsSteps owner options
  | .unsupported reason => [.fail reason]

def formsSteps (source : SchemaSource) (owner : ClassRef) : List Form → List OutlineStep
  | [] => []
  | form :: rest => source.formSteps owner form ++ source.formsSteps owner rest

end

/-- The failure of a fragment as a step. -/
def fragmentSteps (fragment : Option Fragment) : List OutlineStep :=
  match fragment.bind Fragment.failure? with
  | some reason => [.fail reason]
  | none => []

/-- The steps of a property in the body of `owner`. -/
def propertySteps (source : SchemaSource) (owner : ClassRef) (p : Property) : List OutlineStep :=
  let table := source.catalog.table
  (if p.conflicting then
      [.notice (.conflictingRequirement p.publicName (table.qualifiedName owner))]
    else [])
    ++ source.formSteps owner (table.form p.annotation) ++ fragmentSteps p.extra

/-- The discriminator of a class, unless it is empty. -/
def discriminator? (source : SchemaSource) (c : ClassRef) : Option String :=
  (source.catalog.discriminator? c).bind nonEmpty?

/-- The properties in the body of a class, in order. A property that has the name of the
discriminator gives way to it. -/
def bodyProperties (source : SchemaSource) (c : ClassRef) (props : List Property) :
    List Property :=
  (orderProperties props (source.catalog.propertyOrder c)).filter fun p =>
    some p.publicName != source.discriminator? c

/-- The steps of the body of a class. -/
def bodySteps (source : SchemaSource) (c : ClassRef) : List OutlineStep :=
  match source.catalog.table.properties c with
  | .error reason => [.fail reason]
  | .ok props =>
    (source.bodyProperties c props).flatMap (source.propertySteps c)
      ++ fragmentSteps (source.catalog.table.config c).extra.join

/-- The steps of the root: references to its subtypes, or its body. -/
def rootSteps (source : SchemaSource) : List OutlineStep :=
  match source.subTypes source.root with
  | [] => source.bodySteps source.root
  | subTypes => subTypes.map source.modelReference

end SchemaSource

/-! ### Definition names -/

/-- Whether a character can stand in a definition name. -/
def isNameChar (c : Char) : Bool := c.isAlphanum || c = '_' || c = '.' || c = '$' || c = '-'

/-- Replaces every run of other characters by one underscore. -/
def sanitizeFrom (inRun : Bool) : List Char → List Char
  | [] => []
  | c :: rest =>
    if isNameChar c then c :: sanitizeFrom false rest
    else if inRun then sanitizeFrom true rest
    else '_' :: sanitizeFrom true rest

def sanitizedName (name : String) : String := String.ofList (sanitizeFrom false name.toList)

/-- The `n`th attempt at a name: the name itself, then with a number. -/
def nameAttempt (name : String) (n : Nat) : String := if n = 0 then name else s!"{name}_{n}"

/-- The first attempt at a name that is not taken. One more attempt than names taken is enough. -/
def uniqueName (taken : List String) (name : String) : String :=
  let name := sanitizedName name
  let attempts := (List.range (taken.length + 1)).map (nameAttempt name)
  (attempts.find? fun attempt => !taken.contains attempt).getD name

/-! ### The outline -/

/-- A definition: its class, its name and what it consists of. -/
structure Definition where
  type : ClassRef
  name : String
  kind : DefinitionKind
  deriving Repr, Inhabited

/-- The definitions so far, in the order of their first references, and the notices so far. -/
structure Outline where
  definitions : List Definition
  notices : List Notice
  deriving Repr, Inhabited

namespace Outline

def start : Outline := ⟨[], []⟩

def has (outline : Outline) (c : ClassRef) : Bool := outline.definitions.any (·.type = c)

/-- Adds a definition under a name of its own. -/
def define (outline : Outline) (c : ClassRef) (label : String) (kind : DefinitionKind) :
    Outline :=
  { outline with
    definitions := outline.definitions
      ++ [⟨c, uniqueName (outline.definitions.map (·.name)) label, kind⟩] }

def report (outline : Outline) (notice : Notice) : Outline :=
  { outline with notices := outline.notices ++ [notice] }

/-- The name of the definition of a class. -/
def nameOf (outline : Outline) (c : ClassRef) : String :=
  match outline.definitions.find? (·.type = c) with
  | some definition => definition.name
  | none => ""

/-- The classes without a definition. -/
def undefined (outline : Outline) (table : ClassTable) : List ClassRef :=
  table.allClasses.filter fun c => !outline.has c

/-- A definition leaves fewer classes without one. -/
theorem undefined_define_lt {outline : Outline} {table : ClassTable} {c : ClassRef}
    {label : String} {kind : DefinitionKind} (known : c ∈ table.allClasses)
    (fresh : outline.has c = false) :
    ((outline.define c label kind).undefined table).length
      < (outline.undefined table).length := by
  refine length_filter_lt (fun x hx => ?_) (by simp [fresh]) ?_ known
  · simp [has, define] at hx ⊢
    exact hx.1
  · simp [has, define]

end Outline

namespace SchemaSource

/-- The steps of the body of a definition. -/
def definitionSteps (source : SchemaSource) (c : ClassRef) : DefinitionKind → List OutlineStep
  | .model => source.bodySteps c
  | .fixed _ => []

/-- Whether a reference calls for no further definition. -/
def isDefined (source : SchemaSource) (outline : Outline) (c : ClassRef) : Bool :=
  outline.has c || !source.catalog.table.allClasses.contains c

/-- Does steps until none is left, or one fails. The body of a definition is gone through at its
first reference. -/
def extendOutline (source : SchemaSource) (outline : Outline) :
    List OutlineStep → Outline × Option Failure
  | [] => (outline, none)
  | .fail reason :: _ => (outline, some reason)
  | .notice notice :: rest => source.extendOutline (outline.report notice) rest
  | .reference c label kind :: rest =>
    if _h : source.isDefined outline c then source.extendOutline outline rest
    else
      source.extendOutline (outline.define c label kind)
        (source.definitionSteps c kind ++ rest)
  termination_by steps => ((outline.undefined source.catalog.table).length, steps.length)
  decreasing_by
    · exact Prod.Lex.right _ (by simp)
    · exact Prod.Lex.right _ (by simp)
    · refine Prod.Lex.left _ _ (Outline.undefined_define_lt ?_ ?_) <;>
        simp [isDefined] at _h <;> simp [_h]

/-- The outline of the document, and why there is no document, if there is none. -/
def outline (source : SchemaSource) : Outline × Option Failure :=
  source.extendOutline .start source.rootSteps

end SchemaSource

end ModelSchema
