import ModelSchema.AnnotationText
import ModelSchema.Class.Declare

/-!
Models made from generic ones.

`ClassTable.parametrise` gives type arguments to a generic model. The result is a subclass with the
open parameters replaced in all field annotations; equal arguments give the same class. Replacing a
parameter inside a field can call for further parametrised models, which are declared on the way.
-/

namespace ModelSchema

/-- What stands for each type variable. -/
abbrev Substitution := List (Nat × Ty)

namespace Substitution

def apply (σ : Substitution) (index : Nat) : Ty :=
  match σ.find? (·.1 = index) with
  | some (_, t) => t
  | none => .typeVar index

end Substitution

/-- A step that may declare classes, and can fail. -/
abbrev Declaring := StateT ClassTable (Except Fault)

namespace Ty

/-- A union after replacement: anything absorbs the other members. -/
def replacedUnion (piped : Bool) (before after : List Ty) : Ty :=
  if sameInOrder before after then .union piped before
  else if after.any fun t => t.same .any then .any
  else unionOf piped after

mutual

/-- Replaces type variables in an annotation. `parametrise` is called for a model with open
parameters that change. -/
def substitute (parametrise : ClassRef → List Ty → Declaring ClassRef) (σ : Substitution) :
    Ty → Declaring Ty
  | .typeVar i => pure (σ.apply i)
  | .cls c => do
    let parameters := (((← get).model? c).map (·.parameters)).getD []
    let arguments := parameters.map σ.apply
    if sameInOrder arguments (parameters.map .typeVar) then pure (.cls c)
    else return .cls (← parametrise c arguments)
  | .array k t => return .array k (← t.substitute parametrise σ)
  | .tuple ts => return .tuple (← substituteList parametrise σ ts)
  | .map k a b => do
    let a ← a.substitute parametrise σ
    let b ← b.substitute parametrise σ
    pure (.map k a b)
  | .union p ts => return replacedUnion p ts (← substituteList parametrise σ ts)
  | .annotated t notes => return annotate (← t.substitute parametrise σ) notes
  | .unsupported k t => return .unsupported k (← t.substitute parametrise σ)
  | t => pure t

def substituteList (parametrise : ClassRef → List Ty → Declaring ClassRef) (σ : Substitution) :
    List Ty → Declaring (List Ty)
  | [] => pure []
  | t :: ts => do
    let t ← t.substitute parametrise σ
    let ts ← substituteList parametrise σ ts
    pure (t :: ts)

end

mutual

/-- The type variables in an annotation, those of generic models included. -/
def openVariables (table : ClassTable) : Ty → List Nat
  | .typeVar i => [i]
  | .cls c => ((table.model? c).map (·.parameters)).getD []
  | .array _ t | .annotated t _ | .unsupported _ t => t.openVariables table
  | .map _ a b => a.openVariables table ++ b.openVariables table
  | .tuple ts | .union _ ts => openVariablesList table ts
  | _ => []

def openVariablesList (table : ClassTable) : List Ty → List Nat
  | [] => []
  | t :: ts => t.openVariables table ++ openVariablesList table ts

end

end Ty

namespace ClassTable

/-- Sets what a declared model consists of. -/
def setFields (table : ClassTable) (c : ClassRef) (fields : List Field) : ClassTable :=
  match c with
  | .basic _ => table
  | .declared index =>
    { table with
      classes := table.classes.modify index fun info =>
        match info.kind with
        | .model m => { info with kind := .model { m with fields := fields } }
        | _ => info }

/-- Whether two arguments make the same model. The members of a union count in their order, unless
the union is piped. -/
def sameArgument : Ty → Ty → Bool
  | .union false ts, .union false ts' => Ty.sameInOrder ts ts'
  | .union false _, .union true _ | .union true _, .union false _ => false
  | t, t' => t.same t'

/-- The parametrised model already made from the same arguments. -/
def parametrised? (table : ClassTable) (origin : ClassRef) (arguments : List Ty) :
    Option ClassRef :=
  let known := table.parametrised.find? fun (o, ts, _) =>
    o = origin && ts.length = arguments.length && (ts.zip arguments).all fun (t, t') =>
      sameArgument t t'
  known.map (·.2.2)

/-- Declares the model made from a generic one by arguments, its fields still those of the
origin. -/
def addParametrised (table : ClassTable) (origin : ClassRef) (info : ModelInfo)
    (arguments : List Ty) : ClassTable × ClassRef :=
  let names := table.className origin
  let tail := "[" ++ ", ".intercalate (Ty.argumentNames table arguments) ++ "]"
  let self := ClassRef.declared table.classes.size
  let (table, c) := table.addClass none
    { className := ⟨names.module, names.name ++ tail, names.name ++ tail⟩
      bases := [origin]
      ancestors := self :: table.ancestors origin
      kind := .model
        { info with
          ownFields := []
          origin := some origin
          arguments := arguments
          parameters := (Ty.openVariablesList table arguments).eraseDups } }
  ({ table with parametrised := table.parametrised ++ [(origin, arguments, c)] }, c)

/-- Parametrises a model. A model that is parametrised already is taken back to its origin, its
arguments with the new ones put in. `depth` bounds the chain of further models that fields call
for. -/
def parametriseWith : Nat → ClassRef → List Ty → Declaring ClassRef
  | 0, c, _ => pure c
  | depth + 1, c, arguments => do
    let table ← get
    match table.model? c with
    | none => pure c
    | some info =>
      let σ : Substitution := info.parameters.zip arguments
      let (origin, arguments) ←
        match info.origin with
        | some origin =>
          pure (origin, ← Ty.substituteList (parametriseWith depth) σ info.arguments)
        | none => pure (c, arguments)
      let table ← get
      match table.model? origin with
      | none => pure c
      | some base =>
        if Ty.sameInOrder arguments (base.parameters.map .typeVar) then pure origin
        else
          match table.parametrised? origin arguments with
          | some known => pure known
          | none =>
            let (table, made) := table.addParametrised origin base arguments
            set table
            let σ : Substitution := base.parameters.zip arguments
            let fields ← base.fields.mapM fun field => do
              let annotation := (← get).resolve field.annotation
              let annotation ← annotation.substitute (parametriseWith depth) σ
              pure { field with annotation := annotation }
            modify fun table => table.setFields made fields
            pure made

/-- The length of chains of parametrised models that is followed. -/
def parametrisationDepth : Nat := 100

/-- The basic classes that have arguments of their own. -/
def isContainer (c : ClassRef) : Bool :=
  [BasicClass.list, .set, .frozenSet, .tuple, .dict, .deque].any fun b => c = .basic b

/-- Checks that arguments can be told apart. -/
def checkArguments (table : ClassTable) (arguments : List Ty) : Except Fault Unit :=
  match Ty.changeableIn? arguments with
  | some value => do
    let _ ← value.asKey table
  | none => .ok ()

/-- Checks that a class takes the given number of type arguments. -/
def checkParametrising (table : ClassTable) (c : ClassRef) (number : Nat) : Except Fault Unit :=
  match table.model? c with
  | none =>
    if isContainer c then .ok ()
    else .error (typeFault s!"type {quoted (table.name c)} is not subscriptable")
  | some info =>
    let text := table.classText c
    let expected := info.parameters.length
    if c = .basic .model then
      .error (typeFault "Type parameters should be placed on typing.Generic, not BaseModel")
    else if !info.isGeneric then
      .error (typeFault <|
        text ++ " cannot be parametrized because it does not inherit from typing.Generic")
    else if expected = 0 then .error (typeFault (text ++ " is not a generic class"))
    else if number = expected then .ok ()
    else
      let word := if number < expected then "few" else "many"
      .error (typeFault s!"Too {word} arguments for {text}; actual {number}, expected {expected}")

/-- Gives type arguments to a generic model. -/
def parametrise (table : ClassTable) (c : ClassRef) (arguments : List Ty) :
    Except Fault (ClassRef × ClassTable) := do
  table.checkArguments arguments
  table.checkParametrising c arguments.length
  (parametriseWith parametrisationDepth c arguments).run table

end ClassTable

end ModelSchema
