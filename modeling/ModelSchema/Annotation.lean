import ModelSchema.Note

/-!
Annotations: what the type of a field is written as.

* `Ty`: the annotation language.
* `Ty.same`: equality of annotations.
* `Ty.unionOf`, `Ty.literalOf`: members are flattened and kept once.
* `Ty.changeable?`: a value that keeps an annotation from being told apart from others.
-/

namespace ModelSchema

/-- The spellings of an array: concrete containers and the abstract ones they belong to. -/
inductive ArrayKind where
  | list
  | set
  | frozenSet
  | deque
  | sequence
  | mutableSequence
  | abstractSet
  | mutableSet
  | collection
  | iterable
  deriving DecidableEq, Repr, Inhabited

/-- The spellings of a map. -/
inductive MapKind where
  | dict
  | ordered
  | defaulting
  | mapping
  | mutableMapping
  deriving DecidableEq, Repr, Inhabited

/-- Generic annotations that have no schema. -/
inductive UnsupportedKind where
  | type
  | iterator
  | counter
  deriving DecidableEq, Repr, Inhabited

/-- An annotation. `forward` is a name inside an annotation that was not known when it was written,
`bareName` such a name that is the whole annotation, and `bareArray`, `bareTuple` and `bareMap` are
containers without arguments. -/
inductive Ty where
  | any
  | none
  | ellipsis
  | cls (c : ClassRef)
  | forward (name : String)
  | bareName (name : String)
  | typeVar (index : Nat)
  | newType (index : Nat)
  | array (kind : ArrayKind) (element : Ty)
  | bareArray (kind : ArrayKind)
  | tuple (elements : List Ty)
  | bareTuple
  | map (kind : MapKind) (key value : Ty)
  | bareMap (kind : MapKind)
  | union (piped : Bool) (members : List Ty)
  | annotated (inner : Ty) (notes : List Note)
  | literal (values : List Value)
  | unsupported (kind : UnsupportedKind) (argument : Ty)
  deriving Repr, Inhabited

namespace Ty

def basic (c : BasicClass) : Ty := .cls (.basic c)

/-! ### Equality -/

/-- Equality of literal values: equal values of one kind. -/
def sameLiteral (a b : Value) : Bool :=
  let ofOneKind : Bool :=
    match a, b with
    | .bool _, .bool _ | .int _, .int _ | .float _, .float _ | .decimal _, .decimal _ => true
    | .complex .., .complex .. | .str _, .str _ => true
    | .member c .., .member d .. => c = d
    | .collection kind _, .collection kind' _ => kind = kind'
    | a, b =>
      a.magnitude?.isNone && b.magnitude?.isNone && a.text?.isNone && b.text?.isNone
  ofOneKind && a.same b

/-- Literals are equal when each has the values of the other. -/
def sameLiterals (as bs : List Value) : Bool :=
  as.all (fun a => bs.any (sameLiteral a)) && bs.all (fun b => as.any (sameLiteral b))

mutual

/-- Whether two annotations are equal; the order of union members does not count. -/
def same : Ty → Ty → Bool
  | .any, b => match b with
    | .any => true
    | _ => false
  | .none, b => match b with
    | .none => true
    | _ => false
  | .ellipsis, b => match b with
    | .ellipsis => true
    | _ => false
  | .cls a, b => match b with
    | .cls b => a == b
    | _ => false
  | .forward a, b => match b with
    | .forward b => a == b
    | _ => false
  | .bareName a, b => match b with
    | .bareName b => a == b
    | _ => false
  | .typeVar a, b => match b with
    | .typeVar b => a == b
    | _ => false
  | .newType a, b => match b with
    | .newType b => a == b
    | _ => false
  | .array k a, b => match b with
    | .array k' b => k == k' && a.same b
    | _ => false
  | .bareArray k, b => match b with
    | .bareArray k' => k == k'
    | _ => false
  | .tuple as, b => match b with
    | .tuple bs => sameInOrder as bs
    | _ => false
  | .bareTuple, b => match b with
    | .bareTuple => true
    | _ => false
  | .map k a v, b => match b with
    | .map k' a' v' => k == k' && a.same a' && v.same v'
    | _ => false
  | .bareMap k, b => match b with
    | .bareMap k' => k == k'
    | _ => false
  | .union _ as, b => match b with
    | .union _ bs => as.length == bs.length && sameInAnyOrder as bs
    | _ => false
  | .annotated a notes, b => match b with
    | .annotated b notes' => a.same b && Note.sameInOrder notes notes'
    | _ => false
  | .literal as, b => match b with
    | .literal bs => sameLiterals as bs
    | _ => false
  | .unsupported k a, b => match b with
    | .unsupported k' b => k == k' && a.same b
    | _ => false

def sameInOrder : List Ty → List Ty → Bool
  | [], [] => true
  | a :: as, b :: bs => a.same b && sameInOrder as bs
  | _, _ => false

def sameInAnyOrder : List Ty → List Ty → Bool
  | [], _ => true
  | a :: as, bs => bs.any (fun b => a.same b) && sameInAnyOrder as bs

end

/-! ### Building -/

/-- The members a type contributes to a union: those of a union, or the type itself. -/
def unionMembers : Ty → List Ty
  | .union _ members => members
  | t => [t]

/-- The distinct types of a list, each at its first place. -/
def distinct (types : List Ty) : List Ty :=
  types.foldl (fun kept t => if kept.any (fun k => k.same t) then kept else kept ++ [t]) []

/-- The union of types: nested unions are flattened, repeated members dropped, and a single member
stands for itself. -/
def unionOf (piped : Bool) (types : List Ty) : Ty :=
  match distinct (types.flatMap unionMembers) with
  | [t] => t
  | members => .union piped members

/-- A type or nothing. -/
def optional (t : Ty) : Ty := unionOf false [t, .none]

/-- Attaches notes; the notes of an annotation inside come first. -/
def annotate (t : Ty) (notes : List Note) : Ty :=
  match t with
  | .annotated inner before => .annotated inner (before ++ notes)
  | t => .annotated t notes

/-- A literal type; a value that occurs again is dropped, unless some value can be changed. -/
def literalOf (values : List Value) : Ty :=
  if values.any fun v => v.changeable?.isSome then .literal values
  else
    .literal (values.foldl
      (fun kept v => if kept.any (fun k => sameLiteral k v) then kept else kept ++ [v]) [])

/-- A type as an argument of another: a name on its own becomes a forward name. -/
def asArgument : Ty → Ty
  | .bareName name => .forward name
  | t => t

/-! ### Telling apart -/

mutual

/-- A value in an annotation that can be changed. Annotations with one can not be told apart from
others. -/
def changeable? : Ty → Option Value
  | .array _ t | .unsupported _ t => t.changeable?
  | .map _ a b => a.changeable?.orElse fun _ => b.changeable?
  | .tuple ts | .union _ ts => changeableIn? ts
  | .annotated t notes =>
    t.changeable?.orElse fun _ => (notes.flatMap Note.values).findSome? Value.changeable?
  | .literal values => values.findSome? Value.changeable?
  | _ => Option.none

def changeableIn? : List Ty → Option Value
  | [] => Option.none
  | t :: ts => t.changeable?.orElse fun _ => changeableIn? ts

end

/-! ### Taking apart -/

/-- The annotation without the notes around it, and those notes. -/
def stripped : Ty → Ty × List Note
  | .annotated inner notes =>
    let (core, before) := inner.stripped
    (core, notes ++ before)
  | t => (t, [])

/-- The annotation without its outermost notes, and those notes. -/
def unnoted : Ty → Ty × List Note
  | .annotated inner notes => (inner, notes)
  | t => (t, [])

/-- Whether the annotation is a union with nothing as a member. -/
def isOptional (t : Ty) : Bool :=
  match t.stripped.1 with
  | .union _ members => members.any fun m => m.same .none
  | _ => false

mutual

/-- Replaces the annotations without parts in an annotation. A union is formed anew, since a
replaced member may turn out to be a member it already has. -/
def replaceAtoms (f : Ty → Ty) : Ty → Ty
  | .array k t => .array k (t.replaceAtoms f)
  | .tuple ts => .tuple (replaceAtomsList f ts)
  | .map k a b => .map k (a.replaceAtoms f) (b.replaceAtoms f)
  | .union p ts => unionOf p (replaceAtomsList f ts)
  | .annotated t notes => annotate (t.replaceAtoms f) notes
  | .unsupported k t => .unsupported k (t.replaceAtoms f)
  | t => f t

def replaceAtomsList (f : Ty → Ty) : List Ty → List Ty
  | [] => []
  | t :: ts => t.replaceAtoms f :: replaceAtomsList f ts

end

/-- Replaces forward names that are known by now. -/
def resolve (known : String → Option Ty) (t : Ty) : Ty :=
  t.replaceAtoms fun
    | .forward name => (known name).getD (.forward name)
    | .bareName name => (known name).getD (.bareName name)
    | atom => atom

mutual

/-- The forward names in an annotation. -/
def forwardNames : Ty → List String
  | .forward name | .bareName name => [name]
  | .array _ t | .annotated t _ | .unsupported _ t => t.forwardNames
  | .map _ a b => a.forwardNames ++ b.forwardNames
  | .tuple ts | .union _ ts => forwardNamesList ts
  | _ => []

def forwardNamesList : List Ty → List String
  | [] => []
  | t :: ts => t.forwardNames ++ forwardNamesList ts

end

mutual

/-- The classes named in an annotation. -/
def classes : Ty → List ClassRef
  | .cls c => [c]
  | .array _ t | .annotated t _ | .unsupported _ t => t.classes
  | .map _ a b => a.classes ++ b.classes
  | .tuple ts | .union _ ts => classesList ts
  | _ => []

def classesList : List Ty → List ClassRef
  | [] => []
  | t :: ts => t.classes ++ classesList ts

end

end Ty

end ModelSchema
