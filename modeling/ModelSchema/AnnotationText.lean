import ModelSchema.NoteText

/-!
Annotations as they are shown in messages and in the names of parametrised models.

* `Ty.displayed`: an annotation on its own; `Ty.argumentText`: one inside another.
* `Ty.qualifiedName`: the name of an annotation where the name of a class is asked for.
* `Ty.argumentName`: one inside the name of a parametrised model.
-/

namespace ModelSchema

/-- The capitalised spelling of an array annotation. -/
def ArrayKind.label : ArrayKind → String
  | list => "List"
  | set => "Set"
  | frozenSet => "FrozenSet"
  | deque => "Deque"
  | sequence => "Sequence"
  | mutableSequence => "MutableSequence"
  | abstractSet => "AbstractSet"
  | mutableSet => "MutableSet"
  | collection => "Collection"
  | iterable => "Iterable"

/-- The capitalised spelling of a map annotation. -/
def MapKind.label : MapKind → String
  | dict => "Dict"
  | ordered => "OrderedDict"
  | defaulting => "DefaultDict"
  | mapping => "Mapping"
  | mutableMapping => "MutableMapping"

def UnsupportedKind.label : UnsupportedKind → String
  | type => "type"
  | iterator => "collections.abc.Iterator"
  | counter => "collections.Counter"

/-- The label without the module. -/
def UnsupportedKind.simpleLabel : UnsupportedKind → String
  | type => "type"
  | iterator => "Iterator"
  | counter => "Counter"

namespace ClassTable

/-- The module and name of a named type. -/
def newTypeName (table : ClassTable) (index : Nat) : String :=
  match table.newTypes[index]? with
  | some t => t.module ++ "." ++ t.name
  | none => ""

/-- A class inside an annotation: without its module when it is a builtin one. -/
def classArgument (table : ClassTable) (c : ClassRef) : String :=
  let names := table.className c
  if names.module = "builtins" then names.qualname else names.module ++ "." ++ names.qualname

end ClassTable

namespace Ty

/-- The members of a union that are not nothing. -/
def presentMembers (members : List Ty) : List Ty := members.filter fun m => !m.same .none

mutual

/-- An annotation inside another one. -/
def argumentText (table : ClassTable) : Ty → String
  | .any => "typing.Any"
  | .none => "NoneType"
  | .ellipsis => "..."
  | .cls c => table.classArgument c
  | .forward name => "ForwardRef(" ++ quoted name ++ ")"
  | .bareName name => quoted name
  | .typeVar i => "~" ++ table.typeVarName i
  | .newType i => table.newTypeName i
  | .array k t => "typing." ++ k.label ++ "[" ++ t.argumentText table ++ "]"
  | .bareArray k => "typing." ++ k.label
  | .tuple ts =>
    if ts.isEmpty then "typing.Tuple[()]"
    else "typing.Tuple[" ++ ", ".intercalate (argumentTexts table ts) ++ "]"
  | .bareTuple => "typing.Tuple"
  | .map k a b =>
    "typing." ++ k.label ++ "[" ++ a.argumentText table ++ ", " ++ b.argumentText table ++ "]"
  | .bareMap k => "typing." ++ k.label
  | .union true ts => " | ".intercalate ((argumentTexts table ts).map fun text =>
      if text = "NoneType" then "None" else text)
  | .union false ts =>
    match argumentTexts table ts with
    | [a, "NoneType"] => "typing.Optional[" ++ a ++ "]"
    | ["NoneType", a] => "typing.Optional[" ++ a ++ "]"
    | texts => "typing.Union[" ++ ", ".intercalate texts ++ "]"
  | .annotated t notes =>
    let parts := t.argumentText table :: notes.map fun note => note.displayed table
    "typing.Annotated[" ++ ", ".intercalate parts ++ "]"
  | .literal vs => "typing.Literal[" ++ ", ".intercalate (vs.map (·.displayed table)) ++ "]"
  | .unsupported k .none => k.label ++ "[None]"
  | .unsupported k t => k.label ++ "[" ++ t.argumentText table ++ "]"

def argumentTexts (table : ClassTable) : List Ty → List String
  | [] => []
  | t :: ts => t.argumentText table :: argumentTexts table ts

end

/-- An annotation on its own. -/
def displayed (table : ClassTable) : Ty → String
  | .none => "None"
  | .ellipsis => "Ellipsis"
  | .cls c => table.classText c
  | t => t.argumentText table

/-- The name of an annotation where the name of a class is asked for. -/
def qualifiedName (table : ClassTable) : Ty → String
  | .any => "typing.Any"
  | .cls c => table.qualifiedName c
  | .array k _ | .bareArray k => "typing." ++ k.label
  | .tuple _ | .bareTuple => "typing.Tuple"
  | .map k _ _ | .bareMap k => "typing." ++ k.label
  | .union false ts =>
    if ts.length = 2 && ts.any (·.same .none) then "typing.Optional" else "typing.Union"
  | .literal _ => "typing.Literal"
  | .annotated _ _ => "typing.Annotated"
  | t => t.displayed table

mutual

/-- An annotation inside the name of a parametrised model. -/
def argumentName (table : ClassTable) : Ty → String
  | .any => "Any"
  | .none => "NoneType"
  | .ellipsis => "..."
  | .cls c => table.qualname c
  | .forward name => "ForwardRef(" ++ quoted name ++ ")"
  | .bareName name => name
  | .typeVar i => "~" ++ table.typeVarName i
  | .newType _ => "NewType"
  | .array k t => k.label ++ "[" ++ t.argumentName table ++ "]"
  | .bareArray k => k.label
  | .tuple ts => "Tuple[" ++ ", ".intercalate (argumentNames table ts) ++ "]"
  | .bareTuple => "Tuple"
  | .map k a b => k.label ++ "[" ++ a.argumentName table ++ ", " ++ b.argumentName table ++ "]"
  | .bareMap k => k.label
  | .union _ ts => "Union[" ++ ", ".intercalate (argumentNames table ts) ++ "]"
  | .annotated t notes =>
    let parts := t.argumentName table :: notes.map fun note => note.argumentName table
    "Annotated[" ++ ", ".intercalate parts ++ "]"
  | .literal vs => "Literal[" ++ ", ".intercalate (vs.map (·.displayed table)) ++ "]"
  | .unsupported k t => k.simpleLabel ++ "[" ++ t.argumentName table ++ "]"

def argumentNames (table : ClassTable) : List Ty → List String
  | [] => []
  | t :: ts => t.argumentName table :: argumentNames table ts

end

end Ty

end ModelSchema
