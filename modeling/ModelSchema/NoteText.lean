import ModelSchema.Shown

/-!
Notes as they are shown in messages and in the names of parametrised models.

* `Note.kindName`: the name of the kind of a note.
* `Note.displayed`: a note with all that it says.
-/

namespace ModelSchema

/-- The name of a part of a note with the part's text. -/
def labelled (label text : String) : String := label ++ "=" ++ text

/-- A kind with its parts between parentheses. -/
def withParts (kind : String) (parts : List String) : String :=
  kind ++ "(" ++ ", ".intercalate parts ++ ")"

/-- A value that may be absent. -/
def displayedOption (table : ClassTable) (value : Option Value) : String :=
  (value.getD .null).displayed table

namespace Bound

def kindName : Bound → String
  | gt => "Gt"
  | ge => "Ge"
  | lt => "Lt"
  | le => "Le"
  | multipleOf => "MultipleOf"
  | minLength => "MinLen"
  | maxLength => "MaxLen"

/-- The name of what a bound restricts. -/
def label : Bound → String
  | gt => "gt"
  | ge => "ge"
  | lt => "lt"
  | le => "le"
  | multipleOf => "multiple_of"
  | minLength => "min_length"
  | maxLength => "max_length"

/-- A bound with its value. -/
def displayed (table : ClassTable) (value : Value) (bound : Bound) : String :=
  withParts bound.kindName [labelled bound.label (value.displayed table)]

end Bound

/-- The limits that are set, with their bounds. The pattern is not among them. -/
def Constraints.bounds (limits : Constraints) : List (Bound × Value) :=
  [(Bound.gt, limits.gt), (.ge, limits.ge), (.lt, limits.lt), (.le, limits.le),
    (.multipleOf, limits.multipleOf), (.minLength, limits.minLength),
    (.maxLength, limits.maxLength)].filterMap fun (bound, value) => value.map (bound, ·)

/-- The limits that are set, with their names. -/
def Constraints.displayed (table : ClassTable) (limits : Constraints) : List String :=
  limits.bounds.map (fun (bound, value) => labelled bound.label (value.displayed table))
    ++ (limits.pattern.map fun value => labelled "pattern" (value.displayed table)).toList

/-- The limits of the description of a field, as notes. -/
def Constraints.noteTexts (table : ClassTable) (limits : Constraints) : List String :=
  limits.bounds.map (fun (bound, value) => bound.displayed table value)
    ++ (limits.pattern.map fun value =>
      withParts "_PydanticGeneralMetadata" [labelled "pattern" (value.displayed table)]).toList

/-- The description of a field that no annotation belongs to yet. -/
def FieldSettings.displayed (table : ClassTable) (settings : FieldSettings) : String :=
  let text (label : String) (text : Option (Option String)) : List String :=
    (text.join.map fun text => labelled label (quoted text)).toList
  let other (label : String) (own : Option (Option String)) : List String :=
    if own.join = settings.aliasName.join then [] else text label own
  let required := settings.default.isNone && settings.factory.isNone
  let named := [settings.aliasName, settings.validationAlias, settings.serializationAlias].any
    fun name => name.join.isSome
  let limits := settings.limits.noteTexts table
  withParts "FieldInfo" <|
    [labelled "annotation" "NoneType", labelled "required" (if required then "True" else "False")]
      ++ (settings.default.map fun value => labelled "default" (value.displayed table)).toList
      ++ (settings.factory.map fun _ => labelled "default_factory" "<lambda>").toList
      ++ text "alias" settings.aliasName
      ++ (if named then [labelled "alias_priority" "2"] else [])
      ++ other "validation_alias" settings.validationAlias
      ++ other "serialization_alias" settings.serializationAlias
      ++ text "title" settings.title
      ++ text "description" settings.description
      ++ (if settings.excluded = some true then [labelled "exclude" "True"] else [])
      ++ (if limits.isEmpty then []
        else [labelled "metadata" ("[" ++ ", ".intercalate limits ++ "]")])

namespace Note

def kindName : Note → String
  | required => "JsonRequired"
  | remark _ => "str"
  | bound kind _ => kind.kindName
  | length .. => "Len"
  | interval _ => "Interval"
  | textLimits _ => "StringConstraints"
  | attributes _ => "SimpleNamespace"
  | field _ => "FieldInfo"

/-- A note with all that it says. -/
def displayed (table : ClassTable) : Note → String
  | required => "JsonRequired()"
  | remark text => quoted text
  | bound kind value => kind.displayed table value
  | length least most =>
    withParts "Len"
      [labelled "min_length" (least.displayed table), labelled "max_length" (most.displayed table)]
  | interval limits =>
    withParts "Interval"
      [labelled "gt" (displayedOption table limits.gt),
        labelled "ge" (displayedOption table limits.ge),
        labelled "lt" (displayedOption table limits.lt),
        labelled "le" (displayedOption table limits.le)]
  | textLimits limits =>
    withParts "StringConstraints"
      (["strip_whitespace", "to_upper", "to_lower", "strict"].map (labelled · "None") ++
        [labelled "min_length" (displayedOption table limits.minLength),
          labelled "max_length" (displayedOption table limits.maxLength),
          labelled "pattern" (displayedOption table limits.pattern)])
  | attributes limits => withParts "namespace" (limits.displayed table)
  | field settings => settings.displayed table

/-- A note inside the name of a parametrised model: the name of its kind, unless it describes a
field. -/
def argumentName (table : ClassTable) : Note → String
  | field settings => settings.displayed table
  | note => note.kindName

end Note

end ModelSchema
