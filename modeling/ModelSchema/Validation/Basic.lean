import ModelSchema.Validation.Keyword
import ModelSchema.Validation.Reference

/-!
Validation of values against schema documents.

* `Validator`: a place in a schema document, with the dialect there.
* `Validator.checkWith`: what the keywords of a schema find wrong with a value.
* `violations`: what a whole document finds wrong, in the order of reports.

A check that goes deeper than some depth is given up: mostly a schema has met a value twice, and
there would be no end to it.
-/

namespace ModelSchema

/-- A place in a schema document, with the dialect there. -/
structure Validator where
  library : SchemaLibrary
  nanAlike : Bool
  dialect : Dialect
  viewpoint : Viewpoint

namespace Validator

def table (validator : Validator) : ClassTable := validator.library.table

/-- The validator for a schema, which can ask for a dialect of its own. -/
def forSchema (validator : Validator) (schema : Value) : Except Fault Validator := do
  return { validator with dialect := ← validator.dialect.ofSchema validator.table schema }

/-- The keywords of a schema. Beside a reference nothing else counts in the older dialects. -/
def keywords (validator : Validator) (schema : Value) : Except Fault (List (Value × Value)) := do
  if validator.dialect.isModern then schema.partEntries validator.table
  else
    match ← schema.partNamed? validator.table "$ref" with
    | none | some .null => schema.partEntries validator.table
    | some reference => return [(.str "$ref", reference)]

/-- Checks by keywords. -/
abbrev KeywordCheck := Validator → List (Value × Value) → Value → Value → Checked

/-- The check by a schema that is seen from a place. Its keywords are chosen by the dialect around
it. -/
def checkAt (validator : Validator) (check : KeywordCheck) (viewpoint : Except Fault Viewpoint)
    (schema value : Value) : Checked :=
  match schema with
  | .bool true => .clean
  | .bool false => .one (.forbidden value)
  | schema =>
    .after viewpoint fun viewpoint =>
    .after ({ validator with viewpoint }.forSchema schema) fun inner =>
    .after (validator.keywords schema) fun entries => check inner entries schema value

/-- The check by a schema inside of the current one. -/
def below (validator : Validator) (check : KeywordCheck) (schema value : Value) : Checked :=
  validator.checkAt check (validator.viewpoint.inside validator.table validator.dialect schema)
    schema value

/-- The check by a schema whose references are seen from the current one. -/
def alone (validator : Validator) (check : KeywordCheck) (schema value : Value) : Checked :=
  match schema with
  | .bool true => .clean
  | .bool false => .one (.forbidden value)
  | schema =>
    .after (validator.forSchema schema) fun inner =>
    .after (inner.keywords schema) fun entries => check inner entries schema value

/-- The check by the schema that was looked up. -/
def found (validator : Validator) (check : KeywordCheck) (value : Value)
    (result : Except Fault (Value × Viewpoint)) : Checked :=
  .after result fun (schema, viewpoint) => validator.checkAt check (.ok viewpoint) schema value

/-! ### Parts that are looked at -/

/-- What a reference of a schema leads to, with the validator there. -/
def followed (validator : Validator) (schema : Value) (keyword : String) :
    Except Fault (Option (Validator × Value)) := do
  match ← schema.partNamed? validator.table keyword with
  | none | some .null => return none
  | some (.str reference) =>
    let (target, viewpoint) ← validator.library.lookup validator.viewpoint reference
    return some (← { validator with viewpoint }.forSchema target, target)
  | some other => throw (.missingAttribute (other.operandName validator.table) "startswith")

/-- The schemas that references and recursion lead to. -/
def allFollowed (validator : Validator) (schema : Value) :
    Except Fault (List (Validator × Value)) := do
  let direct ← validator.followed schema "$ref"
  if validator.dialect = .draft2019 then
    let recursion ←
      if ← schema.hasPart validator.table (.str "$recursiveRef") then do
        let (target, viewpoint) ← validator.library.lookupRecursive validator.viewpoint
        pure [(← { validator with viewpoint }.forSchema target, target)]
      else pure []
    return direct.toList ++ recursion
  else return direct.toList ++ (← validator.followed schema "$dynamicRef").toList

/-- The branches of a schema that a value takes. -/
def takenBranches (validator : Validator) (check : KeywordCheck) (schema value : Value) :
    Except Fault (List Value) := do
  match ← schema.partNamed? validator.table "if" with
  | none => return []
  | some condition =>
    if ← (validator.alone check condition value).isClean then
      return condition :: (← schema.partNamed? validator.table "then").toList
    else return (← schema.partNamed? validator.table "else").toList

/-- The combined schemas that admit a value. -/
def takenAlternatives (validator : Validator) (check : KeywordCheck) (schema value : Value) :
    Except Fault (List Value) := do
  let all ← ["allOf", "oneOf", "anyOf"].mapM fun keyword => do
    match ← schema.partNamed? validator.table keyword with
    | none => return []
    | some schemas =>
      (← schemas.parts validator.table).filterM fun schema =>
        (validator.below check schema value).isClean
  return all.flatten

/-- The places of the first items, if a keyword gives each of them a schema. -/
def placesUnder (validator : Validator) (schema : Value) (keyword : String) :
    Except Fault (List Nat) := do
  match ← schema.partNamed? validator.table keyword with
  | none => return []
  | some schemas => return List.range (← schemas.partCount validator.table)

/-- The places of the items that `items` and its companions look at, and whether these are all. -/
def itemPlaces (validator : Validator) (schema value : Value) : Except Fault (List Nat × Bool) := do
  let every := List.range (itemsOf value).length
  match ← schema.partNamed? validator.table "items" with
  | none =>
    if validator.dialect = .draft2019 then return ([], false)
    else return (← validator.placesUnder schema "prefixItems", false)
  | some schemas =>
    if validator.dialect != .draft2019 then return (every, true)
    else
      let further ← schema.hasPart validator.table (.str "additionalItems")
      if further || schemas matches .dict _ then return (every, true)
      else return (← validator.placesUnder schema "items", false)

/-- The places of the items that a keyword admits. -/
def admittedPlaces (validator : Validator) (check : KeywordCheck) (schema value : Value)
    (keyword : String) : Except Fault (List Nat) := do
  match ← schema.partNamed? validator.table keyword with
  | none => return []
  | some inner =>
    let items := Applicator.numbered 0 (itemsOf value)
    return (← items.filterM fun (_, item) => (validator.alone check inner item).isClean).map (·.1)

/-- The properties that a keyword admits. -/
def admittedNames (validator : Validator) (check : KeywordCheck) (schema value : Value)
    (keyword : String) : Except Fault (List String) := do
  match ← schema.partNamed? validator.table keyword with
  | none | some .null => return []
  | some inner =>
    let admitted ← (keyed value).filterM fun (_, _, part) =>
      (validator.below check inner part).isClean
    return admitted.map (·.2.1)

/-- The properties that a schema names, by a key or by a pattern. -/
def namedProperties (validator : Validator) (schema value : Value) :
    Except Fault (List String) := do
  let properties ← schema.partNamed? validator.table "properties"
  let byKey :=
    match properties with
    | some (.dict entries) =>
      (keyed value).filter fun (key, _, _) => (Value.assoc? key entries).isSome
    | _ => []
  let byPattern ←
    match ← schema.partNamed? validator.table "patternProperties" with
    | none => pure []
    | some patterns =>
      let patterns ← patterns.parts validator.table
      (keyed value).filterM fun (_, name, _) =>
        patterns.anyM fun pattern => Assertion.searched validator.table pattern name
  return (byKey ++ byPattern).map (·.2.1)

/-- The schemas that properties of the value depend on. -/
def dependentSchemas (validator : Validator) (schema value : Value) :
    Except Fault (List Value) := do
  match ← schema.partNamed? validator.table "dependentSchemas" with
  | none => return []
  | some schemas =>
    let entries ← schemas.partEntries validator.table
    return (← entries.filterM fun (key, _) => value.hasPart validator.table key).map (·.2)

/-! ### Checks -/

mutual

/-- What the keywords of a schema find wrong with a value. -/
def checkWith : Nat → Validator → List (Value × Value) → Value → Value → Checked
  | 0, _, _, _, _ => .failed .endless
  | depth + 1, validator, entries, schema, value =>
    let check := checkWith depth
    let library := validator.library
    let scope : KeywordScope :=
      { table := validator.table
        dialect := validator.dialect
        nanAlike := validator.nanAlike
        schema
        below := validator.below check
        alone := validator.alone check
        referenced := fun reference value =>
          validator.found check value (library.lookup validator.viewpoint reference)
        recursive := fun value =>
          validator.found check value (library.lookupRecursive validator.viewpoint)
        evaluatedItems := evaluatedItems depth validator schema
        evaluatedNames := evaluatedNames depth validator schema }
    Checked.each (fun (key, argument) =>
      match key.text?.bind (Keyword.ofName? validator.dialect) with
      | some keyword => keyword.check scope argument value
      | none => .clean) entries

/-- The places of the items that a schema looks at. -/
def evaluatedItems : Nat → Validator → Value → Value → Except Fault (List Nat)
  | 0, _, _, _ => .error .endless
  | depth + 1, validator, schema, value => do
    if schema matches .bool _ then return []
    else
      let followed ← (← validator.allFollowed schema).mapM fun (validator, schema) =>
        evaluatedItems depth validator schema value
      let (places, all) ← validator.itemPlaces schema value
      if all then return places
      else
        let branches ← validator.takenBranches (checkWith depth) schema value
        let contained ← validator.admittedPlaces (checkWith depth) schema value "contains"
        let rest ← validator.admittedPlaces (checkWith depth) schema value "unevaluatedItems"
        let alternatives ← validator.takenAlternatives (checkWith depth) schema value
        let inner ← (branches ++ alternatives).mapM fun schema =>
          evaluatedItems depth validator schema value
        return followed.flatten ++ places ++ contained ++ rest ++ inner.flatten

/-- The names of the properties that a schema looks at. -/
def evaluatedNames : Nat → Validator → Value → Value → Except Fault (List String)
  | 0, _, _, _ => .error .endless
  | depth + 1, validator, schema, value => do
    if schema matches .bool _ then return []
    else
      let followed ← (← validator.allFollowed schema).mapM fun (validator, schema) =>
        evaluatedNames depth validator schema value
      let named ← validator.namedProperties schema value
      let admitted ← ["additionalProperties", "unevaluatedProperties"].mapM
        (validator.admittedNames (checkWith depth) schema value)
      let dependent ← validator.dependentSchemas schema value
      let alternatives ← validator.takenAlternatives (checkWith depth) schema value
      let branches ← validator.takenBranches (checkWith depth) schema value
      let inner ← (dependent ++ alternatives ++ branches).mapM fun schema =>
        evaluatedNames depth validator schema value
      return followed.flatten ++ named ++ admitted.flatten ++ inner.flatten

end

end Validator

/-- The number of schemas inside of each other, or behind references to each other, at which a check
is given up. -/
def deepest : Nat := 488

/-- What a schema document finds wrong with a value, in the order of reports. `nanAlike` tells
whether one not-a-number in the value is like another. -/
def violations (table : ClassTable) (nanAlike : Bool) (schema value : Value) :
    Except Fault (List Violation) := do
  let dialect := Dialect.draft7
  let (library, viewpoint) ← SchemaLibrary.ofRoot table dialect schema
  let validator : Validator := ⟨library, nanAlike, dialect, viewpoint⟩
  let check := Validator.checkWith deepest
  let checked : Checked :=
    match schema with
    | .bool true => .clean
    | .bool false => .one (.forbidden value)
    | schema =>
      .after (validator.keywords schema) fun entries => check validator entries schema value
  return (← checked.all).mergeSort Violation.precedes

end ModelSchema
