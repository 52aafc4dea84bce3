import ModelSchema.Validation.Assertion

/-!
Applicators: the keywords of schemas that apply other schemas to a value or to its parts.
-/

namespace ModelSchema

namespace Applicator

open Assertion (searched namesWithin)

/-! ### Objects -/

/-- Applies each schema in a table to the property with its name. -/
def properties (scope : KeywordScope) (value properties : Value) : Checked :=
  match value with
  | .dict entries =>
    .after (properties.partEntries scope.table) (.each fun (key, schema) =>
      match key.text?, Value.assoc? key entries with
      | some name, some value => scope.part (.key name) schema value
      | _, _ => .clean)
  | _ => .clean

/-- As `properties`, but the schemas themselves tell which properties are required. -/
def requiringProperties (scope : KeywordScope) (value properties : Value) : Checked :=
  match value with
  | .dict entries =>
    .after (properties.partEntries scope.table) (.each fun (key, schema) =>
      match key.text?, Value.assoc? key entries with
      | some name, some value => scope.part (.key name) schema value
      | _, _ => .after (schema.partNamed? scope.table "required") fun required =>
        if required.any Value.isTruthy then
          (Checked.one (.missing key)).within (.key "required")
        else .clean)
  | _ => .clean

def patternProperties (scope : KeywordScope) (value patterns : Value) : Checked :=
  if scope.holds .object value then
    .after (patterns.partEntries scope.table) (.each fun (pattern, schema) =>
      Checked.each (fun (_, name, part) =>
        .after (searched scope.table pattern name) fun found =>
          if found then scope.part (.key name) schema part else .clean) (keyed value))
  else .clean

/-- Texts with a sign between them. -/
def joinedTexts (table : ClassTable) (sign : String) (texts : Value) : Except Fault String := do
  let parts ← (texts.parts table).mapError fun _ => typeFault "can only join an iterable"
  let texts ← (parts.zip (List.range parts.length)).mapM fun (part, place) =>
    match part with
    | .str s => Except.ok s
    | part =>
      .error (typeFault (s!"sequence item {place}: expected str instance, "
        ++ s!"{part.operandName table} found"))
  return sign.intercalate texts

/-- The properties of an object that a schema does not name, neither by a key nor by a pattern. All
patterns are read as the branches of a single one. -/
def extras (scope : KeywordScope) (value : Value) :
    Except Fault (List (Value × String × Value)) := do
  let properties := (← scope.argument? "properties").getD (.dict [])
  let patterns := (← scope.argument? "patternProperties").getD (.dict [])
  let patterns ← joinedTexts scope.table "|" patterns
  (keyed value).filterM fun (key, name, _) => do
    if ← properties.hasPart scope.table key then return false
    else if patterns.isEmpty then return true
    else return !(← searched scope.table (.str patterns) name)

/-- Values in the order of their texts. -/
def byText (values : List (Value × String)) : List Value :=
  (values.mergeSort fun a b => a.2 ≤ b.2).map (·.1)

/-- Reports the properties that a schema does not name. -/
def reportExtras (scope : KeywordScope) (names : List Value) : Checked :=
  .after (scope.argument? "patternProperties") fun patterns =>
    match patterns with
    | none => .one (.unexpectedProperties names)
    | some patterns => .after (patterns.parts scope.table) fun patterns =>
      .one (.unmatchedProperties names
        (byText (patterns.map fun pattern => (pattern, pattern.text?.getD ""))))

def additionalProperties (scope : KeywordScope) (value additional : Value) : Checked :=
  if scope.holds .object value then
    .after (extras scope value) fun extras =>
      if scope.holds .object additional then
        Checked.each (fun (_, name, part) => scope.part (.key name) additional part) extras
      else if additional.isTruthy || extras.isEmpty then .clean
      else reportExtras scope (byText (extras.map fun (key, name, _) => (key, name)))
  else .clean

def propertyNames (scope : KeywordScope) (value names : Value) : Checked :=
  if scope.holds .object value then
    Checked.each (fun (key, _, _) => scope.below names key) (keyed value)
  else .clean

/-- The entries of a table whose key is a property. -/
def forPresent (scope : KeywordScope) (check : Value → Value → Checked)
    (value dependencies : Value) :
    Checked :=
  if scope.holds .object value then
    .after (dependencies.partEntries scope.table) (.each fun (property, dependency) =>
      .after (value.hasPart scope.table property) fun isThere =>
        if isThere then check property dependency else .clean)
  else .clean

/-- The names that a property depends on. -/
def neededNames (scope : KeywordScope) (value property names : Value) : Checked :=
  namesWithin scope (.missingDependency · property) value names

def dependencies (scope : KeywordScope) (value dependencies : Value) : Checked :=
  forPresent scope (fun property dependency =>
    if scope.holds .array dependency then neededNames scope value property dependency
    else scope.below dependency value) value dependencies

/-- As `dependencies`, but a property can depend on a single name. -/
def looseDependencies (scope : KeywordScope) (value dependencies : Value) : Checked :=
  forPresent scope (fun property dependency =>
    if scope.holds .object dependency then scope.below dependency value
    else if scope.holds .string dependency then
      neededNames scope value property (.list [dependency])
    else neededNames scope value property dependency) value dependencies

def dependentRequired (scope : KeywordScope) (value dependencies : Value) : Checked :=
  forPresent scope (neededNames scope value) value dependencies

def dependentSchemas (scope : KeywordScope) (value dependencies : Value) : Checked :=
  forPresent scope (fun _ schema => scope.below schema value) value dependencies

/-! ### Arrays -/

/-- Values with their positions, counted from a start. -/
def numbered (start : Nat) : List Value → List (Nat × Value)
  | [] => []
  | value :: rest => (start, value) :: numbered (start + 1) rest

/-- Applies a schema to all items from a position on. -/
def itemsFrom (scope : KeywordScope) (start : Nat) (value schema : Value) : Checked :=
  Checked.each (fun (n, item) => scope.part (.index n) schema item)
    (numbered start ((itemsOf value).drop start))

/-- Applies each schema of a list to the item in its place. -/
def itemsByPlace (scope : KeywordScope) (value schemas : Value) : Checked :=
  .after (schemas.parts scope.table) fun schemas =>
    Checked.each (fun ((n, item), schema) => scope.part (.index n) schema item)
      ((numbered 0 (itemsOf value)).zip schemas)

/-- One schema for all items, or one for each. `listType` tells which of the two is recognised by
its type. -/
def items (scope : KeywordScope) (listType : Bool) (value schemas : Value) : Checked :=
  if scope.holds .array value then
    let isOne :=
      if listType then !scope.holds .array schemas else scope.holds .object schemas
    if isOne then itemsFrom scope 0 value schemas else itemsByPlace scope value schemas
  else .clean

def prefixItems (scope : KeywordScope) (value schemas : Value) : Checked :=
  if scope.holds .array value then itemsByPlace scope value schemas else .clean

/-- A schema for all items behind those that have one of their own. -/
def itemsBehind (scope : KeywordScope) (value schema : Value) : Checked :=
  if scope.holds .array value then
    let count : Except Fault Nat := do
      ((← scope.argument? "prefixItems").getD (.list [])).partCount scope.table
    .after count fun count =>
      let rest := (itemsOf value).drop count
      match schema with
      | .bool false => .oneIf (!rest.isEmpty) (.itemsBehind count rest)
      | schema => itemsFrom scope count value schema
  else .clean

def additionalItems (scope : KeywordScope) (value additional : Value) : Checked :=
  if scope.holds .array value then
    .after (scope.argument? "items") fun schemas =>
      if (schemas.getD (.dict [])) matches .dict _ then .clean
      else .after ((schemas.getD (.list [])).partCount scope.table) fun count =>
        if scope.holds .object additional then itemsFrom scope count value additional
        else
          let rest := (itemsOf value).drop count
          .oneIf (!additional.isTruthy && !rest.isEmpty) (.unexpectedItems rest)
  else .clean

def contains (scope : KeywordScope) (value schema : Value) : Checked :=
  if scope.holds .array value then
    .after ((itemsOf value).anyM (scope.admits schema)) fun found =>
      .oneIf (!found) (.nothingContained value)
  else .clean

/-- The number of items that a schema admits. Counting ends when there are too many. -/
def matchCount (scope : KeywordScope) (schema most : Value) :
    Nat → List Value → Except Fault (Nat × Bool)
  | count, [] => .ok (count, false)
  | count, item :: rest => do
    if ← scope.admits schema item then
      let order ← Assertion.compared scope.table ">" (.int (count + 1)) most
      if order = some .gt then return (count + 1, true)
      else matchCount scope schema most (count + 1) rest
    else matchCount scope schema most count rest

/-- As `contains`, but with bounds for the number of items. -/
def containsCounted (scope : KeywordScope) (value schema : Value) : Checked :=
  if scope.holds .array value then
    let size : Value := .int (itemsOf value).length
    .after (scope.argument? "minContains") fun least =>
    .after (scope.argument? "maxContains") fun most =>
    .after (scope.dialect.ofSchema scope.table schema) fun _ =>
    .after (matchCount scope schema (most.getD size) 0 (itemsOf value)) fun (count, tooMany) =>
      if tooMany then .one (.tooManyMatches (most.getD size))
      else
        let least := least.getD (.int 1)
        .after (Assertion.compared scope.table "<" (.int count) least) fun order =>
          if order != some .lt then .clean
          else if count = 0 then .one (.noMatches value)
          else .one (.tooFewMatches least count)
  else .clean

/-! ### Logic -/

def allOf (scope : KeywordScope) (value schemas : Value) : Checked :=
  .after (schemas.parts scope.table) (.each fun schema => scope.below schema value)

/-- The first schema that admits a value, with the schemas behind it. -/
def firstFitting (scope : KeywordScope) (value : Value) :
    List Value → Except Fault (Option (Value × List Value))
  | [] => .ok none
  | schema :: rest => do
    if (← (scope.below schema value).all).isEmpty then return some (schema, rest)
    else firstFitting scope value rest

def anyOf (scope : KeywordScope) (value schemas : Value) : Checked :=
  .after (do firstFitting scope value (← schemas.parts scope.table)) fun fitting =>
    .oneIf fitting.isNone (.noAlternative value)

/-- Exactly one schema has to admit the value. In reports the first that does comes last. -/
def oneOf (scope : KeywordScope) (value schemas : Value) : Checked :=
  .after (do firstFitting scope value (← schemas.parts scope.table)) fun fitting =>
    match fitting with
    | none => .one (.noAlternative value)
    | some (first, rest) =>
      .after (rest.filterM fun schema => scope.admits schema value) fun more =>
        .oneIf (!more.isEmpty) (.severalAlternatives value (more ++ [first]))

def not (scope : KeywordScope) (value schema : Value) : Checked :=
  .after (scope.admits schema value) fun fits => .oneIf fits (.excluded value schema)

def conditional (scope : KeywordScope) (value condition : Value) : Checked :=
  .after (scope.admits condition value) fun fits =>
    .after (scope.argument? (if fits then "then" else "else")) fun branch =>
      match branch with
      | some branch => scope.below branch value
      | none => .clean

/-- The types that a value must not have. -/
def disallow (scope : KeywordScope) (value types : Value) : Checked :=
  .after (Assertion.typeList scope.table types) (.each fun type =>
    .after (scope.admits (.record [("type", .list [type])]) value) fun fits =>
      .oneIf fits (.disallowed value type))

/-- The schemas that a schema builds on: one, or several. -/
def extending (scope : KeywordScope) (value schemas : Value) : Checked :=
  if scope.holds .object schemas then scope.below schemas value else allOf scope value schemas

/-- Whether a value has one of some types, of which each is a name or a schema. -/
def hasLooseType (scope : KeywordScope) (value : Value) : List Value → Except Fault Bool
  | [] => .ok false
  | type :: rest => do
    if type.text? = some "any" then return true
    else
      let fits ←
        if scope.holds .object type then do
          pure (← (scope.below type value).all).isEmpty
        else Assertion.hasNamedType scope value type
      if fits then return true else hasLooseType scope value rest

/-- A type as reports show it: by its name, if it is a schema with one. -/
def typeLabel (type : Value) : Value := (type.field? "name").getD type

/-- Types that can be schemas as well. -/
def looseType (scope : KeywordScope) (value types : Value) : Checked :=
  .after (Assertion.typeList scope.table types) fun types =>
    .after (hasLooseType scope value types) fun fits =>
      .oneIf (!fits) (.wrongType value (types.map typeLabel))

/-! ### Parts that no other keyword looks at -/

def unevaluatedItems (scope : KeywordScope) (value : Value) : Checked :=
  if scope.holds .array value then
    .after (scope.evaluatedItems value) fun evaluated =>
      let rest := (numbered 0 (itemsOf value)).filter fun (n, _) => !evaluated.contains n
      .oneIf (!rest.isEmpty) (.unevaluatedItems (rest.map (·.2)))
  else .clean

/-- A property is named as often as the schema finds something wrong with it. -/
def unevaluatedProperties (scope : KeywordScope) (value schema : Value) : Checked :=
  if scope.holds .object value then
    .after (do
      let evaluated ← scope.evaluatedNames value
      let names ← (keyed value).mapM fun (key, name, part) => do
        if evaluated.contains name then return []
        else return (← (scope.below schema part).all).map fun _ => (key, name)
      return names.flatten) fun names =>
      if names.isEmpty then .clean
      else
        match schema with
        | .bool false => .one (.unevaluatedProperties (byText names))
        | _ => .one (.invalidProperties (names.map (·.1)))
  else .clean

/-! ### References -/

def reference (scope : KeywordScope) (value reference : Value) : Checked :=
  match reference with
  | .str reference => scope.referenced reference value
  | .bytes _ =>
    .failed (typeFault "startswith first arg must be bytes or a tuple of bytes, not str")
  | other => .failed (.missingAttribute (other.operandName scope.table) "startswith")

end Applicator

end ModelSchema
