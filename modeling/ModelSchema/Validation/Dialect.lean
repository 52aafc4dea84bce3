import ModelSchema.Text.UriReference
import ModelSchema.Validation.Part

/-!
The dialects of schemas.

* `Dialect`: the dialects, oldest first, each with the reference that names it.
* `Dialect.id?`: the reference by which a schema of a dialect names itself.
* `Dialect.subschemas`: the schemas inside of a schema.
* `Dialect.isSubschemaPath`: whether a path leads from a schema to one inside of it.
* `JsonType.holds`: whether a value has a type of JSON data. A number without a fraction is an
  integer, however it is written, except in the oldest dialects; truth values are no numbers.
-/

namespace ModelSchema

/-- The dialects of schemas. -/
inductive Dialect where
  | draft3
  | draft4
  | draft6
  | draft7
  | draft2019
  | draft2020
  deriving DecidableEq, Repr, Inhabited

namespace Dialect

def all : List Dialect := [draft3, draft4, draft6, draft7, draft2019, draft2020]

/-- The host that has the schemas of all dialects. -/
def host : String := "//json-schema.org/"

/-- The reference that names a dialect. -/
def uri : Dialect → String
  | draft3 => "http:" ++ host ++ "draft-03/schema"
  | draft4 => "http:" ++ host ++ "draft-04/schema"
  | draft6 => "http:" ++ host ++ "draft-06/schema"
  | draft7 => "http:" ++ host ++ "draft-07/schema"
  | draft2019 => "https:" ++ host ++ "draft/2019-09/schema"
  | draft2020 => "https:" ++ host ++ "draft/2020-12/schema"

/-- The dialect that a reference without a fragment names. -/
def ofUri? (uri : String) : Option Dialect := all.find? (·.uri = uri)

/-- A reference without the signs of an empty fragment at its end. -/
def withoutEmptyFragment (uri : String) : String :=
  String.ofList (uri.toList.reverse.dropWhile (· = '#')).reverse

/-- A reference in a plain form, in which an empty fragment is left out. Values that count as false
are references as well, to nothing. -/
def plainUri (table : ClassTable) (value : Value) : Except Fault String :=
  match value with
  | .str uri =>
    match UriReference.ofText? uri with
    | some uri => .ok uri.text
    | none => .error (.other "ValueError" "Invalid IPv6 URL")
  | value => do
    let _ ← value.asKey table
    if value.isTruthy then throw (.missingAttribute (value.operandName table) "decode")
    else return ""

/-- The dialect that a schema asks for, or else the one around it. -/
def ofSchema (table : ClassTable) (around : Dialect) (schema : Value) : Except Fault Dialect := do
  if schema matches .bool _ then return around
  else if ← schema.hasPart table (.str "$schema") then
    return (ofUri? (← plainUri table (← schema.partAt table "$schema"))).getD around
  else return around

/-! ### References of schemas -/

/-- Whether the references of schemas stand beside other keywords without switching them off, and
name a schema by themselves. -/
def isModern : Dialect → Bool
  | draft2019 | draft2020 => true
  | _ => false

/-- The keyword by which a schema names itself. -/
def idKeyword : Dialect → String
  | draft3 | draft4 => "id"
  | _ => "$id"

/-- Whether a truth value is a schema. -/
def hasTruthSchemas : Dialect → Bool
  | draft3 | draft4 => false
  | _ => true

/-- The reference by which a schema names itself. -/
def id? (dialect : Dialect) (table : ClassTable) (schema : Value) :
    Except Fault (Option String) := do
  let isTruth : Bool := schema matches .bool _
  if dialect.hasTruthSchemas && isTruth then return none
  else if dialect.isModern then
    match ← schema.partNamed? table dialect.idKeyword with
    | none | some .null => return none
    | some (.str id) => return some (withoutEmptyFragment id)
    | some other => throw (.missingAttribute (other.operandName table) "rstrip")
  else if ← schema.hasPart table (.str "$ref") then return none
  else
    match ← schema.partNamed? table dialect.idKeyword with
    | none | some .null => return none
    | some id =>
      if ← id.beginsWith table "#" then return none
      else return id.text?.map withoutEmptyFragment

/-! ### Schemas inside of schemas -/

/-- The keywords whose argument is a schema. -/
def schemaKeywords : Dialect → List String
  | draft3 => []
  | draft4 => ["not"]
  | draft6 => ["additionalItems", "additionalProperties", "contains", "not", "propertyNames"]
  | draft7 =>
    ["additionalItems", "additionalProperties", "contains", "else", "if", "not", "propertyNames",
      "then"]
  | draft2019 =>
    ["additionalItems", "additionalProperties", "contains", "contentSchema", "else", "if", "not",
      "propertyNames", "then", "unevaluatedItems", "unevaluatedProperties"]
  | draft2020 =>
    ["additionalProperties", "contains", "contentSchema", "else", "if", "items", "not",
      "propertyNames", "then", "unevaluatedItems", "unevaluatedProperties"]

/-- The keywords whose argument is a list of schemas. -/
def listKeywords : Dialect → List String
  | draft3 => ["extends"]
  | draft2020 => ["allOf", "anyOf", "oneOf", "prefixItems"]
  | _ => ["allOf", "anyOf", "oneOf"]

/-- The keywords whose argument has schemas behind its keys. -/
def tableKeywords : Dialect → List String
  | draft2019 | draft2020 =>
    ["$defs", "definitions", "dependentSchemas", "patternProperties", "properties"]
  | _ => ["definitions", "patternProperties", "properties"]

/-- Whether a value is a sequence. -/
def isSequence : Value → Bool
  | .str _ | .bytes _ | .collection .list _ | .collection .tuple _ | .collection .deque _ => true
  | _ => false

/-- What a keyword of a schema has, if the schema has the keyword. -/
def underKeyword (table : ClassTable) (schema : Value)
    (view : Value → Except Fault (List Value)) (keyword : String) : Except Fault (List Value) := do
  if ← schema.hasPart table (.str keyword) then view (← schema.partAt table keyword) else return []

/-- The schemas under `items`: one, or a sequence of them. -/
def itemSchemas (table : ClassTable) (schema : Value) : Except Fault (List Value) := do
  match ← schema.partNamed? table "items" with
  | none | some .null => return []
  | some items => if isSequence items then items.parts table else return [items]

/-- The schemas under `dependencies`. If the first one is no object, there are none. -/
def dependencySchemas (table : ClassTable) (schema : Value) : Except Fault (List Value) := do
  match ← schema.partNamed? table "dependencies" with
  | none | some .null => return []
  | some dependencies =>
    match ← dependencies.partValues table with
    | .dict entries :: rest => return .dict entries :: rest
    | _ => return []

/-- The schemas inside of a schema of a dialect. -/
def subschemas (dialect : Dialect) (table : ClassTable) (schema : Value) :
    Except Fault (List Value) := do
  if schema matches .bool _ then return []
  else
    let ones ← dialect.schemaKeywords.mapM (underKeyword table schema fun value => .ok [value])
    let lists ← dialect.listKeywords.mapM (underKeyword table schema (·.parts table))
    let tables ← dialect.tableKeywords.mapM (underKeyword table schema (·.partValues table))
    let items ← if dialect = draft2020 then pure [] else itemSchemas table schema
    let dependencies ← if dialect.isModern then pure [] else dependencySchemas table schema
    let additional ←
      if dialect.hasTruthSchemas then pure []
      else
        ["additionalItems", "additionalProperties"].filterMapM fun keyword => do
          match ← schema.partNamed? table keyword with
          | some (.dict entries) => return some (.dict entries)
          | _ => return none
    return ones.flatten ++ lists.flatten ++ tables.flatten ++ items ++ dependencies ++ additional

/-- The keywords whose argument is a schema if it is an object. -/
def objectKeywords : Dialect → List String
  | draft2020 => []
  | draft2019 => ["items"]
  | _ => ["items", "dependencies"]

/-- Whether a path leads from a schema to a schema inside of it. `isObject` tells whether an object
is at its end. -/
def isSubschemaPath (dialect : Dialect) (isObject : Bool) : List String → Bool
  | [] => true
  | keyword :: rest =>
    if isObject && dialect.objectKeywords.contains keyword then true
    else
      let ones :=
        if dialect.hasTruthSchemas then dialect.schemaKeywords
        else "additionalItems" :: "additionalProperties" :: dialect.schemaKeywords
      if ones.contains keyword then dialect.isSubschemaPath isObject rest
      else if dialect.listKeywords.contains keyword || dialect.tableKeywords.contains keyword then
        match rest with
        | [] => false
        | _ :: rest => dialect.isSubschemaPath isObject rest
      else false

end Dialect

/-! ### The types of JSON data -/

inductive JsonType where
  | any
  | null
  | boolean
  | integer
  | number
  | string
  | array
  | object
  deriving DecidableEq, Repr, Inhabited

namespace JsonType

/-- The types that a dialect knows. -/
def all (dialect : Dialect) : List JsonType :=
  let types := [null, boolean, integer, number, string, array, object]
  if dialect = .draft3 then any :: types else types

/-- The name of a type in schemas. -/
def name : JsonType → String
  | any => "any"
  | null => "null"
  | boolean => "boolean"
  | integer => "integer"
  | number => "number"
  | string => "string"
  | array => "array"
  | object => "object"

/-- The type with a name. -/
def ofName? (dialect : Dialect) (name : String) : Option JsonType :=
  (all dialect).find? (·.name = name)

/-- Whether a value has a type. -/
def holds (dialect : Dialect) (type : JsonType) (value : Value) : Bool :=
  match type, value with
  | any, _ => true
  | null, .null => true
  | boolean, .bool _ => true
  | integer, .int _ => true
  | integer, .float x => dialect.hasTruthSchemas && x.toInt?.isSome
  | integer, .member _ .int _ _ | integer, .member _ .intFlag _ _ => true
  | number, .int _ | number, .float _ => true
  | number, .member _ .int _ _ | number, .member _ .float _ _ | number, .member _ .intFlag _ _ =>
    true
  | string, value => value.text?.isSome
  | array, .collection .list _ => true
  | object, .dict _ => true
  | _, _ => false

end JsonType

end ModelSchema
