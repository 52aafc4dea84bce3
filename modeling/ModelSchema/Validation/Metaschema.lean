import ModelSchema.Validation.Dialect

/-!
The schemas of the older dialects: `Dialect.metaschema?` is the schema that describes the schemas of
a dialect.
-/

namespace ModelSchema

namespace Metaschema

/-- A schema with some keywords. -/
def schema (entries : List (String × Value)) : Value := .record entries

/-- A schema of a type. -/
def ofType (name : String) : Value := schema [("type", .str name)]

/-- A schema of a type with a default. -/
def ofTypeOr (name : String) (default : Value) : Value :=
  schema [("type", .str name), ("default", default)]

/-- A schema of texts of a format. -/
def formatted (format : String) : Value :=
  schema [("type", .str "string"), ("format", .str format)]

/-- The schema elsewhere. -/
def reference (target : String) : Value := schema [("$ref", .str target)]

/-- The whole schema. -/
def itself : Value := reference "#"

/-- The schema in the definitions. -/
def definition (name : String) : Value := reference ("#/definitions/" ++ name)

/-- The schema that says nothing. -/
def anything : Value := .dict []

def anyOf (schemas : List Value) : Value := schema [("anyOf", .list schemas)]

def anyOfOr (schemas : List Value) (default : Value) : Value :=
  schema [("anyOf", .list schemas), ("default", default)]

/-- A table of schemas. -/
def schemaTable : Value :=
  schema [("type", .str "object"), ("additionalProperties", itself), ("default", .dict [])]

def simpleTypes : Value :=
  schema [("enum",
    .strings ["array", "boolean", "integer", "null", "number", "object", "string"])]

def schemaArray : Value :=
  schema [("type", .str "array"), ("minItems", .int 1), ("items", itself)]

def naturalNumber : Value := schema [("type", .str "integer"), ("minimum", .int 0)]

/-- The number under a name, or zero. -/
def orZero (name : String) : Value :=
  schema [("allOf", .list [definition name, schema [("default", .int 0)]])]

/-- One simple type or several. -/
def types : Value :=
  anyOf [definition "simpleTypes",
    schema [("type", .str "array"), ("items", definition "simpleTypes"), ("minItems", .int 1),
      ("uniqueItems", .bool true)]]

/-- What depends on a property: a schema, or other properties. -/
def dependencies : Value :=
  schema [("type", .str "object"),
    ("additionalProperties", anyOf [itself, definition "stringArray"])]

/-- Keywords with one schema for all of them. -/
def each (names : List String) (argument : Value) : List (String × Value) :=
  names.map fun name => (name, argument)

/-- The schema of the oldest dialect. -/
def draft3 : Value :=
  let count := schema [("type", .str "integer"), ("minimum", .int 0)]
  let countOrZero :=
    schema [("type", .str "integer"), ("minimum", .int 0), ("default", .int 0)]
  let typeItems := schema [("type", .list [.str "string", itself])]
  let schemaOrTruth := schema [("type", .list [itself, .str "boolean"]), ("default", .dict [])]
  let schemaOrSchemas :=
    schema [("type", .list [itself, .str "array"]), ("items", itself), ("default", .dict [])]
  schema [
    ("$schema", .str (Dialect.draft3.uri ++ "#")),
    ("id", .str (Dialect.draft3.uri ++ "#")),
    ("type", .str "object"),
    ("properties", schema (
      [("type", schema [("type", .strings ["string", "array"]), ("items", typeItems),
          ("uniqueItems", .bool true), ("default", .str "any")]),
        ("properties", schema [("type", .str "object"),
          ("additionalProperties", schema [("$ref", .str "#"), ("type", .str "object")]),
          ("default", .dict [])]),
        ("patternProperties", schemaTable),
        ("additionalProperties", schemaOrTruth),
        ("items", schemaOrSchemas),
        ("additionalItems", schemaOrTruth),
        ("required", ofTypeOr "boolean" (.bool false)),
        ("dependencies", schema [("type", .str "object"),
          ("additionalProperties", schema [("type", .list [.str "string", .str "array", itself]),
            ("items", ofType "string")]),
          ("default", .dict [])])]
      ++ each ["minimum", "maximum"] (ofType "number")
      ++ each ["exclusiveMinimum", "exclusiveMaximum"] (ofTypeOr "boolean" (.bool false))
      ++ [("minItems", countOrZero), ("maxItems", count),
        ("uniqueItems", ofTypeOr "boolean" (.bool false)),
        ("pattern", formatted "regex"),
        ("minLength", countOrZero), ("maxLength", ofType "integer"),
        ("enum", ofType "array"),
        ("default", ofType "any")]
      ++ each ["title", "description", "format"] (ofType "string")
      ++ [("divisibleBy", schema [("type", .str "number"), ("minimum", .int 0),
          ("exclusiveMinimum", .bool true), ("default", .int 1)]),
        ("disallow", schema [("type", .strings ["string", "array"]), ("items", typeItems),
          ("uniqueItems", .bool true)]),
        ("extends", schemaOrSchemas),
        ("id", ofType "string"),
        ("$ref", ofType "string"),
        ("$schema", formatted "uri")])),
    ("dependencies", schema [("exclusiveMinimum", .str "minimum"),
      ("exclusiveMaximum", .str "maximum")]),
    ("default", .dict [])]

def draft4 : Value :=
  let schemaOrTruth := anyOfOr [ofType "boolean", itself] (.dict [])
  let count := definition "positiveInteger"
  let countOrZero := definition "positiveIntegerDefault0"
  schema [
    ("$schema", .str (Dialect.draft4.uri ++ "#")),
    ("id", .str (Dialect.draft4.uri ++ "#")),
    ("description", .str "Core schema meta-schema"),
    ("definitions", schema [
      ("schemaArray", schemaArray),
      ("positiveInteger", naturalNumber),
      ("positiveIntegerDefault0", orZero "positiveInteger"),
      ("simpleTypes", simpleTypes),
      ("stringArray", schema [("type", .str "array"), ("items", ofType "string"),
        ("minItems", .int 1), ("uniqueItems", .bool true)])]),
    ("type", .str "object"),
    ("properties", schema (
      [("id", ofType "string"), ("$schema", formatted "uri"), ("title", ofType "string"),
        ("description", ofType "string"), ("default", anything),
        ("multipleOf", schema [("type", .str "number"), ("minimum", .int 0),
          ("exclusiveMinimum", .bool true)]),
        ("maximum", ofType "number"), ("exclusiveMaximum", ofType "boolean"),
        ("minimum", ofType "number"), ("exclusiveMinimum", ofType "boolean"),
        ("maxLength", count), ("minLength", countOrZero), ("pattern", formatted "regex"),
        ("additionalItems", schemaOrTruth),
        ("items", anyOfOr [itself, definition "schemaArray"] (.dict [])),
        ("maxItems", count), ("minItems", countOrZero),
        ("uniqueItems", ofTypeOr "boolean" (.bool false)),
        ("maxProperties", count), ("minProperties", countOrZero),
        ("required", definition "stringArray"),
        ("additionalProperties", schemaOrTruth)]
      ++ each ["definitions", "properties", "patternProperties"] schemaTable
      ++ [("dependencies", dependencies), ("enum", ofType "array"), ("type", types),
        ("format", ofType "string")]
      ++ each ["allOf", "anyOf", "oneOf"] (definition "schemaArray")
      ++ [("not", itself)])),
    ("dependencies", schema [("exclusiveMaximum", .strings ["maximum"]),
      ("exclusiveMinimum", .strings ["minimum"])]),
    ("default", .dict [])]

/-- The definitions of the dialects in which a truth value is a schema. -/
def definitions : Value :=
  schema [
    ("schemaArray", schemaArray),
    ("nonNegativeInteger", naturalNumber),
    ("nonNegativeIntegerDefault0", orZero "nonNegativeInteger"),
    ("simpleTypes", simpleTypes),
    ("stringArray", schema [("type", .str "array"), ("items", ofType "string"),
      ("uniqueItems", .bool true), ("default", .list [])])]

/-- The keywords for numbers, texts, lists and objects in those dialects. -/
def sharedKeywords (whatever : Value) : List (String × Value) :=
  let count := definition "nonNegativeInteger"
  let countOrZero := definition "nonNegativeIntegerDefault0"
  [("multipleOf", schema [("type", .str "number"), ("exclusiveMinimum", .int 0)])]
    ++ each ["maximum", "exclusiveMaximum", "minimum", "exclusiveMinimum"] (ofType "number")
    ++ [("maxLength", count), ("minLength", countOrZero), ("pattern", formatted "regex"),
      ("additionalItems", itself),
      ("items", anyOfOr [itself, definition "schemaArray"] whatever),
      ("maxItems", count), ("minItems", countOrZero),
      ("uniqueItems", ofTypeOr "boolean" (.bool false)), ("contains", itself),
      ("maxProperties", count), ("minProperties", countOrZero),
      ("required", definition "stringArray"), ("additionalProperties", itself),
      ("definitions", schemaTable), ("properties", schemaTable),
      ("patternProperties", schema [("type", .str "object"), ("additionalProperties", itself),
        ("propertyNames", schema [("format", .str "regex")]), ("default", .dict [])]),
      ("dependencies", dependencies), ("propertyNames", itself), ("const", whatever)]

def draft6 : Value :=
  schema [
    ("$schema", .str (Dialect.draft6.uri ++ "#")),
    ("$id", .str (Dialect.draft6.uri ++ "#")),
    ("title", .str "Core schema meta-schema"),
    ("definitions", definitions),
    ("type", .strings ["object", "boolean"]),
    ("properties", schema (
      [("$id", formatted "uri-reference"), ("$schema", formatted "uri"),
        ("$ref", formatted "uri-reference"), ("title", ofType "string"),
        ("description", ofType "string"), ("default", anything),
        ("examples", schema [("type", .str "array"), ("items", anything)])]
      ++ sharedKeywords anything
      ++ [("enum", ofType "array"), ("type", types), ("format", ofType "string")]
      ++ each ["allOf", "anyOf", "oneOf"] (definition "schemaArray")
      ++ [("not", itself)])),
    ("default", .dict [])]

def draft7 : Value :=
  schema [
    ("$schema", .str (Dialect.draft7.uri ++ "#")),
    ("$id", .str (Dialect.draft7.uri ++ "#")),
    ("title", .str "Core schema meta-schema"),
    ("definitions", definitions),
    ("type", .strings ["object", "boolean"]),
    ("properties", schema (
      [("$id", formatted "uri-reference"), ("$schema", formatted "uri"),
        ("$ref", formatted "uri-reference"), ("$comment", ofType "string"),
        ("title", ofType "string"), ("description", ofType "string"), ("default", .bool true),
        ("readOnly", ofTypeOr "boolean" (.bool false)),
        ("examples", schema [("type", .str "array"), ("items", .bool true)])]
      ++ sharedKeywords (.bool true)
      ++ [("enum", schema [("type", .str "array"), ("items", .bool true)]), ("type", types)]
      ++ each ["format", "contentMediaType", "contentEncoding"] (ofType "string")
      ++ each ["if", "then", "else"] itself
      ++ each ["allOf", "anyOf", "oneOf"] (definition "schemaArray")
      ++ [("not", itself)])),
    ("default", .bool true)]

end Metaschema

/-- The schema that describes the schemas of a dialect. -/
def Dialect.metaschema? : Dialect → Option Value
  | draft3 => some Metaschema.draft3
  | draft4 => some Metaschema.draft4
  | draft6 => some Metaschema.draft6
  | draft7 => some Metaschema.draft7
  | draft2019 | draft2020 => none

end ModelSchema
