import ModelSchema.Validation.Applicator

/-!
The keywords of schemas.

* `Keyword`: what keywords ask for.
* `Keyword.ofName?`: what a keyword asks for in a dialect. Keywords that a dialect does not know are
  ignored.
* `Keyword.check`: what a keyword finds wrong with a value.
-/

namespace ModelSchema

/-- What a keyword asks for. Keywords of one name ask for different things in different dialects. -/
inductive Keyword where
  | reference
  | recursiveReference
  | additionalItems
  | additionalProperties
  | allOf
  | anyOf
  | const
  | contains
  | containsCounted
  | dependencies
  | looseDependencies
  | dependentRequired
  | dependentSchemas
  | disallow
  | enum
  | exclusiveMaximum
  | exclusiveMinimum
  | extending
  | conditional
  | items
  | itemsByType
  | itemsBehind
  | maxItems
  | maxLength
  | maxProperties
  | maximum
  | switchedMaximum
  | minItems
  | minLength
  | minProperties
  | minimum
  | switchedMinimum
  | multipleOf
  | oneOf
  | not
  | pattern
  | patternProperties
  | prefixItems
  | properties
  | requiringProperties
  | propertyNames
  | required
  | type
  | looseType
  | unevaluatedItems
  | unevaluatedProperties
  | uniqueItems
  deriving DecidableEq, Repr, Inhabited

namespace Keyword

/-- The keywords that all dialects know. -/
def common : List (String × Keyword) :=
  [("$ref", reference), ("additionalProperties", additionalProperties), ("enum", enum),
    ("maxItems", maxItems), ("maxLength", maxLength), ("minItems", minItems),
    ("minLength", minLength), ("pattern", pattern), ("patternProperties", patternProperties),
    ("uniqueItems", uniqueItems)]

/-- The keywords that all dialects but the oldest know. -/
def combining : List (String × Keyword) :=
  [("allOf", allOf), ("anyOf", anyOf), ("maxProperties", maxProperties),
    ("minProperties", minProperties), ("multipleOf", multipleOf), ("not", not), ("oneOf", oneOf),
    ("properties", properties), ("required", required), ("type", type)]

/-- The keywords that came with truth values as schemas. -/
def constant : List (String × Keyword) :=
  [("const", const), ("exclusiveMaximum", exclusiveMaximum), ("exclusiveMinimum", exclusiveMinimum),
    ("maximum", maximum), ("minimum", minimum), ("propertyNames", propertyNames)]

/-- The keywords that came when references stopped switching off others. -/
def dependent : List (String × Keyword) :=
  [("contains", containsCounted), ("dependentRequired", dependentRequired),
    ("dependentSchemas", dependentSchemas), ("if", conditional),
    ("unevaluatedItems", unevaluatedItems), ("unevaluatedProperties", unevaluatedProperties)]

/-- The keywords that a dialect knows. -/
def ofDialect : Dialect → List (String × Keyword)
  | .draft3 =>
    common ++ [("additionalItems", additionalItems), ("dependencies", looseDependencies),
      ("disallow", disallow), ("divisibleBy", multipleOf), ("extends", extending), ("items", items),
      ("maximum", switchedMaximum), ("minimum", switchedMinimum),
      ("properties", requiringProperties), ("type", looseType)]
  | .draft4 =>
    common ++ combining ++ [("additionalItems", additionalItems), ("dependencies", dependencies),
      ("items", items), ("maximum", switchedMaximum), ("minimum", switchedMinimum)]
  | .draft6 =>
    common ++ combining ++ constant ++ [("additionalItems", additionalItems),
      ("contains", contains), ("dependencies", dependencies), ("items", itemsByType)]
  | .draft7 =>
    common ++ combining ++ constant ++ [("additionalItems", additionalItems),
      ("contains", contains), ("dependencies", dependencies), ("if", conditional),
      ("items", itemsByType)]
  | .draft2019 =>
    common ++ combining ++ constant ++ dependent ++ [("additionalItems", additionalItems),
      ("items", itemsByType), ("$recursiveRef", recursiveReference)]
  | .draft2020 =>
    common ++ combining ++ constant ++ dependent ++ [("items", itemsBehind),
      ("prefixItems", prefixItems), ("$dynamicRef", reference)]

/-- What a keyword asks for in a dialect. -/
def ofName? (dialect : Dialect) (name : String) : Option Keyword := (ofDialect dialect).lookup name

/-- What a keyword of a schema finds wrong with a value. `argument` is what stands behind the
keyword. -/
def check (scope : KeywordScope) (keyword : Keyword) (argument value : Value) : Checked :=
  match keyword with
  | reference => Applicator.reference scope value argument
  | recursiveReference => scope.recursive value
  | additionalItems => Applicator.additionalItems scope value argument
  | additionalProperties => Applicator.additionalProperties scope value argument
  | allOf => Applicator.allOf scope value argument
  | anyOf => Applicator.anyOf scope value argument
  | const => Assertion.const value argument
  | contains => Applicator.contains scope value argument
  | containsCounted => Applicator.containsCounted scope value argument
  | dependencies => Applicator.dependencies scope value argument
  | looseDependencies => Applicator.looseDependencies scope value argument
  | dependentRequired => Applicator.dependentRequired scope value argument
  | dependentSchemas => Applicator.dependentSchemas scope value argument
  | disallow => Applicator.disallow scope value argument
  | enum => Assertion.enum scope value argument
  | exclusiveMaximum => Assertion.exclusiveMaximum scope value argument
  | exclusiveMinimum => Assertion.exclusiveMinimum scope value argument
  | extending => Applicator.extending scope value argument
  | conditional => Applicator.conditional scope value argument
  | items => Applicator.items scope false value argument
  | itemsByType => Applicator.items scope true value argument
  | itemsBehind => Applicator.itemsBehind scope value argument
  | maxItems => Assertion.most scope .array .content value argument
  | maxLength => Assertion.most scope .string .content value argument
  | maxProperties => Assertion.most scope .object .properties value argument
  | maximum => Assertion.maximum scope value argument
  | switchedMaximum =>
    Assertion.switchedLimit scope "exclusiveMaximum" Assertion.maximum Assertion.exclusiveMaximum
      value argument
  | minItems => Assertion.least scope .array .content value argument
  | minLength => Assertion.least scope .string .content value argument
  | minProperties => Assertion.least scope .object .properties value argument
  | minimum => Assertion.minimum scope value argument
  | switchedMinimum =>
    Assertion.switchedLimit scope "exclusiveMinimum" Assertion.minimum Assertion.exclusiveMinimum
      value argument
  | multipleOf => Assertion.multiple scope value argument
  | oneOf => Applicator.oneOf scope value argument
  | not => Applicator.not scope value argument
  | pattern => Assertion.pattern scope value argument
  | patternProperties => Applicator.patternProperties scope value argument
  | prefixItems => Applicator.prefixItems scope value argument
  | properties => Applicator.properties scope value argument
  | requiringProperties => Applicator.requiringProperties scope value argument
  | propertyNames => Applicator.propertyNames scope value argument
  | required => Assertion.required scope value argument
  | type => Assertion.type scope value argument
  | looseType => Applicator.looseType scope value argument
  | unevaluatedItems => Applicator.unevaluatedItems scope value
  | unevaluatedProperties => Applicator.unevaluatedProperties scope value argument
  | uniqueItems => Assertion.unique scope value argument

end Keyword

end ModelSchema
