import ModelSchema.Layout
import ModelSchema.Pattern.Parser
import ModelSchema.Validation.Dialect
import ModelSchema.Validation.Equality
import ModelSchema.Validation.Violation

/-!
Assertions: the keywords of schemas that look at a value alone.

* `KeywordScope`: what a keyword can see and use.
* `Assertion.limit`, `Assertion.multiple`: numbers.
* `Assertion.least`, `Assertion.most`: sizes of texts, arrays and objects.
-/

namespace ModelSchema

/-- What a keyword can see and use: the schema it stands in, with its dialect, and checks by other
schemas. `below` checks a value by a schema inside of this one, `alone` by a schema whose references
are seen from this one, `referenced` by the schema that a reference leads to, and `recursive` by the
one that recursion leads to. `evaluatedItems` and `evaluatedNames` are the parts of a value that
some keyword of the schema looks at. -/
structure KeywordScope where
  table : ClassTable
  dialect : Dialect
  nanAlike : Bool
  schema : Value
  below : Value → Value → Checked
  alone : Value → Value → Checked
  referenced : String → Value → Checked
  recursive : Value → Checked
  evaluatedItems : Value → Except Fault (List Nat)
  evaluatedNames : Value → Except Fault (List String)

namespace KeywordScope

/-- Whether a value has a type. -/
def holds (scope : KeywordScope) (type : JsonType) (value : Value) : Bool :=
  type.holds scope.dialect value

/-- The argument of another keyword of the schema. -/
def argument? (scope : KeywordScope) (keyword : String) : Except Fault (Option Value) :=
  scope.schema.partNamed? scope.table keyword

/-- Whether a value is valid under a schema whose references are seen from this one. -/
def admits (scope : KeywordScope) (schema value : Value) : Except Fault Bool :=
  (scope.alone schema value).isClean

/-- The violations of a part of the value. A part that is forbidden altogether is reported for the
value around it. -/
def part (scope : KeywordScope) (step : PathPart) (schema value : Value) : Checked :=
  match schema with
  | .bool false => scope.below schema value
  | schema => (scope.below schema value).within step

end KeywordScope

/-- The entries of an object under validation with the text of the key. -/
def keyed (value : Value) : List (Value × String × Value) :=
  match value with
  | .dict entries =>
    entries.filterMap fun (key, value) => key.text?.map fun name => (key, name, value)
  | _ => []

/-- The items of an array under validation. -/
def itemsOf (value : Value) : List Value :=
  match value with
  | .collection _ items => items
  | _ => []

namespace Assertion

/-- Whether a pattern matches anywhere in a text. -/
def searched (table : ClassTable) (pattern : Value) (text : String) : Except Fault Bool :=
  match pattern with
  | .bytes _ => .error (typeFault "cannot use a bytes pattern on a string-like object")
  | pattern =>
    match pattern.text? with
    | some pattern => return (← Pattern.ofText pattern).found text
    | none => do
      let _ ← pattern.asKey table
      throw (typeFault "first argument must be string or compiled pattern")

/-! ### Numbers -/

/-- Compares a number with a limit. -/
def compared (table : ClassTable) (operator : String) (value limit : Value) :
    Except Fault (Option Ordering) :=
  match value.magnitude?, limit.magnitude? with
  | some a, some b => .ok (a.order? b)
  | _, _ =>
    .error (typeFault (s!"'{operator}' not supported between instances of "
      ++ s!"{quoted (value.operandName table)} and {quoted (limit.operandName table)}"))

/-- Checks a number against a limit; `broken` are the orders that break it. -/
def limit (scope : KeywordScope) (operator : String) (broken : List Ordering)
    (problem : Value → Value → Problem) (value limit : Value) : Checked :=
  if scope.holds .number value then
    .after (compared scope.table operator value limit) fun order =>
      .oneIf (order.any broken.contains) (problem value limit)
  else .clean

def minimum (scope : KeywordScope) (value bound : Value) : Checked :=
  limit scope "<" [.lt] .belowMinimum value bound

def exclusiveMinimum (scope : KeywordScope) (value bound : Value) : Checked :=
  limit scope "<=" [.lt, .eq] .notAbove value bound

def maximum (scope : KeywordScope) (value bound : Value) : Checked :=
  limit scope ">" [.gt] .aboveMaximum value bound

def exclusiveMaximum (scope : KeywordScope) (value bound : Value) : Checked :=
  limit scope ">=" [.gt, .eq] .notBelow value bound

/-- A limit that another keyword can make an exclusive one. -/
def switchedLimit (scope : KeywordScope) (switch : String)
    (inclusive exclusive : KeywordScope → Value → Value → Checked) (value bound : Value) :
    Checked :=
  if scope.holds .number value then
    .after (scope.argument? switch) fun argument =>
      if argument.any Value.isTruthy then exclusive scope value bound
      else inclusive scope value bound
  else .clean

/-- Whether one fraction is no whole multiple of another. -/
def isNoMultiple (value divisor : Int × Nat) : Bool :=
  (value.1 * divisor.2) % (divisor.1 * value.2) != 0

/-- Whether a number fails to be a multiple of a double. Doubles divide with rounding, and only
when the quotient is too large for a double the exact values count. -/
def failsDouble (value : Value) (divisor : Binary64) : Except Fault Bool :=
  let dividend : Except Fault Binary64 :=
    match value with
    | .float x => .ok x
    | value =>
      match value.magnitude? with
      | some (.ratio n _) =>
        match Binary64.ofInt? n with
        | some x => .ok x
        | none => .error .integerTooLarge
      | _ => .ok .nan
  do
    let dividend ← dividend
    match dividend.toRatio?, divisor.toRatio? with
    | some a, some b =>
      if b.1 = 0 then .error (.other "ZeroDivisionError" "float division by zero")
      else
        match Binary64.ofQuotient (a.1 * b.2 * b.1.sign) (a.2 * b.1.natAbs) with
        | .infinity _ => .ok (isNoMultiple a b)
        | quotient => .ok quotient.toInt?.isNone
    | some _, none =>
      if divisor.isNaN then .error (.other "ValueError" "cannot convert float NaN to integer")
      else .ok false
    | none, _ =>
      if dividend.isNaN || divisor.isNaN then
        .error (.other "ValueError" "cannot convert float NaN to integer")
      else .error (.other "OverflowError" "cannot convert Infinity to integer ratio")

/-- Whether a number fails to be a multiple of an integer. -/
def failsInteger (value : Value) (divisor : Int) : Except Fault Bool :=
  match value with
  | .float x =>
    if divisor = 0 then .error (.other "ZeroDivisionError" "float modulo")
    else
      match x.toRatio?, (Binary64.ofInt? divisor).bind Binary64.toRatio? with
      | _, none => .error .integerTooLarge
      | some a, some b => .ok (isNoMultiple a b)
      | none, some _ => .ok true
  | value =>
    match value.magnitude? with
    | some (.ratio n d) =>
      if divisor = 0 then .error (.other "ZeroDivisionError" "integer modulo by zero")
      else .ok (isNoMultiple (n, d) (divisor, 1))
    | _ => .ok true

/-- Whether a number fails to be a multiple. -/
def failsMultiple (table : ClassTable) (value divisor : Value) : Except Fault Bool :=
  match divisor with
  | .float x => failsDouble value x
  | .int n => failsInteger value n
  | .bool b => failsInteger value (if b then 1 else 0)
  | divisor =>
    .error (typeFault (s!"unsupported operand type(s) for %: "
      ++ s!"{quoted (value.operandName table)} and {quoted (divisor.operandName table)}"))

def multiple (scope : KeywordScope) (value divisor : Value) : Checked :=
  if scope.holds .number value then
    .after (failsMultiple scope.table value divisor) fun failed =>
      .oneIf failed (.notMultiple value divisor)
  else .clean

/-! ### Sizes -/

/-- The number of characters of a text, of items of an array or of entries of an object. -/
def sizeOf? (scope : KeywordScope) (type : JsonType) (value : Value) : Option Nat :=
  if scope.holds type value then
    match value with
    | .collection _ items => some items.length
    | .dict entries => some entries.length
    | value => value.text?.map String.length
  else none

/-- Whether a limit of a size is a given number. -/
def isNumber (limit : Value) (n : Int) : Bool :=
  match limit.magnitude? with
  | some x => x.same (.ratio n 1)
  | none => false

def least (scope : KeywordScope) (type : JsonType) (sized : Sized) (value limit : Value) :
    Checked :=
  match sizeOf? scope type value with
  | none => .clean
  | some size => .after (compared scope.table "<" (.int size) limit) fun order =>
    .oneIf (order = some .lt) (.tooSmall sized value (isNumber limit 1))

def most (scope : KeywordScope) (type : JsonType) (sized : Sized) (value limit : Value) : Checked :=
  match sizeOf? scope type value with
  | none => .clean
  | some size => .after (compared scope.table ">" (.int size) limit) fun order =>
    .oneIf (order = some .gt) (.tooLarge sized value (isNumber limit 0))

/-! ### Types -/

/-- The types of a schema: one text, or several values. -/
def typeList (table : ClassTable) : Value → Except Fault (List Value)
  | .str s => .ok [.str s]
  | types => types.parts table

/-- Whether a value has a type that a schema names. -/
def hasNamedType (scope : KeywordScope) (value type : Value) : Except Fault Bool := do
  let type ← type.asKey scope.table
  match type.text?.bind (JsonType.ofName? scope.dialect) with
  | some t => return scope.holds t value
  | none =>
    let laidOut (value : Value) : String := value.laidOut scope.table 72
    throw (.unknownType (type.displayed scope.table) (laidOut scope.schema) (laidOut value))

def type (scope : KeywordScope) (value types : Value) : Checked :=
  .after (typeList scope.table types) fun listed =>
    .after (listed.anyM (hasNamedType scope value)) fun fits =>
      .oneIf (!fits) (.wrongType value listed)

/-! ### Listed values -/

/-- Equality with a value in a schema. -/
def listedLikeness : Likeness := ⟨true, false⟩

def const (value expected : Value) : Checked :=
  .oneIf (!value.alike listedLikeness expected) (.different expected)

def enum (scope : KeywordScope) (value values : Value) : Checked :=
  .after (values.parts scope.table) fun listed =>
    .oneIf (!(listed.any fun each => each.alike listedLikeness value)) (.unlisted value values)

def unique (scope : KeywordScope) (value unique : Value) : Checked :=
  if unique.isTruthy && scope.holds .array value then
    .oneIf (!Value.areDistinct scope.nanAlike (itemsOf value)) (.repeatedItems value)
  else .clean

/-! ### Texts and names -/

def pattern (scope : KeywordScope) (value pattern : Value) : Checked :=
  match value.text? with
  | none => .clean
  | some text => .after (searched scope.table pattern text) fun found =>
    .oneIf (!found) (.unmatched value pattern)

/-- Reports each of some names that are no keys of an object. -/
def namesWithin (scope : KeywordScope) (problem : Value → Problem) (value names : Value) :
    Checked :=
  .after (names.parts scope.table) (.each fun name =>
    .after (value.hasPart scope.table name) fun isThere => .oneIf (!isThere) (problem name))

def required (scope : KeywordScope) (value names : Value) : Checked :=
  if scope.holds .object value then namesWithin scope .missing value names else .clean

end Assertion

end ModelSchema
