import ModelSchema.Json.Token

/-!
Reading JSON text.

* `JsonParser.run`: the value of a list of tokens, kept with a stack of open arrays and objects.
* `Value.ofJson`: the value of a text, or the first problem in it.
-/

namespace ModelSchema

/-- An array or object that is still open; what is read of it stands last first. -/
inductive JsonFrame where
  | array (items : List Value)
  | object (entries : List (Value × Value)) (key : String)
  deriving Repr, Inhabited

/-- What can come next. A container that was just opened can be closed. -/
inductive JsonExpectation where
  | value (opened : Bool)
  | key (opened : Bool) (entries : List (Value × Value))
  | colon (entries : List (Value × Value)) (key : String)
  | behind (value : Value)
  deriving Repr, Inhabited

namespace JsonParser

/-- An object of entries that stand last first. Of equal keys the last value stays, at the place of
the first. -/
def closeObject (entries : List (Value × Value)) : Value :=
  .dict (Value.assocUpdate [] entries.reverse)

/-- How many arrays and objects can be open at most. -/
def depthLimit : Nat := 985

/-- Opens an array or an object, unless too many are open. -/
def opening (stack : List JsonFrame) (isArray : Bool) (position : Nat)
    (opened : List JsonFrame × JsonExpectation) :
    Except JsonError (List JsonFrame × JsonExpectation) :=
  if depthLimit ≤ stack.length then .error ⟨.tooDeep isArray, position⟩ else .ok opened

/-- What is wrong when something unexpected comes, or nothing. -/
def unexpected (stack : List JsonFrame) : JsonExpectation → JsonProblem
  | .value _ => .expectedValue
  | .key _ _ => .expectedKey
  | .colon _ _ => .expectedColon
  | .behind _ => if stack.isEmpty then .extraData else .expectedComma

/-- One token. -/
def step (stack : List JsonFrame) (expectation : JsonExpectation) (token : JsonToken)
    (position : Nat) : Except JsonError (List JsonFrame × JsonExpectation) :=
  match expectation, token, stack with
  | .value _, .text s, stack => .ok (stack, .behind (.str s))
  | .value _, .plain value, stack => .ok (stack, .behind value)
  | .value _, .broken error, _ => .error error
  | .value _, .mark '[', stack => opening stack true position (.array [] :: stack, .value true)
  | .value _, .mark '\x7b', stack => opening stack false position (stack, .key true [])
  | .value true, .mark ']', .array _ :: stack => .ok (stack, .behind (.list []))
  | .key _ entries, .text s, stack => .ok (stack, .colon entries s)
  | .key _ _, .broken error, _ => .error error
  | .key true entries, .mark '\x7d', stack => .ok (stack, .behind (closeObject entries))
  | .colon entries key, .mark ':', stack => .ok (.object entries key :: stack, .value false)
  | .behind value, .mark ',', .array items :: stack =>
    .ok (.array (value :: items) :: stack, .value false)
  | .behind value, .mark ']', .array items :: stack =>
    .ok (stack, .behind (.list (value :: items).reverse))
  | .behind value, .mark ',', .object entries key :: stack =>
    .ok (stack, .key false ((.str key, value) :: entries))
  | .behind value, .mark '\x7d', .object entries key :: stack =>
    .ok (stack, .behind (closeObject ((.str key, value) :: entries)))
  | expectation, _, stack => .error ⟨unexpected stack expectation, position⟩

/-- Reads all tokens; `size` is the length of the text. -/
def run (size : Nat) (stack : List JsonFrame) (expectation : JsonExpectation) :
    List (JsonToken × Nat) → Except JsonError Value
  | [] =>
    match expectation, stack with
    | .behind value, [] => .ok value
    | expectation, stack => .error ⟨unexpected stack expectation, size⟩
  | (token, position) :: rest =>
    match step stack expectation token position with
    | .ok (stack, expectation) => run size stack expectation rest
    | .error error => .error error

end JsonParser

/-- The value of a JSON text, or the first problem in it. -/
def Value.ofJson (text : String) : Except JsonError Value :=
  let chars := text.toList
  if chars.head? = some (Char.ofNat 0xfeff) then .error ⟨.byteOrderMark, 0⟩
  else JsonParser.run chars.length [] (.value false) (JsonToken.scan chars)

/-- A problem with the line and the column at which it is noticed. -/
def JsonError.placedText (error : JsonError) (text : String) : String :=
  let before := text.toList.take error.position
  let line := before.count '\n' + 1
  let column := (before.reverse.takeWhile (· != '\n')).length + 1
  s!"{error.problem.text}: line {line} column {column} (char {error.position})"

/-- The wording of a problem in a text that comes from some source. -/
def JsonError.message (error : JsonError) (source text : String) : String :=
  if error.problem.isSyntax then s!"Invalid JSON {source}: {error.placedText text}"
  else error.problem.text

end ModelSchema
