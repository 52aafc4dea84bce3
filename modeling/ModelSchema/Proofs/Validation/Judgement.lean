import ModelSchema.Proofs.Validation.Parts
import ModelSchema.Proofs.Validation.Settled
import ModelSchema.Schema.Tree
import ModelSchema.Validation.Basic

/-!
The check by one schema, as the conjunction of the checks by its keywords.

* `Validator.Keeps`: a schema is read in the dialect and at the place from which it is seen.
* `Validator.judged`: the check by such a schema at some depth. All ways to a schema come to it
  (`below_eq`, `alone_eq`, `found_eq`).
* `settles_judged`: it settles when the checks by all keywords do.
* `settles_reference`: a reference settles when what it leads to does.
-/

namespace ModelSchema.Validator

variable {validator : Validator} {node target : Node} {schema value : Value} {depth : Nat}

/-! ### Schemas that are read where they are seen -/

/-- Whether a schema is read in the dialect and at the place from which it is seen. -/
structure Keeps (validator : Validator) (schema : Value) : Prop where
  dialect : validator.forSchema schema = .ok validator
  viewpoint : validator.viewpoint.inside validator.table validator.dialect schema
    = .ok validator.viewpoint

/-- The check by a schema at some depth, seen from its own place. -/
def judged (validator : Validator) (schema value : Value) (depth : Nat) : Checked :=
  .after (validator.keywords schema) fun entries =>
    checkWith depth validator entries schema value

theorem below_eq (keeps : validator.Keeps (.dict node)) :
    validator.below (checkWith depth) (.dict node) value
      = validator.judged (.dict node) value depth := by
  unfold below checkAt
  rw [keeps.viewpoint]
  dsimp only [Checked.after]
  rw [show Validator.forSchema { validator with viewpoint := validator.viewpoint } (.dict node)
    = .ok validator from keeps.dialect]
  rfl

theorem alone_eq (keeps : validator.Keeps (.dict node)) :
    validator.alone (checkWith depth) (.dict node) value
      = validator.judged (.dict node) value depth := by
  unfold alone
  dsimp only
  rw [keeps.dialect]
  rfl

theorem found_eq (keeps : validator.Keeps (.dict node)) :
    validator.found (checkWith depth) value (.ok (.dict node, validator.viewpoint))
      = validator.judged (.dict node) value depth := by
  unfold found checkAt
  dsimp only [Checked.after]
  rw [show Validator.forSchema { validator with viewpoint := validator.viewpoint } (.dict node)
    = .ok validator from keeps.dialect]
  rfl

theorem id?_of_none {dialect : Dialect} {table : ClassTable} (isDraft7 : dialect = .draft7)
    (ends : (Value.dict node).isEndless = false) (noId : node.get? "$id" = none) :
    dialect.id? table (.dict node) = .ok none := by
  subst isDraft7
  unfold Dialect.id?
  rw [Value.hasPart_dict, Value.partNamed?_dict ends]
  cases (node.get? "$ref").isSome with
  | true => rfl
  | false =>
    rw [show node.get? Dialect.draft7.idKeyword = none from noId]
    rfl

/-- A schema without a dialect and a name of its own is read where it is seen. -/
theorem keeps_of_none (isDraft7 : validator.dialect = .draft7)
    (ends : (Value.dict node).isEndless = false) (noDialect : node.get? "$schema" = none)
    (noId : node.get? "$id" = none) : validator.Keeps (.dict node) where
  dialect := by
    unfold forSchema Dialect.ofSchema
    rw [Value.hasPart_dict, noDialect]
    rfl
  viewpoint := by
    unfold Viewpoint.inside
    rw [id?_of_none isDraft7 ends noId]
    rfl

/-! ### Keywords -/

/-- What a keyword of a schema can see and use at some depth. -/
def scope (validator : Validator) (schema : Value) (depth : Nat) : KeywordScope :=
  { table := validator.table
    dialect := validator.dialect
    nanAlike := validator.nanAlike
    schema
    below := validator.below (checkWith depth)
    alone := validator.alone (checkWith depth)
    referenced := fun reference value =>
      validator.found (checkWith depth) value
        (validator.library.lookup validator.viewpoint reference)
    recursive := fun value =>
      validator.found (checkWith depth) value
        (validator.library.lookupRecursive validator.viewpoint)
    evaluatedItems := evaluatedItems depth validator schema
    evaluatedNames := evaluatedNames depth validator schema }

/-- The check by a keyword of a schema, if it is one. -/
def keywordCheck (validator : Validator) (schema value : Value) (depth : Nat) :
    Value × Value → Checked
  | (key, argument) =>
    match key.text?.bind (Keyword.ofName? validator.dialect) with
    | some keyword => keyword.check (validator.scope schema depth) argument value
    | none => .clean

theorem keywordCheck_of_some (isDraft7 : validator.dialect = .draft7) {name : String}
    {keyword : Keyword} {argument : Value} (isKeyword : Keyword.ofName? .draft7 name = some keyword) :
    validator.keywordCheck schema value depth (.str name, argument)
      = keyword.check (validator.scope schema depth) argument value := by
  unfold keywordCheck
  dsimp only
  rw [Value.text?_str, Option.bind_some, isDraft7, isKeyword]

theorem keywordCheck_of_none (isDraft7 : validator.dialect = .draft7) {name : String}
    {argument : Value} (noKeyword : Keyword.ofName? .draft7 name = none) :
    validator.keywordCheck schema value depth (.str name, argument) = .clean := by
  unfold keywordCheck
  dsimp only
  rw [Value.text?_str, Option.bind_some, isDraft7, noKeyword]

theorem checkWith_succ {entries : List (Value × Value)} :
    checkWith (depth + 1) validator entries schema value
      = Checked.each (validator.keywordCheck schema value depth) entries := by
  rw [checkWith]
  rfl

theorem settles_checkWith {entries : List (Value × Value)} {valid : Value × Value → Bool}
    (each : ∀ entry ∈ entries,
      Settles (fun depth => validator.keywordCheck schema value depth entry) (valid entry)) :
    Settles (fun depth => checkWith depth validator entries schema value) (entries.all valid) := by
  refine (Settles.each each).succ ?_ fun depth => checkWith_succ
  rw [checkWith]

/-- The keywords of a schema without a reference all count. -/
theorem keywords_of_none (older : validator.dialect.isModern = false)
    (ends : (Value.dict node).isEndless = false) (noReference : node.get? "$ref" = none) :
    validator.keywords (.dict node) = .ok node := by
  unfold keywords
  rw [older, if_neg Bool.false_ne_true, Value.partNamed?_dict ends, noReference]
  change (Value.dict node).partEntries validator.table = .ok node
  exact Value.partEntries_dict ends

/-- Beside a reference no other keyword counts. -/
theorem keywords_of_reference (older : validator.dialect.isModern = false) {reference : String}
    (ends : (Value.dict node).isEndless = false)
    (isReference : node.get? "$ref" = some (.str reference)) :
    validator.keywords (.dict node) = .ok [(.str "$ref", .str reference)] := by
  unfold keywords
  rw [older, if_neg Bool.false_ne_true, Value.partNamed?_dict ends, isReference]
  rfl

/-- A schema settles when the checks by all of its keywords do. -/
theorem settles_judged (older : validator.dialect.isModern = false)
    (ends : (Value.dict node).isEndless = false) (noReference : node.get? "$ref" = none)
    {valid : Value × Value → Bool}
    (each : ∀ entry ∈ node,
      Settles (fun depth => validator.keywordCheck (.dict node) value depth entry) (valid entry)) :
    Settles (validator.judged (.dict node) value) (node.all valid) := by
  unfold judged
  rw [keywords_of_none older ends noReference]
  exact settles_checkWith each

/-- A reference settles when what it leads to does. -/
theorem settles_reference (isDraft7 : validator.dialect = .draft7) {reference : String}
    {valid : Bool} (ends : (Value.dict node).isEndless = false)
    (isReference : node.get? "$ref" = some (.str reference))
    (leads : validator.library.lookup validator.viewpoint reference
      = .ok (.dict target, validator.viewpoint))
    (keeps : validator.Keeps (.dict target))
    (settles : Settles (validator.judged (.dict target) value) valid) :
    Settles (validator.judged (.dict node) value) valid := by
  have older : validator.dialect.isModern = false := by rw [isDraft7]; rfl
  have only : Settles (fun depth => checkWith depth validator [(.str "$ref", .str reference)]
      (.dict node) value) ([(Value.str "$ref", Value.str reference)].all fun _ => valid) := by
    refine settles_checkWith fun entry member => ?_
    cases List.mem_singleton.mp member
    have check : ∀ depth, validator.keywordCheck (.dict node) value depth
        (.str "$ref", .str reference) = validator.judged (.dict target) value depth := by
      intro depth
      rw [keywordCheck_of_some isDraft7 rfl, ← found_eq keeps, ← leads]
      rfl
    simp only [check]
    exact settles
  unfold judged
  rw [keywords_of_reference older ends isReference]
  rw [List.all_cons, List.all_nil, Bool.and_true] at only
  exact only

end ModelSchema.Validator
