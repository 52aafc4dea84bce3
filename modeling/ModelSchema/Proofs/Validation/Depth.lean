import ModelSchema.Proofs.Validation.Keywords

/-!
Checks that are given more depth.

A check is given up where it would go too deep. One that is not given up comes to the same at every
greater depth, whatever the schema and its dialect: all ways in which keywords ask other schemas keep what
they were told. One that is given up after it has found something finds something at every greater depth
as well, which is all that is asked of it by then.

* `Deepens`, `Checked.Deepens`: a result, or a check, and what it becomes with more depth.
* `Keyword.check_deepens`: a keyword passes more depth on.
* `Validator.checkWith_deepens`: so do the checks and searches that call each other.
* `Validator.judged_of_le`: what is found valid at some depth is found valid at every greater one.
-/

namespace ModelSchema

/-! ### Results -/

/-- Whether a result is what another one is with less depth: the same, or given up. -/
def Deepens {α : Type} (result deeper : Except Fault α) : Prop :=
  result = deeper ∨ result = .error .endless

namespace Deepens

variable {α β : Type} {result deeper : Except Fault α}

theorem refl (result : Except Fault α) : Deepens result result := .inl rfl

theorem bind {next nextDeeper : α → Except Fault β} (first : Deepens result deeper)
    (second : ∀ a, Deepens (next a) (nextDeeper a)) :
    Deepens (result >>= next) (deeper >>= nextDeeper) := by
  rcases first with rfl | rfl
  · cases result with
    | error fault => exact refl _
    | ok a => exact second a
  · exact .inr rfl

/-- What follows a result that does not depend on the depth. -/
theorem bind_right {next nextDeeper : α → Except Fault β} (second : ∀ a, Deepens (next a) (nextDeeper a)) :
    Deepens (result >>= next) (result >>= nextDeeper) :=
  bind (refl _) second

theorem bind_left {next : α → Except Fault β} (first : Deepens result deeper) :
    Deepens (result >>= next) (deeper >>= next) :=
  bind first fun _ => refl _

section

variable {list : List α}

theorem mapM {f g : α → Except Fault β} (each : ∀ a, Deepens (f a) (g a)) :
    Deepens (list.mapM f) (list.mapM g) := by
  induction list with
  | nil => exact refl _
  | cons a rest ih =>
    rw [List.mapM_cons, List.mapM_cons]
    exact bind (each a) fun _ => bind_left ih

theorem filterAuxM {f g : α → Except Fault Bool} (each : ∀ a, Deepens (f a) (g a)) {kept : List α} :
    Deepens (list.filterAuxM f kept) (list.filterAuxM g kept) := by
  induction list generalizing kept with
  | nil => exact refl _
  | cons a rest ih => exact bind (each a) fun _ => ih

theorem filterM {f g : α → Except Fault Bool} (each : ∀ a, Deepens (f a) (g a)) :
    Deepens (list.filterM f) (list.filterM g) :=
  bind_left (filterAuxM each)

theorem anyM {f g : α → Except Fault Bool} (each : ∀ a, Deepens (f a) (g a)) :
    Deepens (list.anyM f) (list.anyM g) := by
  induction list with
  | nil => exact refl _
  | cons a rest ih =>
    rw [List.anyM_cons, List.anyM_cons]
    refine bind (each a) fun found => ?_
    cases found with
    | true => exact refl _
    | false => exact ih

end

end Deepens

/-! ### Checks -/

namespace Checked

/-- Whether a check is what another one is with less depth: the same, or given up. Where it had found
something before, so has the other one. -/
def Deepens (check deeper : Checked) : Prop :=
  check = deeper ∨ (check.fault = some .endless ∧ (deeper.found = [] → check.found = []))

namespace Deepens

variable {check deeper deepest : Checked}

theorem refl (check : Checked) : check.Deepens check := .inl rfl

theorem of_eq (same : deeper = check) : check.Deepens deeper := .inl same.symm

theorem trans (first : check.Deepens deeper) (second : deeper.Deepens deepest) : check.Deepens deepest := by
  rcases first with rfl | ⟨endless, kept⟩
  · exact second
  · rcases second with rfl | ⟨-, keptToo⟩
    · exact .inr ⟨endless, kept⟩
    · exact .inr ⟨endless, fun nothing => kept (keptToo nothing)⟩

theorem andThen {next nextDeeper : Unit → Checked} (first : check.Deepens deeper)
    (second : (next ()).Deepens (nextDeeper ())) :
    (check.andThen next).Deepens (deeper.andThen nextDeeper) := by
  rcases first with rfl | ⟨endless, kept⟩
  · unfold Checked.andThen
    cases check.fault with
    | some fault => exact refl _
    | none =>
      rcases second with same | ⟨endless, kept⟩
      · exact .inl (by rw [same])
      · refine .inr ⟨endless, fun nothing => ?_⟩
        obtain ⟨before, behind⟩ := List.append_eq_nil_iff.mp nothing
        exact List.append_eq_nil_iff.mpr ⟨before, kept behind⟩
  · have given : check.andThen next = check := by
      unfold Checked.andThen
      rw [endless]
    rw [given]
    refine .inr ⟨endless, fun nothing => kept ?_⟩
    unfold Checked.andThen at nothing
    cases faultDeeper : deeper.fault with
    | some fault => rwa [faultDeeper] at nothing
    | none =>
      rw [faultDeeper] at nothing
      exact (List.append_eq_nil_iff.mp nothing).1

theorem each {α : Type} {f g : α → Checked} {list : List α} (every : ∀ a ∈ list, (f a).Deepens (g a)) :
    (Checked.each f list).Deepens (Checked.each g list) := by
  induction list with
  | nil => exact refl _
  | cons a rest ih =>
    exact andThen (every a List.mem_cons_self) (ih fun b member => every b (List.mem_cons_of_mem _ member))

theorem after {α : Type} {result resultDeeper : Except Fault α} {next nextDeeper : α → Checked}
    (first : ModelSchema.Deepens result resultDeeper) (second : ∀ a, (next a).Deepens (nextDeeper a)) :
    (Checked.after result next).Deepens (Checked.after resultDeeper nextDeeper) := by
  rcases first with rfl | rfl
  · cases result with
    | error fault => exact refl _
    | ok a => exact second a
  · exact .inr ⟨rfl, fun _ => rfl⟩

/-- What follows a result that does not depend on the depth. -/
theorem after_right {α : Type} {result : Except Fault α} {next nextDeeper : α → Checked}
    (second : ∀ a, (next a).Deepens (nextDeeper a)) :
    (Checked.after result next).Deepens (Checked.after result nextDeeper) :=
  after (.refl _) second

theorem after_left {α : Type} {result resultDeeper : Except Fault α} {next : α → Checked}
    (first : ModelSchema.Deepens result resultDeeper) :
    (Checked.after result next).Deepens (Checked.after resultDeeper next) :=
  after first fun _ => refl _

theorem within {part : PathPart} (more : check.Deepens deeper) :
    (check.within part).Deepens (deeper.within part) := by
  rcases more with rfl | ⟨endless, kept⟩
  · exact refl _
  · refine .inr ⟨endless, fun nothing => ?_⟩
    exact List.map_eq_nil_iff.mpr (kept (List.map_eq_nil_iff.mp nothing))

theorem all (more : check.Deepens deeper) : ModelSchema.Deepens check.all deeper.all := by
  rcases more with rfl | ⟨endless, -⟩
  · exact .refl _
  · refine .inr ?_
    unfold Checked.all
    rw [endless]

/-- Whoever asks only whether something is wrong is told so before the check is given up. -/
theorem isClean (more : check.Deepens deeper) : ModelSchema.Deepens check.isClean deeper.isClean := by
  have given := more.all
  rcases more with rfl | ⟨endless, kept⟩
  · exact .refl _
  · unfold Checked.isClean
    cases here : check.found with
    | nil =>
      refine .inr ?_
      unfold Checked.all
      rw [endless]
      rfl
    | cons violation rest =>
      cases there : deeper.found with
      | nil => rw [kept there] at here; cases here
      | cons violationDeeper restDeeper => exact .refl _

theorem clean (more : check.Deepens deeper) (nothing : check = .clean) : deeper = .clean := by
  rcases more with rfl | ⟨endless, -⟩
  · exact nothing
  · rw [nothing] at endless
    cases endless

end Deepens

end Checked

/-! ### Keywords -/

/-- Whether a keyword sees the same from two places, but for the depth that is left for other schemas. -/
structure KeywordScope.Deepens (scope deeper : KeywordScope) : Prop where
  table : deeper.table = scope.table
  dialect : deeper.dialect = scope.dialect
  nanAlike : deeper.nanAlike = scope.nanAlike
  schema : deeper.schema = scope.schema
  below : ∀ schema value, (scope.below schema value).Deepens (deeper.below schema value)
  alone : ∀ schema value, (scope.alone schema value).Deepens (deeper.alone schema value)
  referenced : ∀ reference value,
    (scope.referenced reference value).Deepens (deeper.referenced reference value)
  recursive : ∀ value, (scope.recursive value).Deepens (deeper.recursive value)
  evaluatedItems : ∀ value, ModelSchema.Deepens (scope.evaluatedItems value) (deeper.evaluatedItems value)
  evaluatedNames : ∀ value, ModelSchema.Deepens (scope.evaluatedNames value) (deeper.evaluatedNames value)

namespace KeywordScope.Deepens

variable {scope deeper : KeywordScope} (more : scope.Deepens deeper) {value argument : Value}
include more

theorem holds_eq : deeper.holds = scope.holds := by
  unfold KeywordScope.holds
  rw [more.dialect]

theorem argument?_eq : deeper.argument? = scope.argument? := by
  unfold KeywordScope.argument?
  rw [more.schema, more.table]

theorem admits (schema value : Value) :
    ModelSchema.Deepens (scope.admits schema value) (deeper.admits schema value) :=
  (more.alone schema value).isClean

theorem part (step : PathPart) (schema value : Value) :
    (scope.part step schema value).Deepens (deeper.part step schema value) := by
  unfold KeywordScope.part
  split
  · exact more.below _ _
  · exact (more.below _ _).within

end KeywordScope.Deepens

namespace Applicator

variable {scope deeper : KeywordScope} (more : scope.Deepens deeper) {value argument : Value}
include more

theorem properties_deepens :
    (properties scope value argument).Deepens (properties deeper value argument) := by
  unfold properties
  cases value with
  | dict entries =>
    dsimp only
    rw [more.table]
    refine .after_right fun schemas => .each fun entry _ => ?_
    split
    · exact more.part _ _ _
    · exact .refl _
  | _ => exact .refl _

theorem requiringProperties_deepens :
    (requiringProperties scope value argument).Deepens (requiringProperties deeper value argument) := by
  unfold requiringProperties
  cases value with
  | dict entries =>
    dsimp only
    rw [more.table]
    refine .after_right fun schemas => .each fun entry _ => ?_
    split
    · exact more.part _ _ _
    · exact .refl _
  | _ => exact .refl _

theorem patternProperties_deepens :
    (patternProperties scope value argument).Deepens (patternProperties deeper value argument) := by
  unfold patternProperties
  rw [more.holds_eq, more.table]
  split
  · refine .after_right fun patterns => .each fun _ _ => .each fun _ _ => .after_right fun found => ?_
    split
    · exact more.part _ _ _
    · exact .refl _
  · exact .refl _

theorem additionalProperties_deepens :
    (additionalProperties scope value argument).Deepens (additionalProperties deeper value argument) := by
  have sameExtras : extras deeper value = extras scope value := by
    unfold extras
    rw [more.argument?_eq, more.table]
  have sameReport : ∀ names, reportExtras deeper names = reportExtras scope names := by
    intro names
    unfold reportExtras
    rw [more.argument?_eq, more.table]
  unfold additionalProperties
  rw [more.holds_eq, sameExtras]
  split
  · refine .after_right fun extras => ?_
    split
    · exact .each fun _ _ => more.part _ _ _
    · split
      · exact .refl _
      · exact .of_eq (sameReport _)
  · exact .refl _

theorem propertyNames_deepens :
    (propertyNames scope value argument).Deepens (propertyNames deeper value argument) := by
  unfold propertyNames
  rw [more.holds_eq]
  split
  · exact .each fun _ _ => more.below _ _
  · exact .refl _

theorem neededNames_eq {property names : Value} :
    neededNames deeper value property names = neededNames scope value property names := by
  unfold neededNames Assertion.namesWithin
  rw [more.table]

theorem forPresent_deepens {check checkDeeper : Value → Value → Checked}
    (each : ∀ property dependency, (check property dependency).Deepens (checkDeeper property dependency)) :
    (forPresent scope check value argument).Deepens (forPresent deeper checkDeeper value argument) := by
  unfold forPresent
  rw [more.holds_eq, more.table]
  split
  · refine .after_right fun entries => .each fun _ _ => .after_right fun isThere => ?_
    split
    · exact each _ _
    · exact .refl _
  · exact .refl _

theorem dependencies_deepens :
    (dependencies scope value argument).Deepens (dependencies deeper value argument) := by
  unfold dependencies
  refine forPresent_deepens more fun property dependency => ?_
  rw [more.holds_eq]
  split
  · exact .of_eq (neededNames_eq more)
  · exact more.below _ _

theorem looseDependencies_deepens :
    (looseDependencies scope value argument).Deepens (looseDependencies deeper value argument) := by
  unfold looseDependencies
  refine forPresent_deepens more fun property dependency => ?_
  rw [more.holds_eq]
  split
  · exact more.below _ _
  · split
    · exact .of_eq (neededNames_eq more)
    · exact .of_eq (neededNames_eq more)

theorem dependentSchemas_deepens :
    (dependentSchemas scope value argument).Deepens (dependentSchemas deeper value argument) :=
  forPresent_deepens more fun _ _ => more.below _ _

theorem dependentRequired_deepens :
    (dependentRequired scope value argument).Deepens (dependentRequired deeper value argument) :=
  forPresent_deepens more fun _ _ => .of_eq (neededNames_eq more)

theorem itemsFrom_deepens {start : Nat} :
    (itemsFrom scope start value argument).Deepens (itemsFrom deeper start value argument) :=
  .each fun _ _ => more.part _ _ _

theorem itemsByPlace_deepens :
    (itemsByPlace scope value argument).Deepens (itemsByPlace deeper value argument) := by
  unfold itemsByPlace
  rw [more.table]
  exact .after_right fun _ => .each fun _ _ => more.part _ _ _

theorem items_deepens {listType : Bool} :
    (items scope listType value argument).Deepens (items deeper listType value argument) := by
  unfold items
  rw [more.holds_eq]
  dsimp only
  generalize (if listType = true then !scope.holds .array argument else scope.holds .object argument) = isOne
  split
  · split
    · exact itemsFrom_deepens more
    · exact itemsByPlace_deepens more
  · exact .refl _

theorem prefixItems_deepens :
    (prefixItems scope value argument).Deepens (prefixItems deeper value argument) := by
  unfold prefixItems
  rw [more.holds_eq]
  split
  · exact itemsByPlace_deepens more
  · exact .refl _

theorem itemsBehind_deepens :
    (itemsBehind scope value argument).Deepens (itemsBehind deeper value argument) := by
  unfold itemsBehind
  rw [more.holds_eq, more.argument?_eq, more.table]
  split
  · refine .after_right fun count => ?_
    dsimp only
    split
    · exact .refl _
    · exact itemsFrom_deepens more
  · exact .refl _

theorem additionalItems_deepens :
    (additionalItems scope value argument).Deepens (additionalItems deeper value argument) := by
  unfold additionalItems
  rw [more.holds_eq, more.argument?_eq, more.table]
  split
  · refine .after_right fun schemas => ?_
    split
    · exact .refl _
    · refine .after_right fun count => ?_
      split
      · exact itemsFrom_deepens more
      · exact .refl _
  · exact .refl _

theorem contains_deepens :
    (contains scope value argument).Deepens (contains deeper value argument) := by
  unfold contains
  rw [more.holds_eq]
  split
  · exact .after_left (.anyM fun _ => more.admits _ _)
  · exact .refl _

theorem matchCount_deepens {most : Value} {count : Nat} {items : List Value} :
    Deepens (matchCount scope argument most count items) (matchCount deeper argument most count items) := by
  induction items generalizing count with
  | nil => exact .refl _
  | cons item rest ih =>
    unfold matchCount
    rw [more.table]
    refine .bind (more.admits _ _) fun fits => ?_
    split
    · refine .bind_right fun order => ?_
      split
      · exact .refl _
      · exact ih
    · exact ih

theorem containsCounted_deepens :
    (containsCounted scope value argument).Deepens (containsCounted deeper value argument) := by
  unfold containsCounted
  rw [more.holds_eq, more.argument?_eq, more.table, more.dialect]
  split
  · exact .after_right fun _ => .after_right fun _ => .after_right fun _ =>
      .after_left (matchCount_deepens more)
  · exact .refl _

theorem allOf_deepens : (allOf scope value argument).Deepens (allOf deeper value argument) := by
  unfold allOf
  rw [more.table]
  exact .after_right fun _ => .each fun _ _ => more.below _ _

theorem firstFitting_deepens {schemas : List Value} :
    Deepens (firstFitting scope value schemas) (firstFitting deeper value schemas) := by
  induction schemas with
  | nil => exact .refl _
  | cons schema rest ih =>
    unfold firstFitting
    refine .bind (more.below _ _).all fun found => ?_
    split
    · exact .refl _
    · exact ih

theorem anyOf_deepens : (anyOf scope value argument).Deepens (anyOf deeper value argument) := by
  unfold anyOf
  rw [more.table]
  exact .after_left (.bind_right fun _ => firstFitting_deepens more)

theorem oneOf_deepens : (oneOf scope value argument).Deepens (oneOf deeper value argument) := by
  unfold oneOf
  rw [more.table]
  refine .after (.bind_right fun _ => firstFitting_deepens more) fun fitting => ?_
  split
  · exact .refl _
  · exact .after_left (.filterM fun _ => more.admits _ _)

theorem not_deepens : (not scope value argument).Deepens (not deeper value argument) :=
  .after_left (more.admits _ _)

theorem conditional_deepens :
    (conditional scope value argument).Deepens (conditional deeper value argument) := by
  unfold conditional
  rw [more.argument?_eq]
  refine .after (more.admits _ _) fun _ => .after_right fun branch => ?_
  split
  · exact more.below _ _
  · exact .refl _

theorem disallow_deepens : (disallow scope value argument).Deepens (disallow deeper value argument) := by
  unfold disallow
  rw [more.table]
  exact .after_right fun _ => .each fun _ _ => .after_left (more.admits _ _)

theorem extending_deepens :
    (extending scope value argument).Deepens (extending deeper value argument) := by
  unfold extending
  rw [more.holds_eq]
  split
  · exact more.below _ _
  · exact allOf_deepens more

theorem hasNamedType_eq {type : Value} :
    Assertion.hasNamedType deeper value type = Assertion.hasNamedType scope value type := by
  unfold Assertion.hasNamedType
  rw [more.holds_eq, more.table, more.dialect, more.schema]

theorem hasLooseType_deepens {types : List Value} :
    Deepens (hasLooseType scope value types) (hasLooseType deeper value types) := by
  induction types with
  | nil => exact .refl _
  | cons type rest ih =>
    unfold hasLooseType
    rw [more.holds_eq, hasNamedType_eq more]
    have behind : ∀ fits : Bool, Deepens (if fits = true then pure true else hasLooseType scope value rest)
        (if fits = true then pure true else hasLooseType deeper value rest) := by
      intro fits
      split
      · exact .refl _
      · exact ih
    split
    · exact .refl _
    · dsimp only
      split
      · exact .bind (more.below _ _).all fun _ => .bind_right behind
      · exact .bind_right behind

theorem looseType_deepens : (looseType scope value argument).Deepens (looseType deeper value argument) := by
  unfold looseType
  rw [more.table]
  exact .after_right fun _ => .after_left (hasLooseType_deepens more)

theorem unevaluatedItems_deepens :
    (unevaluatedItems scope value).Deepens (unevaluatedItems deeper value) := by
  unfold unevaluatedItems
  rw [more.holds_eq]
  split
  · exact .after_left (more.evaluatedItems _)
  · exact .refl _

theorem unevaluatedProperties_deepens :
    (unevaluatedProperties scope value argument).Deepens (unevaluatedProperties deeper value argument) := by
  unfold unevaluatedProperties
  rw [more.holds_eq]
  split
  · refine .after_left (.bind (more.evaluatedNames _) fun evaluated => .bind_left (.mapM ?_))
    rintro ⟨key, name, part⟩
    dsimp only
    split
    · exact .refl _
    · exact .bind_left (more.below _ _).all
  · exact .refl _

theorem reference_deepens :
    (reference scope value argument).Deepens (reference deeper value argument) := by
  unfold reference
  split
  · exact more.referenced _ _
  · exact .refl _
  · rw [more.table]
    exact .refl _

end Applicator

namespace Keyword

variable {scope deeper : KeywordScope} (more : scope.Deepens deeper) {value argument : Value}
include more

/-- The keywords that ask no other schema. -/
def assertions : List Keyword :=
  [const, enum, exclusiveMaximum, exclusiveMinimum, maxItems, maxLength, maxProperties, maximum,
    switchedMaximum, minItems, minLength, minProperties, minimum, switchedMinimum, multipleOf, pattern,
    required, type, uniqueItems]

theorem check_assertion {keyword : Keyword} (isAssertion : keyword ∈ assertions) :
    keyword.check deeper argument value = keyword.check scope argument value := by
  obtain ⟨table, dialect, nanAlike, schema, below, alone, referenced, recursive, items, names⟩ := scope
  obtain ⟨table', dialect', nanAlike', schema', below', alone', referenced', recursive', items', names'⟩ :=
    deeper
  obtain ⟨rfl, rfl, rfl, rfl, -⟩ := more
  simp only [assertions, List.mem_cons, List.not_mem_nil, or_false] at isAssertion
  rcases isAssertion with rfl | rfl | rfl | rfl | rfl | rfl | rfl | rfl | rfl | rfl | rfl | rfl | rfl | rfl
    | rfl | rfl | rfl | rfl | rfl <;> rfl

/-- What a keyword finds with more depth for the schemas that it asks. -/
theorem check_deepens (keyword : Keyword) :
    (keyword.check scope argument value).Deepens (keyword.check deeper argument value) := by
  by_cases isAssertion : keyword ∈ assertions
  · exact .of_eq (check_assertion more isAssertion)
  · cases keyword with
    | reference => exact Applicator.reference_deepens more
    | recursiveReference => exact more.recursive value
    | additionalItems => exact Applicator.additionalItems_deepens more
    | additionalProperties => exact Applicator.additionalProperties_deepens more
    | allOf => exact Applicator.allOf_deepens more
    | anyOf => exact Applicator.anyOf_deepens more
    | contains => exact Applicator.contains_deepens more
    | containsCounted => exact Applicator.containsCounted_deepens more
    | dependencies => exact Applicator.dependencies_deepens more
    | looseDependencies => exact Applicator.looseDependencies_deepens more
    | dependentRequired => exact Applicator.dependentRequired_deepens more
    | dependentSchemas => exact Applicator.dependentSchemas_deepens more
    | disallow => exact Applicator.disallow_deepens more
    | extending => exact Applicator.extending_deepens more
    | conditional => exact Applicator.conditional_deepens more
    | items => exact Applicator.items_deepens more
    | itemsByType => exact Applicator.items_deepens more
    | itemsBehind => exact Applicator.itemsBehind_deepens more
    | oneOf => exact Applicator.oneOf_deepens more
    | not => exact Applicator.not_deepens more
    | patternProperties => exact Applicator.patternProperties_deepens more
    | prefixItems => exact Applicator.prefixItems_deepens more
    | properties => exact Applicator.properties_deepens more
    | requiringProperties => exact Applicator.requiringProperties_deepens more
    | propertyNames => exact Applicator.propertyNames_deepens more
    | looseType => exact Applicator.looseType_deepens more
    | unevaluatedItems => exact Applicator.unevaluatedItems_deepens more
    | unevaluatedProperties => exact Applicator.unevaluatedProperties_deepens more
    | _ => exact absurd (by decide) isAssertion

end Keyword

/-! ### Schemas -/

namespace Validator

section

variable {check deeper : KeywordCheck}
  (more : ∀ validator entries schema value,
    (check validator entries schema value).Deepens (deeper validator entries schema value))
  {validator : Validator} {schema value : Value}
include more

theorem checkAt_deepens {viewpoint : Except Fault Viewpoint} :
    (validator.checkAt check viewpoint schema value).Deepens
      (validator.checkAt deeper viewpoint schema value) := by
  unfold checkAt
  split
  · exact .refl _
  · exact .refl _
  · exact .after_right fun _ => .after_right fun _ => .after_right fun _ => more _ _ _ _

theorem below_deepens :
    (validator.below check schema value).Deepens (validator.below deeper schema value) :=
  checkAt_deepens more

theorem alone_deepens :
    (validator.alone check schema value).Deepens (validator.alone deeper schema value) := by
  unfold alone
  split
  · exact .refl _
  · exact .refl _
  · exact .after_right fun _ => .after_right fun _ => more _ _ _ _

theorem found_deepens {result : Except Fault (Value × Viewpoint)} :
    (validator.found check value result).Deepens (validator.found deeper value result) :=
  .after_right fun _ => checkAt_deepens more

theorem takenBranches_deepens :
    Deepens (validator.takenBranches check schema value) (validator.takenBranches deeper schema value) := by
  unfold takenBranches
  refine .bind_right fun condition => ?_
  cases condition with
  | none => exact .refl _
  | some condition => exact .bind_left (alone_deepens more).isClean

theorem takenAlternatives_deepens :
    Deepens (validator.takenAlternatives check schema value)
      (validator.takenAlternatives deeper schema value) := by
  unfold takenAlternatives
  refine .bind_left (.mapM fun keyword => .bind_right fun schemas => ?_)
  cases schemas with
  | none => exact .refl _
  | some schemas => exact .bind_right fun _ => .filterM fun _ => (below_deepens more).isClean

theorem admittedPlaces_deepens {keyword : String} :
    Deepens (validator.admittedPlaces check schema value keyword)
      (validator.admittedPlaces deeper schema value keyword) := by
  unfold admittedPlaces
  refine .bind_right fun inner => ?_
  cases inner with
  | none => exact .refl _
  | some inner => exact .bind_left (.filterM fun _ => (alone_deepens more).isClean)

theorem admittedNames_deepens {keyword : String} :
    Deepens (validator.admittedNames check schema value keyword)
      (validator.admittedNames deeper schema value keyword) := by
  unfold admittedNames
  refine .bind_right fun inner => ?_
  split
  · exact .refl _
  · exact .refl _
  · exact .bind_left (.filterM fun _ => (below_deepens more).isClean)

end

/-- The checks at some depth, and at the next one. -/
structure DeepensAt (depth : Nat) : Prop where
  check : ∀ validator entries schema value,
    (checkWith depth validator entries schema value).Deepens
      (checkWith (depth + 1) validator entries schema value)
  items : ∀ validator schema value,
    Deepens (evaluatedItems depth validator schema value) (evaluatedItems (depth + 1) validator schema value)
  names : ∀ validator schema value,
    Deepens (evaluatedNames depth validator schema value) (evaluatedNames (depth + 1) validator schema value)

theorem DeepensAt.scope {depth : Nat} (deepens : DeepensAt depth) (validator : Validator) (schema : Value) :
    (validator.scope schema depth).Deepens (validator.scope schema (depth + 1)) where
  table := rfl
  dialect := rfl
  nanAlike := rfl
  schema := rfl
  below _ _ := below_deepens deepens.check
  alone _ _ := alone_deepens deepens.check
  referenced _ _ := found_deepens deepens.check
  recursive _ := found_deepens deepens.check
  evaluatedItems value := deepens.items validator schema value
  evaluatedNames value := deepens.names validator schema value

/-- The checks and the searches for evaluated parts call each other one depth down. -/
theorem deepensAt (depth : Nat) : DeepensAt depth := by
  induction depth with
  | zero => exact ⟨fun _ _ _ _ => .inr ⟨rfl, fun _ => rfl⟩, fun _ _ _ => .inr rfl, fun _ _ _ => .inr rfl⟩
  | succ depth ih =>
    refine ⟨fun validator entries schema value => ?_, fun validator schema value => ?_,
      fun validator schema value => ?_⟩
    · rw [checkWith_succ, checkWith_succ]
      refine .each fun ⟨key, argument⟩ _ => ?_
      unfold keywordCheck
      dsimp only
      cases key.text?.bind (Keyword.ofName? validator.dialect) with
      | none => exact .refl _
      | some keyword => exact Keyword.check_deepens (ih.scope validator schema) keyword
    · by_cases isTruth : ∃ b, schema = .bool b
      · obtain ⟨b, rfl⟩ := isTruth
        exact .refl _
      have other : ∀ b, schema = .bool b → False := fun b same => isTruth ⟨b, same⟩
      rw [evaluatedItems, evaluatedItems, if_neg Bool.false_ne_true, if_neg Bool.false_ne_true]
      · refine .bind_right fun targets => .bind (.mapM fun _ => ih.items _ _ _) fun followed =>
          .bind_right fun ⟨places, all⟩ => ?_
        dsimp only
        split
        · exact .refl _
        · exact .bind (takenBranches_deepens ih.check) fun _ =>
            .bind (admittedPlaces_deepens ih.check) fun _ =>
            .bind (admittedPlaces_deepens ih.check) fun _ =>
            .bind (takenAlternatives_deepens ih.check) fun _ =>
            .bind_left (.mapM fun _ => ih.items _ _ _)
      · exact other
      · exact other
    · by_cases isTruth : ∃ b, schema = .bool b
      · obtain ⟨b, rfl⟩ := isTruth
        exact .refl _
      have other : ∀ b, schema = .bool b → False := fun b same => isTruth ⟨b, same⟩
      rw [evaluatedNames, evaluatedNames, if_neg Bool.false_ne_true, if_neg Bool.false_ne_true]
      · exact .bind_right fun targets => .bind (.mapM fun _ => ih.names _ _ _) fun followed =>
          .bind_right fun named =>
          .bind (.mapM fun _ => admittedNames_deepens ih.check) fun _ =>
          .bind_right fun _ =>
          .bind (takenAlternatives_deepens ih.check) fun _ =>
          .bind (takenBranches_deepens ih.check) fun _ =>
          .bind_left (.mapM fun _ => ih.names _ _ _)
      · exact other
      · exact other

variable {validator : Validator} {schema value : Value} {depth deeper : Nat}

/-- A check that is not given up comes to the same at every greater depth. -/
theorem judged_deepens (notLess : depth ≤ deeper) :
    (validator.judged schema value depth).Deepens (validator.judged schema value deeper) := by
  induction notLess with
  | refl => exact .refl _
  | step _ ih => exact ih.trans (.after_right fun entries => (deepensAt _).check _ _ _ _)

/-- What is found valid at some depth is found valid at every greater one. -/
theorem judged_of_le (notLess : depth ≤ deeper) (clean : validator.judged schema value depth = .clean) :
    validator.judged schema value deeper = .clean :=
  (judged_deepens notLess).clean clean

end Validator

end ModelSchema
