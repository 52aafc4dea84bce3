import ModelSchema.Proofs.Agreement.Decision
import ModelSchema.Proofs.Validation.Acceptance

/-!
Null, and what admits it.

A choice between null and a schema has to be made by exactly one of the two. So it accepts null only
where the schema rejects null, and all else where the schema does (`accepts_nullable`).

* `Validator.Rejects`: a schema finds something wrong with a value, and is not given up before.
* `Value.alike_null`: only null is equal to null.
-/

namespace ModelSchema

namespace Value

/-- Only null is equal to null. -/
theorem same_null {value : Value} : value.same .null = true ↔ value = .null := by
  have content : ∀ value : Value, sameByContent value .null = false := by
    intro value
    unfold sameByContent
    cases value.magnitude? <;> cases value.text? <;> rfl
  cases value <;> simp [same, content]

theorem alike_null {likeness : Likeness} {value : Value} :
    value.alike likeness .null = true ↔ value = .null := by
  cases value with
  | collection kind items => cases kind <;> simp [alike, sequence?, same]
  | dict entries => simp [alike]
  | bool b => simp [alike, sequence?, scalarAlike, same_null]
  | _ => simp [alike, sequence?, scalarAlike, same_null]

end Value

/-! ### Checks that ask other checks -/

namespace Checked

variable {check : Checked} {problem : Problem}

/-- A check that reports all but a rejection finds nothing when there is one. -/
theorem rejecting_eq_clean :
    Checked.after check.isClean (fun fits => .oneIf fits problem) = .clean
      ↔ check.isClean = .ok false := by
  cases check.isClean with
  | error fault => exact ⟨nofun, nofun⟩
  | ok fits => cases fits <;> simp [after, oneIf, one, clean]

/-- A check that reports what another one finds finds nothing when the other does not. -/
theorem accepting_eq_clean :
    Checked.after check.all (fun found => .oneIf (!found.isEmpty) problem) = .clean
      ↔ check = .clean := by
  obtain ⟨found, fault⟩ := check
  cases fault with
  | some fault => simp [all, after, failed, clean]
  | none => cases found <;> simp [all, after, oneIf, one, clean]

end Checked

namespace Validator

variable {validator : Validator} {node inner : Node} {value : Value}

/-! ### Rejection -/

/-- Whether a schema inside of the current one finds something wrong with a value. -/
def Rejects (validator : Validator) (schema value : Value) : Prop :=
  ∃ depth, (validator.below (checkWith depth) schema value).isClean = .ok false

theorem rejects_of_settles (isDraft7 : validator.dialect = .draft7) (isInner : node.IsInner)
    (settles : Settles (validator.judged (.dict node) value) false) :
    validator.Rejects (.dict node) value := by
  obtain ⟨enough, noFault⟩ := settles.eventually
  refine ⟨enough, ?_⟩
  rw [below_eq (keeps_of_isInner isDraft7 isInner),
    Checked.isClean_of_fault (noFault enough (Nat.le_refl enough))]
  rcases settles.answers enough with ⟨-, found⟩ | ⟨endless, -⟩
  · rw [found]
  · rw [noFault enough (Nat.le_refl enough)] at endless
    cases endless

/-- Where a schema settles, it accepts or rejects a value as it settles. -/
theorem accepts_iff_of_settles (isDraft7 : validator.dialect = .draft7) (isInner : node.IsInner)
    {valid : Bool} (settles : Settles (validator.judged (.dict node) value) valid) :
    validator.Accepts (.dict node) value ↔ valid = true := by
  refine ⟨fun accepts => accepts.eq_true isDraft7 isInner settles, ?_⟩
  rintro rfl
  exact accepts_of_settles isDraft7 isInner settles

theorem rejects_iff_of_settles (isDraft7 : validator.dialect = .draft7) (isInner : node.IsInner)
    {valid : Bool} (settles : Settles (validator.judged (.dict node) value) valid) :
    validator.Rejects (.dict node) value ↔ valid = false := by
  constructor
  · rintro ⟨depth, rejects⟩
    rw [below_eq (keeps_of_isInner isDraft7 isInner)] at rejects
    rcases (settles.answers depth).isClean with answer | endless
    · exact Except.ok.inj (answer.symm.trans rejects)
    · rw [endless] at rejects
      cases rejects
  · rintro rfl
    exact rejects_of_settles isDraft7 isInner settles

/-! ### A choice between null and a schema -/

/-- At depth zero no schema answers. -/
theorem exists_judged_zero (validator : Validator) (schema value : Value) :
    ∃ fault, validator.judged schema value 0 = .failed fault := by
  unfold judged
  cases validator.keywords schema with
  | error fault => exact ⟨fault, rfl⟩
  | ok entries => exact ⟨.endless, by rw [Checked.after, checkWith]⟩

section

variable (isDraft7 : validator.dialect = .draft7)
include isDraft7

/-- Null is told from other values without a step into the value. -/
theorem judged_notIncluded {depth : Nat} :
    validator.judged (.dict notIncluded) value (depth + 1)
      = .oneIf (!JsonType.null.holds .draft7 value) (.wrongType value [.str "null"]) := by
  unfold judged
  rw [keywords_of_none (by rw [isDraft7]; rfl) SchemaSource.isInner_notIncluded.ends
    (by simp [notIncluded])]
  change checkWith (depth + 1) validator notIncluded (.dict notIncluded) value = _
  rw [checkWith_succ]
  unfold notIncluded
  rw [Checked.each, Checked.each, Checked.each,
    keywordCheck_type isDraft7 (show JsonType.ofName? .draft7 "null" = some .null from rfl),
    keywordCheck_of_none isDraft7 (show Keyword.ofName? .draft7 "title" = none from rfl)]
  cases JsonType.null.holds .draft7 value <;> rfl

/-- The schemas in a choice are asked one behind the other. -/
theorem keywordCheck_nullable (isInner : inner.IsInner) {schema : Value} {depth : Nat} :
    validator.keywordCheck schema value depth
        (.str "oneOf", .list [.dict notIncluded, .dict inner])
      = .after (Applicator.firstFitting (validator.scope schema depth) value
          [.dict notIncluded, .dict inner]) fun fitting =>
        match fitting with
        | none => .one (.noAlternative value)
        | some (first, rest) =>
          .after (rest.filterM fun other => (validator.scope schema depth).admits other value)
            fun more => .oneIf (!more.isEmpty) (.severalAlternatives value (more ++ [first])) := by
  have ends : (Value.list [.dict notIncluded, .dict inner]).isEndless = false := by
    refine Value.isEndless_list.mpr fun item member => ?_
    rcases List.mem_pair.mp member with rfl | rfl
    · rfl
    · exact isInner.ends
  rw [keywordCheck_of_some isDraft7 rfl]
  change Applicator.oneOf _ value (.list [.dict notIncluded, .dict inner]) = _
  unfold Applicator.oneOf
  rw [Value.parts_list ends]
  rfl

/-- At depth zero a choice is given up. -/
theorem keywordCheck_nullable_zero (isInner : inner.IsInner) {schema : Value} :
    validator.keywordCheck schema value 0 (.str "oneOf", .list [.dict notIncluded, .dict inner])
      = .failed .endless := by
  have keeps : validator.Keeps (.dict notIncluded) :=
    keeps_of_isInner isDraft7 SchemaSource.isInner_notIncluded
  have given : validator.judged (.dict notIncluded) value 0 = .failed .endless := by
    unfold judged
    rw [keywords_of_none (by rw [isDraft7]; rfl) SchemaSource.isInner_notIncluded.ends
      (by simp [notIncluded])]
    rfl
  rw [keywordCheck_nullable isDraft7 isInner]
  unfold Applicator.firstFitting
  rw [scope_below_eq keeps, given]
  rfl

/-- At any other depth the schema is asked whether it rejects null, or accepts another value. -/
theorem keywordCheck_nullable_succ (isInner : inner.IsInner) {schema : Value} {depth : Nat} :
    validator.keywordCheck schema value (depth + 1)
        (.str "oneOf", .list [.dict notIncluded, .dict inner])
      = if JsonType.null.holds .draft7 value then
          .after (validator.judged (.dict inner) value (depth + 1)).isClean fun fits =>
            .oneIf fits (.severalAlternatives value [.dict inner, .dict notIncluded])
        else
          .after (validator.judged (.dict inner) value (depth + 1)).all fun found =>
            .oneIf (!found.isEmpty) (.noAlternative value) := by
  have keeps := keeps_of_isInner isDraft7 isInner
  have keepsNull : validator.Keeps (.dict notIncluded) :=
    keeps_of_isInner isDraft7 SchemaSource.isInner_notIncluded
  rw [keywordCheck_nullable isDraft7 isInner]
  unfold Applicator.firstFitting
  rw [scope_below_eq keepsNull, judged_notIncluded isDraft7]
  cases isNull : JsonType.null.holds .draft7 value with
  | true =>
    change Checked.after ([Value.dict inner].filterM fun schema =>
      (validator.alone (checkWith (depth + 1)) schema value).isClean) _ = _
    rw [if_pos rfl, List.filterM, List.filterAuxM, alone_eq keeps]
    cases (validator.judged (.dict inner) value (depth + 1)).isClean with
    | error fault => rfl
    | ok fits => cases fits <;> rfl
  | false =>
    change Checked.after (Applicator.firstFitting _ value [.dict inner]) _ = _
    rw [if_neg Bool.false_ne_true]
    unfold Applicator.firstFitting
    rw [scope_below_eq keeps]
    cases (validator.judged (.dict inner) value (depth + 1)).all with
    | error fault => rfl
    | ok found => cases found <;> rfl

/-- A choice between null and a schema finds nothing wrong when its keyword does. -/
theorem accepts_branches_iff (isInner : inner.IsInner) :
    validator.Accepts (.dict (branchesNode [notIncluded, inner])) value
      ↔ ∃ depth, validator.keywordCheck (.dict (branchesNode [notIncluded, inner])) value (depth + 1)
        (.str "oneOf", .list [.dict notIncluded, .dict inner]) = .clean := by
  have ends : (Value.dict (branchesNode [notIncluded, inner])).isEndless = false :=
    SchemaSource.isEndless_branches (SchemaSource.isInner_nullable isInner)
  have isInnerBoth : Node.IsInner (branchesNode [notIncluded, inner]) :=
    SchemaSource.isUsual_branches.isInner ends
  have noReference : Node.get? (branchesNode [notIncluded, inner]) "$ref" = none := by
    simp [branchesNode]
  constructor
  · intro accepts
    obtain ⟨depth, each⟩ := accepts.exists_each isDraft7 isInnerBoth noReference
    have clean : validator.keywordCheck (.dict (branchesNode [notIncluded, inner])) value depth
        (.str "oneOf", .list [.dict notIncluded, .dict inner]) = .clean :=
      each _ List.mem_cons_self
    cases depth with
    | zero =>
      rw [keywordCheck_nullable_zero isDraft7 isInner] at clean
      cases clean
    | succ depth => exact ⟨depth, clean⟩
  · rintro ⟨depth, clean⟩
    refine (accepts_iff isDraft7 isInnerBoth).mpr ⟨depth + 2, ?_⟩
    unfold judged
    rw [keywords_of_none (by rw [isDraft7]; rfl) ends noReference]
    change checkWith (depth + 2) validator (branchesNode [notIncluded, inner]) _ value = _
    rw [checkWith_succ]
    refine Checked.each_eq_clean.mpr fun entry member => ?_
    cases List.mem_singleton.mp member
    exact clean

/-- A choice between null and a schema accepts null where the schema rejects it. -/
theorem accepts_nullable_null (isInner : inner.IsInner) :
    validator.Accepts (.dict (branchesNode [notIncluded, inner])) .null
      ↔ validator.Rejects (.dict inner) .null := by
  have keeps := keeps_of_isInner isDraft7 isInner
  have each : ∀ {schema depth}, validator.keywordCheck schema .null (depth + 1)
      (.str "oneOf", .list [.dict notIncluded, .dict inner]) = .clean
        ↔ (validator.judged (.dict inner) .null (depth + 1)).isClean = .ok false := by
    intro schema depth
    rw [keywordCheck_nullable_succ isDraft7 isInner]
    exact Checked.rejecting_eq_clean
  rw [accepts_branches_iff isDraft7 isInner]
  constructor
  · rintro ⟨depth, clean⟩
    exact ⟨depth + 1, by rw [below_eq keeps, each.mp clean]⟩
  · rintro ⟨depth, rejects⟩
    rw [below_eq keeps] at rejects
    cases depth with
    | zero =>
      obtain ⟨fault, failed⟩ := exists_judged_zero validator (.dict inner) .null
      rw [failed] at rejects
      cases rejects
    | succ depth => exact ⟨depth, each.mpr rejects⟩

/-- Any other value it accepts where the schema does. -/
theorem accepts_nullable (isInner : inner.IsInner) (notNull : value ≠ .null) :
    validator.Accepts (.dict (branchesNode [notIncluded, inner])) value
      ↔ validator.Accepts (.dict inner) value := by
  have isOther : JsonType.null.holds .draft7 value = false := by
    cases value with
    | null => exact absurd rfl notNull
    | _ => rfl
  have each : ∀ {schema depth}, validator.keywordCheck schema value (depth + 1)
      (.str "oneOf", .list [.dict notIncluded, .dict inner]) = .clean
        ↔ validator.judged (.dict inner) value (depth + 1) = .clean := by
    intro schema depth
    rw [keywordCheck_nullable_succ isDraft7 isInner, isOther, if_neg Bool.false_ne_true]
    exact Checked.accepting_eq_clean
  rw [accepts_branches_iff isDraft7 isInner, accepts_iff isDraft7 isInner]
  constructor
  · rintro ⟨depth, clean⟩
    exact ⟨depth + 1, each.mp clean⟩
  · rintro ⟨depth, clean⟩
    cases depth with
    | zero =>
      obtain ⟨fault, failed⟩ := exists_judged_zero validator (.dict inner) value
      rw [failed] at clean
      cases clean
    | succ depth => exact ⟨depth, each.mpr clean⟩

end

end Validator

end ModelSchema
