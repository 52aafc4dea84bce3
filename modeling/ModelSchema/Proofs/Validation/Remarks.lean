import ModelSchema.Proofs.Validation.Keywords

/-!
Schemas with remarks.

Titles, descriptions and other keywords that ask for nothing are remarks. A schema with remarks in
front and behind finds the same wrong with a value as the schema without them (`judged_remarked`).
-/

namespace ModelSchema

/-- Whether the keywords of a node ask for nothing. -/
def Node.IsRemark (node : Node) : Prop :=
  ∀ entry ∈ node, ∃ name argument, entry = (.str name, argument)
    ∧ Keyword.ofName? .draft7 name = none

/-- The keywords that the schemas of classes are made of. -/
def Node.usedKeywords : List String :=
  ["type", "format", "default", "enum", "items", "minItems", "maxItems", "additionalProperties",
    "properties", "required", "oneOf", "anyOf", "$ref"]

/-- Whether an argument is what the schemas of classes have behind a keyword. Types have names that
are known, and references are texts. -/
structure Node.IsArgument (keyword : String) (argument : Value) : Prop where
  used : keyword ∈ Node.usedKeywords
  typed : keyword = "type" → ∃ name type, argument = .str name
    ∧ JsonType.ofName? .draft7 name = some type
  referring : keyword = "$ref" → ∃ text, argument = .str text

/-- Whether a node has no other keywords than the schemas of classes. -/
def Node.IsUsual (node : Node) : Prop :=
  ∀ entry ∈ node, ∃ keyword argument, entry = (.str keyword, argument)
    ∧ Node.IsArgument keyword argument

namespace Node

variable {node other before inner after : Node} {keyword : String}

theorem get?_eq_none_of_forall
    (absent : ∀ entry ∈ node, ∃ name argument, entry = (.str name, argument) ∧ name ≠ keyword) :
    node.get? keyword = none := by
  rw [get?_eq, Option.map_eq_none_iff, List.find?_eq_none]
  intro entry member
  obtain ⟨name, argument, rfl, differs⟩ := absent entry member
  simpa [Value.text?] using differs

theorem IsRemark.get?_eq_none (remark : node.IsRemark)
    (isKeyword : (Keyword.ofName? .draft7 keyword).isSome = true) : node.get? keyword = none := by
  refine get?_eq_none_of_forall fun entry member => ?_
  obtain ⟨name, argument, rfl, noKeyword⟩ := remark entry member
  refine ⟨name, argument, rfl, ?_⟩
  rintro rfl
  rw [noKeyword] at isKeyword
  cases isKeyword

theorem isRemark_nil : IsRemark [] := fun _ member => absurd member List.not_mem_nil

/-- Remarks do not change what is behind a keyword. -/
theorem get?_remarked (front : before.IsRemark) (behind : after.IsRemark)
    (isKeyword : (Keyword.ofName? .draft7 keyword).isSome = true) :
    (before ++ inner ++ after).get? keyword = inner.get? keyword := by
  rw [get?_append, get?_append, front.get?_eq_none isKeyword, behind.get?_eq_none isKeyword,
    Option.none_or, Option.or_none]

theorem IsUsual.get?_eq_none (usual : node.IsUsual) (unused : keyword ∉ usedKeywords) :
    node.get? keyword = none := by
  refine get?_eq_none_of_forall fun entry member => ?_
  obtain ⟨name, argument, rfl, isArgument⟩ := usual entry member
  exact ⟨name, argument, rfl, fun same => unused (same ▸ isArgument.used)⟩

/-- A reference is a text. -/
theorem IsUsual.reference (usual : node.IsUsual) :
    node.get? "$ref" = none ∨ ∃ text, node.get? "$ref" = some (.str text) := by
  rw [get?_eq]
  cases found : node.find? (·.1.text? == some "$ref") with
  | none => exact .inl rfl
  | some entry =>
    obtain ⟨name, argument, rfl, isArgument⟩ := usual entry (List.mem_of_find?_eq_some found)
    have isReference : name = "$ref" := by simpa using List.find?_some found
    obtain ⟨text, rfl⟩ := isArgument.referring isReference
    exact .inr ⟨text, rfl⟩

theorem isArgument_of_ne {argument : Value} (used : keyword ∈ usedKeywords)
    (notType : keyword ≠ "type") (notReference : keyword ≠ "$ref") : IsArgument keyword argument :=
  ⟨used, fun same => absurd same notType, fun same => absurd same notReference⟩

theorem isArgument_type {name : String} {type : JsonType}
    (isType : JsonType.ofName? .draft7 name = some type) : IsArgument "type" (.str name) :=
  ⟨by decide, fun _ => ⟨name, type, rfl, isType⟩, fun same => absurd same (by decide)⟩

theorem isArgument_reference {text : String} : IsArgument "$ref" (.str text) :=
  ⟨by decide, fun same => absurd same (by decide), fun _ => ⟨text, rfl⟩⟩

theorem isUsual_nil : IsUsual [] := fun _ member => absurd member List.not_mem_nil

theorem isUsual_cons {argument : Value} (isArgument : IsArgument keyword argument)
    (usual : node.IsUsual) : IsUsual ((.str keyword, argument) :: node) := by
  intro entry member
  rcases List.mem_cons.mp member with rfl | later
  · exact ⟨keyword, argument, rfl, isArgument⟩
  · exact usual entry later

theorem isUsual_append (usual : node.IsUsual) (usualElse : other.IsUsual) :
    IsUsual (node ++ other) := by
  intro entry member
  rcases List.mem_append.mp member with here | there
  · exact usual entry here
  · exact usualElse entry there

end Node

namespace Checked

variable {α : Type} {check checkElse : α → Checked} {list more : List α}

theorem clean_andThen {next : Unit → Checked} : Checked.clean.andThen next = next () := rfl

/-- Checks in front that find nothing wrong can be left out. -/
theorem each_append_of_clean_front (clean : ∀ a ∈ list, check a = .clean) :
    Checked.each check (list ++ more) = Checked.each check more := by
  induction list with
  | nil => rfl
  | cons a rest ih =>
    rw [List.cons_append, Checked.each, clean a List.mem_cons_self, clean_andThen]
    exact ih fun b member => clean b (List.mem_cons_of_mem a member)

/-- So can checks behind. -/
theorem each_append_of_clean_behind (clean : ∀ a ∈ more, check a = .clean) :
    Checked.each check (list ++ more) = Checked.each check list := by
  induction list with
  | nil =>
    rw [List.nil_append, ← List.append_nil more]
    exact each_append_of_clean_front clean
  | cons a rest ih => rw [List.cons_append, Checked.each, Checked.each, ih]

theorem each_congr (same : ∀ a ∈ list, check a = checkElse a) :
    Checked.each check list = Checked.each checkElse list := by
  induction list with
  | nil => rfl
  | cons a rest ih =>
    rw [Checked.each, Checked.each, same a List.mem_cons_self,
      ih fun b member => same b (List.mem_cons_of_mem a member)]

end Checked

namespace Validator

variable {validator : Validator} {node inner before after : Node} {value : Value} {depth : Nat}

/-- The alternatives that are tried do not depend on the schema around them. -/
theorem firstFitting_congr {scope scopeElse : KeywordScope} (same : scope.below = scopeElse.below)
    {schemas : List Value} :
    Applicator.firstFitting scope value schemas = Applicator.firstFitting scopeElse value schemas := by
  induction schemas with
  | nil => rfl
  | cons schema rest ih => rw [Applicator.firstFitting, Applicator.firstFitting, same, ih]

/-- What a keyword finds wrong depends on few other keywords of its schema. -/
theorem keywordCheck_congr (isDraft7 : validator.dialect = .draft7)
    (ends : (Value.dict node).isEndless = false) (endsInner : (Value.dict inner).isEndless = false)
    (sameProperties : node.get? "properties" = inner.get? "properties")
    (samePatterns : node.get? "patternProperties" = inner.get? "patternProperties")
    {name : String} {argument : Value} (isArgument : Node.IsArgument name argument) :
    validator.keywordCheck (.dict node) value depth (.str name, argument)
      = validator.keywordCheck (.dict inner) value depth (.str name, argument) := by
  have properties : (validator.scope (.dict node) depth).argument? "properties"
      = (validator.scope (.dict inner) depth).argument? "properties" :=
    (Value.partNamed?_dict ends).trans
      ((congrArg Except.ok sameProperties).trans (Value.partNamed?_dict endsInner).symm)
  have patterns : (validator.scope (.dict node) depth).argument? "patternProperties"
      = (validator.scope (.dict inner) depth).argument? "patternProperties" :=
    (Value.partNamed?_dict ends).trans
      ((congrArg Except.ok samePatterns).trans (Value.partNamed?_dict endsInner).symm)
  have below : (validator.scope (.dict node) depth).below
      = (validator.scope (.dict inner) depth).below := rfl
  have fitting : ∀ schemas, Applicator.firstFitting (validator.scope (.dict node) depth) value schemas
      = Applicator.firstFitting (validator.scope (.dict inner) depth) value schemas :=
    fun _ => firstFitting_congr below
  have ignored : ∀ {name}, Keyword.ofName? .draft7 name = none →
      validator.keywordCheck (.dict node) value depth (.str name, argument)
        = validator.keywordCheck (.dict inner) value depth (.str name, argument) := by
    intro name noKeyword
    rw [keywordCheck_of_none isDraft7 noKeyword, keywordCheck_of_none isDraft7 noKeyword]
  have asked : ∀ (keyword : Keyword) {name}, Keyword.ofName? .draft7 name = some keyword →
      keyword.check (validator.scope (.dict node) depth) argument value
        = keyword.check (validator.scope (.dict inner) depth) argument value →
      validator.keywordCheck (.dict node) value depth (.str name, argument)
        = validator.keywordCheck (.dict inner) value depth (.str name, argument) := by
    intro keyword name isKeyword same
    rw [keywordCheck_of_some isDraft7 isKeyword, keywordCheck_of_some isDraft7 isKeyword, same]
  obtain ⟨used, typed, -⟩ := isArgument
  simp only [Node.usedKeywords, List.mem_cons, List.not_mem_nil, or_false] at used
  rcases used with rfl | rfl | rfl | rfl | rfl | rfl | rfl | rfl | rfl | rfl | rfl | rfl | rfl
  · obtain ⟨name, type, rfl, isType⟩ := typed rfl
    have holds : ∀ schema, Assertion.hasNamedType (validator.scope schema depth) value (.str name)
        = .ok (type.holds .draft7 value) := fun _ => hasNamedType_eq isDraft7 isType
    refine asked .type rfl ?_
    change Assertion.type _ value (.str name) = Assertion.type _ value (.str name)
    unfold Assertion.type Assertion.typeList
    dsimp only [Checked.after]
    rw [List.anyM_cons, List.anyM_cons, holds, holds]
    rfl
  · exact ignored rfl
  · exact ignored rfl
  · exact asked .enum rfl rfl
  · exact asked .itemsByType rfl rfl
  · exact asked .minItems rfl rfl
  · exact asked .maxItems rfl rfl
  · refine asked .additionalProperties rfl ?_
    change Applicator.additionalProperties _ value argument
      = Applicator.additionalProperties _ value argument
    unfold Applicator.additionalProperties Applicator.extras Applicator.reportExtras
    rw [properties, patterns]
    rfl
  · exact asked .properties rfl rfl
  · exact asked .required rfl rfl
  · refine asked .oneOf rfl ?_
    change Applicator.oneOf _ value argument = Applicator.oneOf _ value argument
    unfold Applicator.oneOf
    simp only [fitting]
    rfl
  · refine asked .anyOf rfl ?_
    change Applicator.anyOf _ value argument = Applicator.anyOf _ value argument
    unfold Applicator.anyOf
    simp only [fitting]
    rfl
  · exact asked .reference rfl rfl

/-- A schema whose keywords find the same wrong, but for some that find nothing, judges the same. -/
theorem checkWith_remarked {entries : Node} {schema schemaElse : Value}
    (front : ∀ depth, ∀ entry ∈ before, validator.keywordCheck schema value depth entry = .clean)
    (behind : ∀ depth, ∀ entry ∈ after, validator.keywordCheck schema value depth entry = .clean)
    (same : ∀ depth, ∀ entry ∈ entries, validator.keywordCheck schema value depth entry
      = validator.keywordCheck schemaElse value depth entry) :
    checkWith depth validator (before ++ entries ++ after) schema value
      = checkWith depth validator entries schemaElse value := by
  cases depth with
  | zero => rw [checkWith, checkWith]
  | succ depth =>
    rw [checkWith_succ, checkWith_succ, Checked.each_append_of_clean_behind (behind depth),
      Checked.each_append_of_clean_front (front depth), Checked.each_congr (same depth)]

/-- Remarks in front of a schema and behind it change nothing. -/
theorem judged_remarked (isDraft7 : validator.dialect = .draft7)
    (ends : (Value.dict (before ++ inner ++ after)).isEndless = false) (usual : inner.IsUsual)
    (front : before.IsRemark) (behind : after.IsRemark) :
    validator.judged (.dict (before ++ inner ++ after)) value depth
      = validator.judged (.dict inner) value depth := by
  have older : validator.dialect.isModern = false := by rw [isDraft7]; rfl
  have endsInner : (Value.dict inner).isEndless = false := by
    rw [Value.isEndless_dict] at ends ⊢
    exact fun entry member => ends entry (List.mem_append_left _ (List.mem_append_right _ member))
  have same : ∀ keyword, (Keyword.ofName? .draft7 keyword).isSome = true →
      (before ++ inner ++ after).get? keyword = inner.get? keyword :=
    fun _ => Node.get?_remarked front behind
  have congr : ∀ depth {name argument}, Node.IsArgument name argument →
      validator.keywordCheck (.dict (before ++ inner ++ after)) value depth (.str name, argument)
        = validator.keywordCheck (.dict inner) value depth (.str name, argument) :=
    fun _ _ _ => keywordCheck_congr isDraft7 ends endsInner (same _ rfl) (same _ rfl)
  have clean : ∀ {remark : Node}, remark.IsRemark → ∀ depth, ∀ entry ∈ remark,
      validator.keywordCheck (.dict (before ++ inner ++ after)) value depth entry = .clean := by
    intro remark isRemark depth entry member
    obtain ⟨name, argument, rfl, noKeyword⟩ := isRemark entry member
    exact keywordCheck_of_none isDraft7 noKeyword
  unfold judged
  rcases usual.reference with noReference | ⟨text, isReference⟩
  · rw [keywords_of_none older ends ((same _ rfl).trans noReference),
      keywords_of_none older endsInner noReference]
    refine checkWith_remarked (clean front) (clean behind) fun depth entry member => ?_
    obtain ⟨name, argument, rfl, isArgument⟩ := usual entry member
    exact congr depth isArgument
  · rw [keywords_of_reference older ends ((same _ rfl).trans isReference),
      keywords_of_reference older endsInner isReference]
    have only : ∀ depth, ∀ entry ∈ [(Value.str "$ref", Value.str text)],
        validator.keywordCheck (.dict (before ++ inner ++ after)) value depth entry
          = validator.keywordCheck (.dict inner) value depth entry := by
      intro depth entry member
      cases List.mem_singleton.mp member
      exact congr depth Node.isArgument_reference
    exact checkWith_remarked (clean Node.isRemark_nil) (clean Node.isRemark_nil) only

end Validator

end ModelSchema
