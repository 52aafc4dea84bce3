import ModelSchema.Proofs.Validation.Judgement

/-!
The keywords that the schemas of classes are made of.

Every keyword settles when the schemas inside it do, and the theorems say for which answer.

* `settles_type`, `settles_enum`, `settles_required`, `settles_minItems`, `settles_maxItems`:
  keywords without schemas inside.
* `settles_of_other`: keywords that are about values of one type admit all others.
* `settles_items`, `settles_itemsByPlace`, `settles_properties`, `settles_additional`,
  `settles_noAdditional`: the parts of a value.
* `settles_anyOf`, `settles_oneOf`: choices between schemas.
-/

namespace ModelSchema.Validator

variable {validator : Validator} {node : Node} {schema value : Value}

theorem each_map {α β : Type} {check : β → Checked} {f : α → β} {list : List α} :
    Checked.each check (list.map f) = Checked.each (fun a => check (f a)) list := by
  induction list with
  | nil => rfl
  | cons a rest ih => rw [List.map_cons, Checked.each, Checked.each, ih]

theorem settles_ignored (isDraft7 : validator.dialect = .draft7) {name : String} {argument : Value}
    (noKeyword : Keyword.ofName? .draft7 name = none) :
    Settles (fun depth => validator.keywordCheck schema value depth (.str name, argument)) true := by
  exact .always fun depth => keywordCheck_of_none isDraft7 noKeyword

theorem hasNamedType_eq (isDraft7 : validator.dialect = .draft7) {name : String} {type : JsonType}
    {depth : Nat} (isType : JsonType.ofName? .draft7 name = some type) :
    Assertion.hasNamedType (validator.scope schema depth) value (.str name)
      = .ok (type.holds .draft7 value) := by
  unfold Assertion.hasNamedType
  have found : (Value.str name).text?.bind (JsonType.ofName? (validator.scope schema depth).dialect)
      = some type := by
    change JsonType.ofName? validator.dialect name = some type
    rw [isDraft7, isType]
  have named : (Value.str name).asKey (validator.scope schema depth).table = .ok (.str name) := rfl
  rw [named]
  dsimp only [bind, Except.bind]
  rw [found]
  change Except.ok (type.holds validator.dialect value) = _
  rw [isDraft7]

theorem keywordCheck_type (isDraft7 : validator.dialect = .draft7) {name : String} {type : JsonType}
    {depth : Nat} (isType : JsonType.ofName? .draft7 name = some type) :
    validator.keywordCheck schema value depth (.str "type", .str name)
      = .oneIf (!type.holds .draft7 value) (.wrongType value [.str name]) := by
  rw [keywordCheck_of_some isDraft7 rfl]
  change Assertion.type _ value (.str name) = _
  unfold Assertion.type Assertion.typeList
  dsimp only [Checked.after]
  rw [List.anyM_cons, hasNamedType_eq isDraft7 isType]
  cases type.holds .draft7 value <;> rfl

/-- A value has the type that is named. -/
theorem settles_type (isDraft7 : validator.dialect = .draft7) {name : String} {type : JsonType}
    (isType : JsonType.ofName? .draft7 name = some type) :
    Settles (fun depth => validator.keywordCheck schema value depth (.str "type", .str name))
      (type.holds .draft7 value) :=
  .reporting _ fun _ => keywordCheck_type isDraft7 isType

/-- A value is one of those that are listed. -/
theorem settles_enum (isDraft7 : validator.dialect = .draft7) {values : List Value}
    (ends : (Value.list values).isEndless = false) :
    Settles (fun depth => validator.keywordCheck schema value depth (.str "enum", .list values))
      (values.any fun each => each.alike Assertion.listedLikeness value) := by
  have check : ∀ depth, validator.keywordCheck schema value depth (.str "enum", .list values)
      = .oneIf (!(values.any fun each => each.alike Assertion.listedLikeness value))
        (.unlisted value (.list values)) := by
    intro depth
    rw [keywordCheck_of_some isDraft7 rfl]
    change Assertion.enum _ value (.list values) = _
    unfold Assertion.enum
    rw [Value.parts_list ends]
    rfl
  exact .reporting _ check

/-- An object has all keys that are required. -/
theorem settles_required (isDraft7 : validator.dialect = .draft7) {entries : Node}
    {names : List String} :
    Settles (fun depth => validator.keywordCheck schema (.dict entries) depth
        (.str "required", .strings names))
      (names.all fun name => (entries.get? name).isSome) := by
  have ends : (Value.list (names.map .str)).isEndless = false := by
    refine Value.isEndless_list.mpr fun item member => ?_
    obtain ⟨name, -, rfl⟩ := List.mem_map.mp member
    rfl
  have check : ∀ depth, validator.keywordCheck schema (.dict entries) depth
      (.str "required", .strings names)
      = Checked.each (fun name => .oneIf (!(entries.get? name).isSome) (.missing (.str name)))
        names := by
    intro depth
    rw [keywordCheck_of_some isDraft7 rfl]
    change Assertion.required _ (.dict entries) (.list (names.map .str)) = _
    unfold Assertion.required Assertion.namesWithin
    rw [Value.parts_list ends]
    dsimp only [Checked.after]
    rw [each_map]
    rfl
  simp only [check]
  exact Settles.each fun name _ => .reporting _ fun _ => rfl

/-! ### Values of other types -/

/-- The keywords that are about values of one type. -/
def aboutType : List (Keyword × JsonType) :=
  [(.required, .object), (.properties, .object), (.additionalProperties, .object),
    (.itemsByType, .array), (.minItems, .array), (.maxItems, .array), (.uniqueItems, .array)]

/-- A keyword that is about values of one type admits all others. -/
theorem settles_of_other (isDraft7 : validator.dialect = .draft7) {name : String}
    {keyword : Keyword} {type : JsonType} {argument : Value}
    (isKeyword : Keyword.ofName? .draft7 name = some keyword) (about : (keyword, type) ∈ aboutType)
    (other : type.holds .draft7 value = false) :
    Settles (fun depth => validator.keywordCheck schema value depth (.str name, argument)) true := by
  have clean : ∀ depth, keyword.check (validator.scope schema depth) argument value = .clean := by
    intro depth
    have noHolds : (validator.scope schema depth).holds type value = false := by
      rw [← other, ← isDraft7]
      rfl
    simp only [aboutType, List.mem_cons, Prod.mk.injEq, List.not_mem_nil, or_false] at about
    rcases about with ⟨rfl, rfl⟩ | ⟨rfl, rfl⟩ | ⟨rfl, rfl⟩ | ⟨rfl, rfl⟩ | ⟨rfl, rfl⟩ | ⟨rfl, rfl⟩
      | ⟨rfl, rfl⟩
    · change Assertion.required _ value argument = _
      unfold Assertion.required
      rw [noHolds, if_neg Bool.false_ne_true]
    · change Applicator.properties _ value argument = _
      unfold Applicator.properties
      split
      · cases other
      · rfl
    · change Applicator.additionalProperties _ value argument = _
      unfold Applicator.additionalProperties
      rw [noHolds, if_neg Bool.false_ne_true]
    · change Applicator.items _ true value argument = _
      unfold Applicator.items
      rw [noHolds, if_neg Bool.false_ne_true]
    · change Assertion.least _ .array .content value argument = _
      unfold Assertion.least Assertion.sizeOf?
      rw [noHolds, if_neg Bool.false_ne_true]
    · change Assertion.most _ .array .content value argument = _
      unfold Assertion.most Assertion.sizeOf?
      rw [noHolds, if_neg Bool.false_ne_true]
    · change Assertion.unique _ value argument = _
      unfold Assertion.unique
      rw [noHolds, Bool.and_false, if_neg Bool.false_ne_true]
  exact .always fun depth => (keywordCheck_of_some isDraft7 isKeyword).trans (clean depth)

/-! ### Sizes -/

theorem keywordCheck_minItems (isDraft7 : validator.dialect = .draft7) {items : List Value}
    {limit depth : Nat} :
    validator.keywordCheck schema (.list items) depth (.str "minItems", .int limit)
      = .oneIf (!decide (limit ≤ items.length)) (.tooSmall .content (.list items)
        (Assertion.isNumber (.int limit) 1)) := by
  have order : (compare ((items.length : Int) * 1) (limit * 1) = .lt) ↔ ¬ limit ≤ items.length := by
    rw [Int.compare_eq_lt]
    omega
  rw [keywordCheck_of_some isDraft7 rfl]
  change Checked.oneIf (decide (some (compare ((items.length : Int) * 1) (limit * 1)) = some .lt)) _
    = _
  congr 1
  rw [← decide_not]
  exact decide_eq_decide.mpr (Option.some_inj.trans order)

theorem settles_minItems (isDraft7 : validator.dialect = .draft7) {items : List Value} {limit : Nat} :
    Settles (fun depth => validator.keywordCheck schema (.list items) depth
      (.str "minItems", .int limit)) (decide (limit ≤ items.length)) :=
  .reporting _ fun _ => keywordCheck_minItems isDraft7

theorem keywordCheck_maxItems (isDraft7 : validator.dialect = .draft7) {items : List Value}
    {limit depth : Nat} :
    validator.keywordCheck schema (.list items) depth (.str "maxItems", .int limit)
      = .oneIf (!decide (items.length ≤ limit)) (.tooLarge .content (.list items)
        (Assertion.isNumber (.int limit) 0)) := by
  have order : (compare ((items.length : Int) * 1) (limit * 1) = .gt) ↔ ¬ items.length ≤ limit := by
    rw [Int.compare_eq_gt]
    omega
  rw [keywordCheck_of_some isDraft7 rfl]
  change Checked.oneIf (decide (some (compare ((items.length : Int) * 1) (limit * 1)) = some .gt)) _
    = _
  congr 1
  rw [← decide_not]
  exact decide_eq_decide.mpr (Option.some_inj.trans order)

theorem settles_maxItems (isDraft7 : validator.dialect = .draft7) {items : List Value} {limit : Nat} :
    Settles (fun depth => validator.keywordCheck schema (.list items) depth
      (.str "maxItems", .int limit)) (decide (items.length ≤ limit)) :=
  .reporting _ fun _ => keywordCheck_maxItems isDraft7

/-! ### Parts -/

theorem part_eq {inner : Node} {step : PathPart} {depth : Nat}
    (keeps : validator.Keeps (.dict inner)) :
    (validator.scope schema depth).part step (.dict inner) value
      = (validator.judged (.dict inner) value depth).within step := by
  change (validator.below (checkWith depth) (.dict inner) value).within step = _
  rw [below_eq keeps]

/-- A part settles when the schema for it does. -/
theorem settles_part {inner : Node} {step : PathPart} {valid : Bool}
    (keeps : validator.Keeps (.dict inner))
    (settles : Settles (validator.judged (.dict inner) value) valid) :
    Settles (fun depth => (validator.scope schema depth).part step (.dict inner) value) valid := by
  simp only [part_eq keeps]
  exact settles.within

theorem mem_of_mem_numbered {pair : Nat × Value} :
    ∀ {start : Nat} {items : List Value}, pair ∈ Applicator.numbered start items → pair.2 ∈ items
  | _, [], member => absurd member List.not_mem_nil
  | start, item :: rest, member => by
    rcases List.mem_cons.mp member with rfl | later
    · exact List.mem_cons_self
    · exact List.mem_cons_of_mem _ (mem_of_mem_numbered later)

theorem all_numbered {valid : Value → Bool} :
    ∀ {start : Nat} {items : List Value},
      ((Applicator.numbered start items).all fun pair => valid pair.2) = items.all valid
  | _, [] => rfl
  | start, item :: rest => by
    rw [Applicator.numbered, List.all_cons, List.all_cons, all_numbered]

/-- One schema for all items of a list. -/
theorem settles_items (isDraft7 : validator.dialect = .draft7) {items : List Value}
    {inner : Node} {valid : Value → Bool} (keeps : validator.Keeps (.dict inner))
    (each : ∀ item ∈ items, Settles (validator.judged (.dict inner) item) (valid item)) :
    Settles (fun depth => validator.keywordCheck schema (.list items) depth
      (.str "items", .dict inner)) (items.all valid) := by
  have check : ∀ depth, validator.keywordCheck schema (.list items) depth
      (.str "items", .dict inner)
      = Checked.each (fun pair => (validator.scope schema depth).part (.index pair.1) (.dict inner)
        pair.2) (Applicator.numbered 0 items) := by
    intro depth
    rw [keywordCheck_of_some isDraft7 rfl]
    rfl
  simp only [check]
  rw [← all_numbered]
  exact Settles.each fun pair member =>
    settles_part keeps (each pair.2 (mem_of_mem_numbered member))

theorem map_numbered_zip {α : Type} (start : Nat) (items : List Value) (others : List α) :
    ((Applicator.numbered start items).zip others).map (fun pair => (pair.1.2, pair.2))
      = items.zip others := by
  induction items generalizing start others with
  | nil => rfl
  | cons item rest ih =>
    cases others with
    | nil => rfl
    | cons other behind => exact congrArg _ (ih (start + 1) behind)

/-- A schema for each item of a list is for the one in its place. -/
theorem keywordCheck_itemsByPlace (isDraft7 : validator.dialect = .draft7) {items : List Value}
    {inners : List Node} {depth : Nat}
    (ends : ∀ inner ∈ inners, (Value.dict inner).isEndless = false) :
    validator.keywordCheck schema (.list items) depth (.str "items", .list (inners.map .dict))
      = Checked.each (fun pair => (validator.scope schema depth).part (.index pair.1.1)
          (.dict pair.2) pair.1.2) ((Applicator.numbered 0 items).zip inners) := by
  have endsAll : (Value.list (inners.map .dict)).isEndless = false := by
    refine Value.isEndless_list.mpr fun item member => ?_
    obtain ⟨inner, inside, rfl⟩ := List.mem_map.mp member
    exact ends inner inside
  rw [keywordCheck_of_some isDraft7 rfl]
  change Applicator.itemsByPlace _ (.list items) (.list (inners.map .dict)) = _
  unfold Applicator.itemsByPlace
  rw [Value.parts_list endsAll]
  change Checked.each _ ((Applicator.numbered 0 items).zip (inners.map Value.dict)) = _
  rw [List.zip_map_right, each_map]
  rfl

theorem settles_itemsByPlace (isDraft7 : validator.dialect = .draft7) {items : List Value}
    {inners : List Node} {valid : Node → Value → Bool}
    (ends : ∀ inner ∈ inners, (Value.dict inner).isEndless = false)
    (keeps : ∀ inner ∈ inners, validator.Keeps (.dict inner))
    (each : ∀ pair ∈ items.zip inners,
      Settles (validator.judged (.dict pair.2) pair.1) (valid pair.2 pair.1)) :
    Settles (fun depth => validator.keywordCheck schema (.list items) depth
      (.str "items", .list (inners.map .dict)))
      ((items.zip inners).all fun pair => valid pair.2 pair.1) := by
  simp only [keywordCheck_itemsByPlace isDraft7 ends]
  rw [← map_numbered_zip 0, List.all_map]
  refine Settles.each fun pair member => settles_part (keeps _ (List.of_mem_zip member).2) ?_
  refine each (pair.1.2, pair.2) ?_
  rw [← map_numbered_zip 0]
  exact List.mem_map_of_mem member

/-! ### Properties -/

/-- The schemas of properties are for those that an object has. -/
theorem keywordCheck_properties (isDraft7 : validator.dialect = .draft7) {entries schemas : Node}
    {depth : Nat} (ends : (Value.dict schemas).isEndless = false) :
    validator.keywordCheck schema (.dict entries) depth (.str "properties", .dict schemas)
      = Checked.each (fun (key, inner) =>
        match key.text?, Value.assoc? key entries with
        | some name, some part => (validator.scope schema depth).part (.key name) inner part
        | _, _ => .clean) schemas := by
  rw [keywordCheck_of_some isDraft7 rfl]
  change Applicator.properties _ (.dict entries) (.dict schemas) = _
  unfold Applicator.properties
  dsimp only
  rw [Value.partEntries_dict ends]
  rfl

theorem settles_properties (isDraft7 : validator.dialect = .draft7) {entries schemas : Node}
    {valid : Value → Value → Bool} (ends : (Value.dict schemas).isEndless = false)
    (each : ∀ entry ∈ schemas, ∃ name inner, entry = (.str name, .dict inner)
      ∧ validator.Keeps (.dict inner)
      ∧ ∀ part, entries.get? name = some part →
        Settles (validator.judged (.dict inner) part) (valid (.dict inner) part)) :
    Settles (fun depth => validator.keywordCheck schema (.dict entries) depth
        (.str "properties", .dict schemas))
      (schemas.all fun entry =>
        ((entry.1.text?.bind (entries.get? ·)).map (valid entry.2)).getD true) := by
  simp only [keywordCheck_properties isDraft7 ends]
  refine Settles.each fun entry member => ?_
  obtain ⟨name, inner, rfl, keeps, settles⟩ := each entry member
  dsimp only
  rw [Value.text?_str, Option.bind_some]
  change Settles (fun depth => match some name, entries.get? name with
    | some name, some part =>
      (validator.scope schema depth).part (.key name) (.dict inner) part
    | _, _ => .clean) _
  cases found : entries.get? name with
  | none => exact .clean
  | some part => exact settles_part keeps (settles part found)

/-- The keys of an object that are texts can be looked up. -/
theorem hasPart_of_text {table : ClassTable} {entries : Node} {key : Value} {name : String}
    (isText : key.text? = some name) :
    (Value.dict entries).hasPart table key = .ok (Value.assoc? key entries).isSome := by
  have noContainer : key.changeable? = none := by
    cases key <;> simp_all [Value.text?, Value.changeable?]
  unfold Value.hasPart Value.asKey
  dsimp only
  rw [noContainer]
  rfl

theorem text?_of_mem_keyed {triple : Value × String × Value}
    (member : triple ∈ keyed value) : triple.1.text? = some triple.2.1 := by
  unfold keyed at member
  split at member
  · obtain ⟨⟨key, part⟩, -, found⟩ := List.mem_filterMap.mp member
    obtain ⟨name, isText, rfl⟩ := Option.map_eq_some_iff.mp found
    exact isText
  · exact absurd member List.not_mem_nil

theorem mem_of_mem_keyed {entries : Node} {triple : Value × String × Value}
    (member : triple ∈ keyed (.dict entries)) : (triple.1, triple.2.2) ∈ entries := by
  obtain ⟨entry, inside, made⟩ := List.mem_filterMap.mp member
  obtain ⟨name, -, rfl⟩ := Option.map_eq_some_iff.mp made
  exact inside

/-- The properties that a schema without patterns does not name. -/
theorem extras_eq {depth : Nat} (ends : (Value.dict node).isEndless = false) {named : Node}
    (isNamed : (node.get? "properties").getD (.dict []) = .dict named)
    (noPatterns : node.get? "patternProperties" = none) :
    Applicator.extras (validator.scope (.dict node) depth) value
      = .ok ((keyed value).filter fun triple => (Value.assoc? triple.1 named).isNone) := by
  have properties : (validator.scope (.dict node) depth).argument? "properties"
      = .ok (node.get? "properties") := Value.partNamed?_dict ends
  have patterns : (validator.scope (.dict node) depth).argument? "patternProperties"
      = .ok none := (Value.partNamed?_dict ends).trans (congrArg Except.ok noPatterns)
  unfold Applicator.extras
  rw [properties, patterns]
  refine filterM_ok fun triple member => ?_
  obtain ⟨key, name, part⟩ := triple
  have isText : key.text? = some name := text?_of_mem_keyed member
  dsimp only
  change (do
    if ← ((node.get? "properties").getD (.dict [])).hasPart validator.table key then return false
    else return true) = _
  rw [isNamed, hasPart_of_text isText]
  cases Value.assoc? key named <;> rfl

/-- One schema for all properties. -/
theorem settles_additional (isDraft7 : validator.dialect = .draft7) {entries inner : Node}
    {valid : Value → Bool} (ends : (Value.dict node).isEndless = false)
    (noProperties : node.get? "properties" = none)
    (noPatterns : node.get? "patternProperties" = none) (keeps : validator.Keeps (.dict inner))
    (each : ∀ triple ∈ keyed (.dict entries),
      Settles (validator.judged (.dict inner) triple.2.2) (valid triple.2.2)) :
    Settles (fun depth => validator.keywordCheck (.dict node) (.dict entries) depth
        (.str "additionalProperties", .dict inner))
      ((keyed (.dict entries)).all fun triple => valid triple.2.2) := by
  have isNamed : (node.get? "properties").getD (.dict []) = .dict [] := by rw [noProperties]; rfl
  have all : ((keyed (.dict entries)).filter fun triple => (Value.assoc? triple.1 []).isNone)
      = keyed (.dict entries) := List.filter_eq_self.mpr fun _ _ => rfl
  have check : ∀ depth, validator.keywordCheck (.dict node) (.dict entries) depth
      (.str "additionalProperties", .dict inner)
      = Checked.each (fun triple => (validator.scope (.dict node) depth).part (.key triple.2.1)
          (.dict inner) triple.2.2) (keyed (.dict entries)) := by
    intro depth
    rw [keywordCheck_of_some isDraft7 rfl]
    change Applicator.additionalProperties _ (.dict entries) (.dict inner) = _
    unfold Applicator.additionalProperties
    rw [extras_eq ends isNamed noPatterns, all]
    rfl
  simp only [check]
  exact Settles.each fun triple member => settles_part keeps (each triple member)

/-- No property but those that have schemas. -/
theorem settles_noAdditional (isDraft7 : validator.dialect = .draft7) {entries named : Node}
    (ends : (Value.dict node).isEndless = false)
    (properties : node.get? "properties" = some (.dict named))
    (noPatterns : node.get? "patternProperties" = none) :
    Settles (fun depth => validator.keywordCheck (.dict node) (.dict entries) depth
        (.str "additionalProperties", .bool false))
      ((keyed (.dict entries)).all fun triple => (Value.assoc? triple.1 named).isSome) := by
  have isNamed : (node.get? "properties").getD (.dict []) = .dict named := by rw [properties]; rfl
  have patterns : ∀ depth, (validator.scope (.dict node) depth).argument? "patternProperties"
      = .ok none := fun depth =>
    (Value.partNamed?_dict ends).trans (congrArg Except.ok noPatterns)
  have isEmpty : ((keyed (.dict entries)).filter fun triple =>
      (Value.assoc? triple.1 named).isNone).isEmpty
      = (keyed (.dict entries)).all fun triple => (Value.assoc? triple.1 named).isSome := by
    rw [Bool.eq_iff_iff, List.isEmpty_iff, List.filter_eq_nil_iff, List.all_eq_true]
    refine forall₂_congr fun triple _ => ?_
    rw [Bool.not_eq_true, Option.isNone_eq_false_iff]
  refine .reporting (.unexpectedProperties (Applicator.byText
    (((keyed (.dict entries)).filter fun triple => (Value.assoc? triple.1 named).isNone).map
      fun triple => (triple.1, triple.2.1)))) fun depth => ?_
  rw [keywordCheck_of_some isDraft7 rfl]
  change Applicator.additionalProperties _ (.dict entries) (.bool false) = _
  unfold Applicator.additionalProperties
  rw [extras_eq ends isNamed noPatterns]
  dsimp only [Checked.after]
  change (if (Value.bool false).isTruthy || _ then Checked.clean else _) = _
  unfold Applicator.reportExtras
  rw [patterns, isEmpty]
  cases (keyed (.dict entries)).all fun triple => (Value.assoc? triple.1 named).isSome with
  | true => rfl
  | false => rfl

/-! ### Choices -/

theorem scope_below_eq {inner : Node} {depth : Nat} (keeps : validator.Keeps (.dict inner)) :
    (validator.scope schema depth).below (.dict inner) value
      = validator.judged (.dict inner) value depth :=
  below_eq keeps

theorem isNone_firstValid {valid : Value → Bool} :
    ∀ {schemas : List Value}, (firstValid valid schemas).isNone = !schemas.any valid
  | [] => rfl
  | schema :: rest => by
    rw [firstValid, List.any_cons]
    cases valid schema with
    | true => rfl
    | false => exact isNone_firstValid

/-- Some schema of a list admits the value. -/
theorem settles_anyOf (isDraft7 : validator.dialect = .draft7) {inners : List Node}
    {valid : Value → Bool} (ends : ∀ inner ∈ inners, (Value.dict inner).isEndless = false)
    (keeps : ∀ inner ∈ inners, validator.Keeps (.dict inner))
    (each : ∀ inner ∈ inners,
      Settles (validator.judged (.dict inner) value) (valid (.dict inner))) :
    Settles (fun depth => validator.keywordCheck schema value depth
      (.str "anyOf", .list (inners.map .dict))) ((inners.map Value.dict).any valid) := by
  have endsAll : (Value.list (inners.map .dict)).isEndless = false := by
    refine Value.isEndless_list.mpr fun item member => ?_
    obtain ⟨inner, inside, rfl⟩ := List.mem_map.mp member
    exact ends inner inside
  have fitting : Resolves (fun depth => Applicator.firstFitting (validator.scope schema depth) value
      (inners.map .dict)) (firstValid valid (inners.map .dict)) := by
    refine resolves_firstFitting fun inner member => ?_
    obtain ⟨inner, inside, rfl⟩ := List.mem_map.mp member
    simp only [scope_below_eq (keeps inner inside)]
    exact each inner inside
  have check : ∀ depth, validator.keywordCheck schema value depth
      (.str "anyOf", .list (inners.map .dict))
      = .after (Applicator.firstFitting (validator.scope schema depth) value (inners.map .dict))
        fun fitting => .oneIf fitting.isNone (.noAlternative value) := by
    intro depth
    rw [keywordCheck_of_some isDraft7 rfl]
    change Applicator.anyOf _ value (.list (inners.map .dict)) = _
    unfold Applicator.anyOf
    rw [Value.parts_list endsAll]
    rfl
  simp only [check]
  refine Settles.after fitting ?_
  rw [isNone_firstValid]
  exact .reporting _ fun _ => rfl

/-- The schemas that admit the value are the first one, and those behind it that do. -/
theorem filter_eq_of_firstValid {valid : Value → Bool} :
    ∀ {schemas : List Value},
      match firstValid valid schemas with
      | none => schemas.filter valid = []
      | some (first, rest) => schemas.filter valid = first :: rest.filter valid ∧ rest ⊆ schemas
  | [] => rfl
  | schema :: rest => by
    have later : match firstValid valid rest with
        | none => rest.filter valid = []
        | some (first, others) => rest.filter valid = first :: others.filter valid
          ∧ others ⊆ rest := filter_eq_of_firstValid
    rw [firstValid, List.filter_cons]
    cases valid schema with
    | true => exact ⟨rfl, List.subset_cons_self ..⟩
    | false =>
      rw [if_neg Bool.false_ne_true, if_neg Bool.false_ne_true]
      cases found : firstValid valid rest with
      | none =>
        rw [found] at later
        exact later
      | some pair =>
        rw [found] at later
        exact ⟨later.1, fun s member => List.mem_cons_of_mem _ (later.2 member)⟩

/-- Exactly one schema of a list admits the value. -/
theorem settles_oneOf (isDraft7 : validator.dialect = .draft7) {inners : List Node}
    {valid : Value → Bool} (ends : ∀ inner ∈ inners, (Value.dict inner).isEndless = false)
    (keeps : ∀ inner ∈ inners, validator.Keeps (.dict inner))
    (each : ∀ inner ∈ inners,
      Settles (validator.judged (.dict inner) value) (valid (.dict inner))) :
    Settles (fun depth => validator.keywordCheck schema value depth
      (.str "oneOf", .list (inners.map .dict))) (((inners.map Value.dict).filter valid).length == 1) := by
  have endsAll : (Value.list (inners.map .dict)).isEndless = false := by
    refine Value.isEndless_list.mpr fun item member => ?_
    obtain ⟨inner, inside, rfl⟩ := List.mem_map.mp member
    exact ends inner inside
  have fitting : Resolves (fun depth => Applicator.firstFitting (validator.scope schema depth) value
      (inners.map .dict)) (firstValid valid (inners.map .dict)) := by
    refine resolves_firstFitting fun inner member => ?_
    obtain ⟨inner, inside, rfl⟩ := List.mem_map.mp member
    simp only [scope_below_eq (keeps inner inside)]
    exact each inner inside
  have admits : ∀ inner ∈ inners.map Value.dict,
      Resolves (fun depth => (validator.scope schema depth).admits inner value) (valid inner) := by
    intro inner member
    obtain ⟨inner, inside, rfl⟩ := List.mem_map.mp member
    have clean := (each inner inside).isClean
    simp only [← alone_eq (keeps inner inside)] at clean
    exact clean
  have check : ∀ depth, validator.keywordCheck schema value depth
      (.str "oneOf", .list (inners.map .dict))
      = .after (Applicator.firstFitting (validator.scope schema depth) value (inners.map .dict))
        fun fitting =>
          match fitting with
          | none => .one (.noAlternative value)
          | some (first, rest) =>
            .after (rest.filterM fun inner => (validator.scope schema depth).admits inner value)
              fun more =>
                .oneIf (!more.isEmpty) (.severalAlternatives value (more ++ [first])) := by
    intro depth
    rw [keywordCheck_of_some isDraft7 rfl]
    change Applicator.oneOf _ value (.list (inners.map .dict)) = _
    unfold Applicator.oneOf
    rw [Value.parts_list endsAll]
    rfl
  simp only [check]
  refine Settles.after fitting ?_
  have filtered : match firstValid valid (inners.map Value.dict) with
      | none => (inners.map Value.dict).filter valid = []
      | some (first, rest) => (inners.map Value.dict).filter valid = first :: rest.filter valid
        ∧ rest ⊆ inners.map Value.dict := filter_eq_of_firstValid
  cases found : firstValid valid (inners.map .dict) with
  | none =>
    rw [found] at filtered
    rw [filtered]
    exact .one _
  | some pair =>
    obtain ⟨first, rest⟩ := pair
    rw [found] at filtered
    rw [filtered.1]
    refine Settles.after (resolves_filterM fun inner member => admits inner (filtered.2 member)) ?_
    refine .reporting (.severalAlternatives value (rest.filter valid ++ [first])) fun _ => ?_
    cases rest.filter valid <;> rfl

end ModelSchema.Validator
