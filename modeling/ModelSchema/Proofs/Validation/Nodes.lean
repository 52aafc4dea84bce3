import ModelSchema.Proofs.Validation.Remarks

/-!
How the schemas of classes judge.

A schema decides on a value when its check settles, and its answer is then the one of the check. The
answers of the schemas that annotations have are given in terms of those of the schemas inside.

* `Validator.Decides`, `Validator.answer`: whether a schema comes to an answer, and to which.
* `settles_leaf`, `settles_array`, `settles_fixedArray`, `settles_map`: schemas of one type.
* `settles_alternatives`, `settles_branches`: choices between schemas.
* `settles_enumeration`: enumerations, which ask for one of the values that they list, and for the
  type that all of these have.
-/

namespace ModelSchema

/-- Whether a node is read where it is seen: nothing in it holds itself, and it has no dialect and no
name of its own. -/
structure Node.IsInner (node : Node) : Prop where
  ends : (Value.dict node).isEndless = false
  noDialect : node.get? "$schema" = none
  noId : node.get? "$id" = none

theorem Node.IsUsual.isInner {node : Node} (usual : node.IsUsual)
    (ends : (Value.dict node).isEndless = false) : node.IsInner :=
  ⟨ends, usual.get?_eq_none (by decide), usual.get?_eq_none (by decide)⟩

theorem isEndless_nodes {inners : List Node} (isInner : ∀ inner ∈ inners, inner.IsInner) :
    (Value.list (inners.map .dict)).isEndless = false := by
  refine Value.isEndless_list.mpr fun item member => ?_
  obtain ⟨inner, inside, rfl⟩ := List.mem_map.mp member
  exact (isInner inner inside).ends

section

variable {values : List Value}

/-- Values have a type in common when they are all of one kind. -/
theorem commonType?_eq_some {name : String} (found : commonType? values = some name) :
    (name = "boolean" ∧ values.all isTruth = true) ∨ (name = "string" ∧ values.all isText = true)
      ∨ (name = "integer" ∧ values.all isInteger = true)
      ∨ (name = "number" ∧ values.all isNumber = true) := by
  unfold commonType? at found
  split at found
  next all => exact .inl ⟨(Option.some.inj found).symm, all⟩
  split at found
  next all => exact .inr (.inl ⟨(Option.some.inj found).symm, all⟩)
  split at found
  next all => exact .inr (.inr (.inl ⟨(Option.some.inj found).symm, all⟩))
  split at found
  next all => exact .inr (.inr (.inr ⟨(Option.some.inj found).symm, all⟩))
  next => cases found

/-- Such a type is one of JSON. -/
theorem exists_commonType {name : String} (found : commonType? values = some name) :
    ∃ type, JsonType.ofName? .draft7 name = some type := by
  rcases commonType?_eq_some found with ⟨rfl, -⟩ | ⟨rfl, -⟩ | ⟨rfl, -⟩ | ⟨rfl, -⟩ <;>
    exact ⟨_, rfl⟩

theorem isInner_enumeration (ends : ∀ value ∈ values, value.isEndless = false) :
    (enumerationNode values).IsInner := by
  have endsAll : (Value.list values).isEndless = false := Value.isEndless_list.mpr ends
  unfold enumerationNode
  cases commonType? values <;> exact ⟨by simp [Node.single, endsAll], by simp, by simp⟩

/-- Whether a value has the type that all of some values have. -/
def hasCommonType (values : List Value) (value : Value) : Bool :=
  (commonType? values).all fun name =>
    (JsonType.ofName? .draft7 name).any fun type => type.holds .draft7 value

end

namespace Validator

variable {validator : Validator} {node inner : Node} {inners : List Node} {schema value : Value}
  {valid : Bool}

theorem keeps_of_isInner (isDraft7 : validator.dialect = .draft7) (isInner : node.IsInner) :
    validator.Keeps (.dict node) :=
  keeps_of_none isDraft7 isInner.ends isInner.noDialect isInner.noId

/-! ### Answers -/

/-- Whether the check of a value by a schema comes to an answer. -/
def Decides (validator : Validator) (schema value : Value) : Prop :=
  ∃ valid, Settles (validator.judged schema value) valid

/-- The answer that the check of a value by a schema comes to. -/
noncomputable def answer (validator : Validator) (schema value : Value) : Bool :=
  settled (validator.judged schema value)

theorem answer_eq (settles : Settles (validator.judged schema value) valid) :
    validator.answer schema value = valid :=
  settles.settled_eq

theorem Decides.settles (decides : validator.Decides schema value) :
    Settles (validator.judged schema value) (validator.answer schema value) := by
  obtain ⟨valid, settles⟩ := decides
  rwa [answer_eq settles]

/-- The answer of a schema is the conjunction of those of its keywords. -/
theorem settles_entries (isDraft7 : validator.dialect = .draft7)
    (ends : (Value.dict node).isEndless = false) (noReference : node.get? "$ref" = none)
    {valids : List Bool}
    (each : List.Forall₂ (fun entry valid =>
      Settles (fun depth => validator.keywordCheck (.dict node) value depth entry) valid)
      node valids) :
    Settles (validator.judged (.dict node) value) (valids.all id) := by
  let answers : Value × Value → Bool := fun entry =>
    settled fun depth => validator.keywordCheck (.dict node) value depth entry
  have all : ∀ {entries valids}, List.Forall₂ (fun entry valid => Settles (fun depth =>
      validator.keywordCheck (.dict node) value depth entry) valid) entries valids →
      (∀ entry ∈ entries, Settles (fun depth =>
        validator.keywordCheck (.dict node) value depth entry) (answers entry))
      ∧ entries.all answers = valids.all id := by
    intro entries valids each
    induction each with
    | nil => exact ⟨fun _ member => absurd member List.not_mem_nil, rfl⟩
    | @cons entry valid _ _ settles _ ih =>
      have here : answers entry = valid := settles.settled_eq
      refine ⟨fun other member => ?_, ?_⟩
      · rcases List.mem_cons.mp member with rfl | later
        · rwa [here]
        · exact ih.1 other later
      · rw [List.all_cons, List.all_cons, here, ih.2]
        rfl
  rw [← (all each).2]
  exact settles_judged (by rw [isDraft7]; rfl) ends noReference (all each).1

/-- A schema without keywords admits everything. -/
theorem settles_nil (isDraft7 : validator.dialect = .draft7) :
    Settles (validator.judged (.dict []) value) true :=
  settles_entries isDraft7 rfl rfl .nil

/-! ### Schemas of one type -/

/-- The schema of a leaf asks for its type. -/
theorem settles_leaf (isDraft7 : validator.dialect = .draft7) {leaf : LeafFormat} {type : JsonType}
    (isType : JsonType.ofName? .draft7 leaf.type = some type) :
    Settles (validator.judged (.dict leaf.node) value) (type.holds .draft7 value) := by
  obtain ⟨name, format⟩ := leaf
  cases format with
  | none =>
    have all : [type.holds .draft7 value].all id = type.holds .draft7 value := by simp
    rw [← all]
    refine settles_entries isDraft7 rfl (by simp [LeafFormat.node]) ?_
    exact .cons (settles_type isDraft7 isType) .nil
  | some format =>
    have all : [type.holds .draft7 value, true].all id = type.holds .draft7 value := by simp
    rw [← all]
    refine settles_entries isDraft7 rfl (by simp [LeafFormat.node]) ?_
    exact .cons (settles_type isDraft7 isType) (.cons (settles_ignored isDraft7 rfl) .nil)

/-- A type on its own asks for that type. -/
theorem settles_typeName (isDraft7 : validator.dialect = .draft7) {name : String} {type : JsonType}
    (isType : JsonType.ofName? .draft7 name = some type) :
    Settles (validator.judged (.dict (Node.single "type" (.str name))) value)
      (type.holds .draft7 value) := by
  have settles : Settles (validator.judged (.dict (Node.single "type" (.str name))) value)
      ([type.holds .draft7 value].all id) :=
    settles_entries isDraft7 rfl (by simp) (.cons (settles_type isDraft7 isType) .nil)
  simpa using settles

/-- Whether the keywords of a node are about values of one type, or ask for nothing. -/
def IsAbout (type : JsonType) (node : Node) : Prop :=
  ∀ entry ∈ node, ∃ name argument, entry = (.str name, argument)
    ∧ (Keyword.ofName? .draft7 name = none
      ∨ ∃ keyword, Keyword.ofName? .draft7 name = some keyword ∧ (keyword, type) ∈ aboutType)

/-- A schema of one type rejects all values of other types. -/
theorem settles_wrongType (isDraft7 : validator.dialect = .draft7) {name : String}
    {type : JsonType} (isType : JsonType.ofName? .draft7 name = some type)
    (ends : (Value.dict ((.str "type", .str name) :: node)).isEndless = false)
    (noReference : node.get? "$ref" = none) (isAbout : IsAbout type node)
    (other : type.holds .draft7 value = false) :
    Settles (validator.judged (.dict ((.str "type", .str name) :: node)) value) false := by
  have rest : List.Forall₂ (fun entry valid => Settles (fun depth => validator.keywordCheck
      (.dict ((.str "type", .str name) :: node)) value depth entry) valid)
      node (node.map fun _ => true) := by
    rw [List.forall₂_map_right_iff, List.forall₂_same]
    intro entry member
    obtain ⟨key, argument, rfl, noKeyword | ⟨keyword, isKeyword, about⟩⟩ := isAbout entry member
    · exact settles_ignored isDraft7 noKeyword
    · exact settles_of_other isDraft7 isKeyword about other
  have first : Settles (fun depth => validator.keywordCheck
      (.dict ((.str "type", .str name) :: node)) value depth (.str "type", .str name))
      (type.holds .draft7 value) := settles_type isDraft7 isType
  rw [other] at first
  have settles := settles_entries isDraft7 ends (by simpa using noReference) (.cons first rest)
  simpa using settles

/-! ### Arrays -/

theorem exists_of_isArray (isArray : JsonType.array.holds .draft7 value = true) :
    ∃ items, value = .list items := by
  cases value with
  | collection kind items =>
    cases kind with
    | list => exact ⟨items, rfl⟩
    | _ => cases isArray
  | _ => cases isArray

theorem exists_of_isObject (isObject : JsonType.object.holds .draft7 value = true) :
    ∃ entries, value = .dict entries := by
  cases value with
  | dict entries => exact ⟨entries, rfl⟩
  | _ => cases isObject

/-- The schema of an array asks for all items of a list. -/
theorem settles_array (isDraft7 : validator.dialect = .draft7) (isInner : inner.IsInner)
    {items : List Value} (decides : ∀ item ∈ items, validator.Decides (.dict inner) item) :
    Settles (validator.judged (.dict (arrayNode inner false)) (.list items))
      (items.all (validator.answer (.dict inner))) := by
  have ends : (Value.dict (arrayNode inner false)).isEndless = false := by
    simp [arrayNode, isInner.ends]
  have all : [true, items.all (validator.answer (.dict inner))].all id
      = items.all (validator.answer (.dict inner)) := by simp
  rw [← all]
  refine settles_entries isDraft7 ends (by simp [arrayNode]) (.cons ?_ (.cons ?_ .nil))
  · exact settles_type isDraft7 (show JsonType.ofName? .draft7 "array" = some .array from rfl)
  · exact settles_items isDraft7 (keeps_of_isInner isDraft7 isInner)
      fun item member => (decides item member).settles

theorem isEndless_array {unique : Bool} (isInner : inner.IsInner) :
    (Value.dict (arrayNode inner unique)).isEndless = false := by
  cases unique <;> simp [arrayNode, Node.single, isInner.ends]

/-- Any other value is rejected. -/
theorem settles_array_of_other (isDraft7 : validator.dialect = .draft7) (isInner : inner.IsInner)
    {unique : Bool} (other : JsonType.array.holds .draft7 value = false) :
    Settles (validator.judged (.dict (arrayNode inner unique)) value) false := by
  refine settles_wrongType isDraft7 (show JsonType.ofName? .draft7 "array" = some .array from rfl)
    (isEndless_array isInner) (by cases unique <;> simp [Node.single]) ?_ other
  intro entry member
  rcases List.mem_cons.mp member with rfl | member
  · exact ⟨_, _, rfl, .inr ⟨.itemsByType, rfl, by decide⟩⟩
  · cases unique with
    | false => exact absurd member List.not_mem_nil
    | true =>
      cases List.mem_singleton.mp member
      exact ⟨_, _, rfl, .inr ⟨.uniqueItems, rfl, by decide⟩⟩

/-- The schema of an array with a schema for each item asks for the number of items as well. -/
theorem settles_fixedArray (isDraft7 : validator.dialect = .draft7)
    (isInner : ∀ inner ∈ inners, inner.IsInner) {items : List Value}
    (decides : ∀ pair ∈ items.zip inners, validator.Decides (.dict pair.2) pair.1) :
    Settles (validator.judged (.dict (fixedArrayNode inners)) (.list items))
      (items.length == inners.length
        && (items.zip inners).all fun pair => validator.answer (.dict pair.2) pair.1) := by
  have ends : (Value.dict (fixedArrayNode inners)).isEndless = false := by
    have behind := isEndless_nodes isInner
    simp [fixedArrayNode, behind]
  have all : [true, (items.zip inners).all fun pair => validator.answer (.dict pair.2) pair.1,
      decide (inners.length ≤ items.length), decide (items.length ≤ inners.length)].all id
      = (items.length == inners.length
        && (items.zip inners).all fun pair => validator.answer (.dict pair.2) pair.1) := by
    have sizes : (decide (inners.length ≤ items.length) && decide (items.length ≤ inners.length))
        = (items.length == inners.length) := by
      rw [Bool.eq_iff_iff, Bool.and_eq_true, decide_eq_true_eq, decide_eq_true_eq, beq_iff_eq]
      omega
    simp only [List.all_cons, List.all_nil, id, Bool.true_and, Bool.and_true]
    rw [sizes, Bool.and_comm]
  have keeps : ∀ inner ∈ inners, validator.Keeps (.dict inner) :=
    fun inner member => keeps_of_isInner isDraft7 (isInner inner member)
  rw [← all]
  refine settles_entries isDraft7 ends (by simp [fixedArrayNode])
    (.cons ?_ (.cons ?_ (.cons ?_ (.cons ?_ .nil))))
  · exact settles_type isDraft7 (show JsonType.ofName? .draft7 "array" = some .array from rfl)
  · let valid : Node → Value → Bool := fun inner item => validator.answer (.dict inner) item
    have each : ∀ pair ∈ items.zip inners,
        Settles (validator.judged (.dict pair.2) pair.1) (valid pair.2 pair.1) :=
      fun pair member => (decides pair member).settles
    exact settles_itemsByPlace isDraft7 (fun inner member => (isInner inner member).ends) keeps each
  · exact settles_minItems isDraft7
  · exact settles_maxItems isDraft7

theorem settles_fixedArray_of_other (isDraft7 : validator.dialect = .draft7)
    (isInner : ∀ inner ∈ inners, inner.IsInner)
    (other : JsonType.array.holds .draft7 value = false) :
    Settles (validator.judged (.dict (fixedArrayNode inners)) value) false := by
  have behind := isEndless_nodes isInner
  refine settles_wrongType isDraft7 (show JsonType.ofName? .draft7 "array" = some .array from rfl)
    (by simp [behind]) (by simp) ?_ other
  intro entry member
  simp only [List.mem_cons, List.not_mem_nil, or_false] at member
  rcases member with rfl | rfl | rfl
  · exact ⟨_, _, rfl, .inr ⟨.itemsByType, rfl, by decide⟩⟩
  · exact ⟨_, _, rfl, .inr ⟨.minItems, rfl, by decide⟩⟩
  · exact ⟨_, _, rfl, .inr ⟨.maxItems, rfl, by decide⟩⟩

/-! ### Objects -/

/-- The schema of a map asks for the values behind all keys. -/
theorem settles_map (isDraft7 : validator.dialect = .draft7) (isInner : inner.IsInner)
    {entries : Node}
    (decides : ∀ triple ∈ keyed (.dict entries), validator.Decides (.dict inner) triple.2.2) :
    Settles (validator.judged (.dict (mapNode inner)) (.dict entries))
      ((keyed (.dict entries)).all fun triple => validator.answer (.dict inner) triple.2.2) := by
  have ends : (Value.dict (mapNode inner)).isEndless = false := by simp [mapNode, isInner.ends]
  have all : [true, (keyed (.dict entries)).all fun triple =>
      validator.answer (.dict inner) triple.2.2].all id
      = (keyed (.dict entries)).all fun triple => validator.answer (.dict inner) triple.2.2 := by
    simp
  rw [← all]
  refine settles_entries isDraft7 ends (by simp [mapNode]) (.cons ?_ (.cons ?_ .nil))
  · exact settles_type isDraft7 (show JsonType.ofName? .draft7 "object" = some .object from rfl)
  · exact settles_additional isDraft7 ends (by simp [mapNode]) (by simp [mapNode])
      (keeps_of_isInner isDraft7 isInner) fun triple member => (decides triple member).settles

theorem settles_map_of_other (isDraft7 : validator.dialect = .draft7) (isInner : inner.IsInner)
    (other : JsonType.object.holds .draft7 value = false) :
    Settles (validator.judged (.dict (mapNode inner)) value) false := by
  refine settles_wrongType isDraft7 (show JsonType.ofName? .draft7 "object" = some .object from rfl)
    (by simp [isInner.ends]) (by simp) ?_ other
  intro entry member
  cases List.mem_singleton.mp member
  exact ⟨_, _, rfl, .inr ⟨.additionalProperties, rfl, by decide⟩⟩

/-- The node of an object with the properties in a table, some of them required, and no others. -/
def closedNode (table : Node) (required : List String) : Node :=
  [(.str "type", .str "object"), (.str "additionalProperties", .bool false),
    (.str "properties", .dict table)]
    ++ if required.isEmpty then [] else Node.single "required" (.strings required)

/-- What the schema of an object without other properties asks for. -/
def closedAnswer (valid : Value → Value → Bool) (table : Node) (required : List String)
    (entries : Node) : Bool :=
  ((keyed (.dict entries)).all fun triple => (Value.assoc? triple.1 table).isSome)
    && (table.all fun entry => ((entry.1.text?.bind (entries.get? ·)).map (valid entry.2)).getD true)
    && required.all fun name => (entries.get? name).isSome

/-- An object has what is asked for when its keys are those of properties, its values fit, and no
property is missing. -/
theorem closedAnswer_eq_true {valid : Value → Value → Bool} {parts fields : List (String × Value)}
    {required : List String} (known : ∀ field ∈ fields, field.1 ∈ parts.map (·.1))
    (fits : ∀ part ∈ parts, ∀ value, (Node.ofFields fields).get? part.1 = some value →
      valid part.2 value = true)
    (present : ∀ name ∈ required, name ∈ fields.map (·.1)) :
    closedAnswer valid (Node.ofFields parts) required (Node.ofFields fields) = true := by
  have isSome : ∀ {all : List (String × Value)} {name}, name ∈ all.map (·.1) →
      ((Node.ofFields all).get? name).isSome = true := by
    intro all name inside
    rw [Option.isSome_iff_ne_none]
    exact fun absent => Node.get?_ofFields_eq_none.mp absent inside
  unfold closedAnswer
  rw [Bool.and_eq_true, Bool.and_eq_true]
  refine ⟨⟨List.all_eq_true.mpr fun triple member => ?_, List.all_eq_true.mpr fun entry member => ?_⟩,
    List.all_eq_true.mpr fun name member => isSome (present name member)⟩
  · obtain ⟨entry, inside, made⟩ := List.mem_filterMap.mp member
    obtain ⟨field, isField, rfl⟩ := List.mem_map.mp inside
    cases made
    exact isSome (known field isField)
  · obtain ⟨part, inside, rfl⟩ := List.mem_map.mp member
    change (((Node.ofFields fields).get? part.1).map (valid part.2)).getD true = true
    cases found : (Node.ofFields fields).get? part.1 with
    | none => rfl
    | some value => exact fits part inside value found

/-- One value that does not fit is enough for an object not to have what is asked for. -/
theorem closedAnswer_eq_false {valid : Value → Value → Bool} {parts : List (String × Value)}
    {required : List String} {entries : Node} {part : String × Value} (member : part ∈ parts)
    (found : entries.get? part.1 = some value) (rejected : valid part.2 value = false) :
    closedAnswer valid (Node.ofFields parts) required entries = false := by
  have fitting : (Node.ofFields parts).all (fun entry =>
      ((entry.1.text?.bind (entries.get? ·)).map (valid entry.2)).getD true) = false := by
    refine List.all_eq_false.mpr ⟨_, List.mem_map_of_mem member, ?_⟩
    change ¬ ((entries.get? part.1).map (valid part.2)).getD true = true
    rw [found, Option.map_some, rejected]
    exact Bool.false_ne_true
  unfold closedAnswer
  rw [fitting, Bool.and_false, Bool.false_and]

theorem isEndless_closedNode {table : Node} {required : List String}
    (ends : (Value.dict table).isEndless = false) :
    (Value.dict (closedNode table required)).isEndless = false := by
  unfold closedNode
  split <;> simp [ends, Node.single]

theorem get?_closedNode {table : Node} {required : List String} {keyword : String}
    (notRequired : "required" ≠ keyword) :
    (closedNode table required).get? keyword
      = if "type" = keyword then some (.str "object")
        else if "additionalProperties" = keyword then some (.bool false)
        else if "properties" = keyword then some (.dict table)
        else none := by
  have rest : Node.get? (if required.isEmpty = true then []
      else Node.single "required" (.strings required)) keyword = none := by
    split
    · rfl
    · rw [Node.get?_single, if_neg notRequired]
  unfold closedNode
  rw [Node.get?_append, rest, Option.or_none, Node.get?_cons, Node.get?_cons, Node.get?_cons,
    Node.get?_nil]

theorem isEndless_of_closedNode {table : Node} {required : List String}
    (ends : (Value.dict (closedNode table required)).isEndless = false) :
    (Value.dict table).isEndless = false := by
  have isProperties : (closedNode table required).get? "properties" = some (.dict table) := by
    rw [get?_closedNode (by decide)]
    rfl
  exact Value.isEndless_of_get? ends isProperties

/-- The schema of an object without other properties asks for nothing but properties in the table,
for those that are required, and for what their schemas ask for. -/
theorem settles_closed (isDraft7 : validator.dialect = .draft7) {table entries : Node}
    {required : List String}
    (each : ∀ entry ∈ table, ∃ (name : String) (inner : Node), entry = (.str name, .dict inner)
      ∧ inner.IsInner
      ∧ ∀ part, entries.get? name = some part → validator.Decides (.dict inner) part) :
    Settles (validator.judged (.dict (closedNode table required)) (.dict entries))
      (closedAnswer validator.answer table required entries) := by
  have endsTable : (Value.dict table).isEndless = false := by
    refine Value.isEndless_dict.mpr fun entry member => ?_
    obtain ⟨name, inner, rfl, isInner, -⟩ := each entry member
    exact isInner.ends
  have ends : (Value.dict (closedNode table required)).isEndless = false :=
    isEndless_closedNode endsTable
  have noReference : (closedNode table required).get? "$ref" = none := by
    rw [get?_closedNode (by decide)]
    rfl
  have isProperties : (closedNode table required).get? "properties" = some (.dict table) := by
    rw [get?_closedNode (by decide)]
    rfl
  have noPatterns : (closedNode table required).get? "patternProperties" = none := by
    rw [get?_closedNode (by decide)]
    rfl
  let known := (keyed (.dict entries)).all fun triple => (Value.assoc? triple.1 table).isSome
  let fitting := table.all fun entry =>
    ((entry.1.text?.bind (entries.get? ·)).map (validator.answer entry.2)).getD true
  let present := required.all fun name => (entries.get? name).isSome
  have rest : List.Forall₂ (fun entry valid => Settles (fun depth => validator.keywordCheck
      (.dict (closedNode table required)) (.dict entries) depth entry) valid)
      (if required.isEmpty then [] else Node.single "required" (.strings required))
      (if required.isEmpty then [] else [present]) := by
    split
    · exact .nil
    · exact .cons (settles_required isDraft7) .nil
  have all : (true :: known :: fitting :: if required.isEmpty then [] else [present]).all id
      = closedAnswer validator.answer table required entries := by
    have last : (if required.isEmpty then [] else [present]).all id = present := by
      cases required with
      | nil => rfl
      | cons => simp
    simp only [List.all_cons, last, id, Bool.true_and]
    exact (Bool.and_assoc ..).symm
  rw [← all]
  refine settles_entries isDraft7 ends noReference (.cons ?_ (.cons ?_ (.cons ?_ rest)))
  · exact settles_type isDraft7 (show JsonType.ofName? .draft7 "object" = some .object from rfl)
  · exact settles_noAdditional isDraft7 ends isProperties noPatterns
  · refine settles_properties isDraft7 endsTable fun entry member => ?_
    obtain ⟨name, inner, same, isInner, decides⟩ := each entry member
    exact ⟨name, inner, same, keeps_of_isInner isDraft7 isInner,
      fun part found => (decides part found).settles⟩

theorem settles_closed_of_other (isDraft7 : validator.dialect = .draft7) {table : Node}
    {required : List String} (ends : (Value.dict table).isEndless = false)
    (other : JsonType.object.holds .draft7 value = false) :
    Settles (validator.judged (.dict (closedNode table required)) value) false := by
  have noReference : (closedNode table required).get? "$ref" = none := by
    rw [get?_closedNode (by decide)]
    rfl
  have isAbout : IsAbout .object ((.str "additionalProperties", .bool false)
      :: (.str "properties", .dict table)
      :: if required.isEmpty then [] else Node.single "required" (.strings required)) := by
    intro entry member
    rcases List.mem_cons.mp member with rfl | member
    · exact ⟨_, _, rfl, .inr ⟨.additionalProperties, rfl, by decide⟩⟩
    rcases List.mem_cons.mp member with rfl | member
    · exact ⟨_, _, rfl, .inr ⟨.properties, rfl, by decide⟩⟩
    split at member
    · exact absurd member List.not_mem_nil
    · cases List.mem_singleton.mp member
      exact ⟨_, _, rfl, .inr ⟨.required, rfl, by decide⟩⟩
  exact settles_wrongType isDraft7
    (show JsonType.ofName? .draft7 "object" = some .object from rfl) (isEndless_closedNode ends)
    (by simpa [closedNode] using noReference) isAbout other

/-! ### Choices -/

/-- Alternatives ask for one of the schemas. -/
theorem settles_alternatives (isDraft7 : validator.dialect = .draft7)
    (isInner : ∀ inner ∈ inners, inner.IsInner)
    (decides : ∀ inner ∈ inners, validator.Decides (.dict inner) value) :
    Settles (validator.judged (.dict (Node.single "anyOf" (.list (inners.map .dict)))) value)
      ((inners.map Value.dict).any fun schema => validator.answer schema value) := by
  have behind := isEndless_nodes isInner
  have all : [(inners.map Value.dict).any fun schema => validator.answer schema value].all id
      = (inners.map Value.dict).any fun schema => validator.answer schema value := by simp
  rw [← all]
  refine settles_entries isDraft7 (by simp [Node.single, behind]) (by simp) (.cons ?_ .nil)
  exact settles_anyOf isDraft7 (fun inner member => (isInner inner member).ends)
    (fun inner member => keeps_of_isInner isDraft7 (isInner inner member))
    fun inner member => (decides inner member).settles

/-- Branches ask for exactly one of the schemas. -/
theorem settles_branches (isDraft7 : validator.dialect = .draft7)
    (isInner : ∀ inner ∈ inners, inner.IsInner)
    (decides : ∀ inner ∈ inners, validator.Decides (.dict inner) value) :
    Settles (validator.judged (.dict (branchesNode inners)) value)
      (((inners.map Value.dict).filter fun schema => validator.answer schema value).length == 1) := by
  have behind := isEndless_nodes isInner
  have all : [((inners.map Value.dict).filter fun schema =>
      validator.answer schema value).length == 1].all id
      = (((inners.map Value.dict).filter fun schema => validator.answer schema value).length == 1) := by
    simp
  rw [← all]
  refine settles_entries isDraft7 (by simp [branchesNode, Node.single, behind])
    (by simp [branchesNode]) (.cons ?_ .nil)
  exact settles_oneOf isDraft7 (fun inner member => (isInner inner member).ends)
    (fun inner member => keeps_of_isInner isDraft7 (isInner inner member))
    fun inner member => (decides inner member).settles

/-- So they reject what all schemas do. -/
theorem settles_branches_false (isDraft7 : validator.dialect = .draft7)
    (isInner : ∀ inner ∈ inners, inner.IsInner)
    (rejects : ∀ inner ∈ inners, Settles (validator.judged (.dict inner) value) false) :
    Settles (validator.judged (.dict (branchesNode inners)) value) false := by
  have none : (inners.map Value.dict).filter (fun schema => validator.answer schema value) = [] := by
    refine List.filter_eq_nil_iff.mpr fun schema member accepted => ?_
    obtain ⟨inner, inside, rfl⟩ := List.mem_map.mp member
    rw [answer_eq (rejects inner inside)] at accepted
    cases accepted
  have settles := settles_branches isDraft7 isInner
    fun inner member => ⟨false, rejects inner member⟩
  rwa [none] at settles

/-- The schema of an enumeration asks for one of the values, and for their type. -/
theorem settles_enumeration {values : List Value}
    (isDraft7 : validator.dialect = .draft7) (ends : ∀ value ∈ values, value.isEndless = false) :
    Settles (validator.judged (.dict (enumerationNode values)) value)
      (hasCommonType values value
        && values.any fun each => each.alike Assertion.listedLikeness value) := by
  have endsAll : (Value.list values).isEndless = false := Value.isEndless_list.mpr ends
  let isListed := values.any fun each => each.alike Assertion.listedLikeness value
  have listed : ∀ schema, Settles
      (fun depth => validator.keywordCheck schema value depth (.str "enum", .list values)) isListed :=
    fun _ => settles_enum isDraft7 endsAll
  unfold enumerationNode hasCommonType
  cases common : commonType? values with
  | none =>
    have settles : Settles (validator.judged (.dict (Node.single "enum" (.list values))) value)
        ([isListed].all id) :=
      settles_entries isDraft7 (by simp [Node.single, endsAll]) (by simp) (.cons (listed _) .nil)
    simpa using settles
  | some name =>
    obtain ⟨type, isType⟩ := exists_commonType common
    have settles : Settles (validator.judged
        (.dict (Node.single "type" (.str name) ++ Node.single "enum" (.list values))) value)
        ([type.holds .draft7 value, isListed].all id) :=
      settles_entries isDraft7 (by simp [Node.single, endsAll]) (by simp)
        (.cons (settles_type isDraft7 isType) (.cons (listed _) .nil))
    simpa [isType] using settles

end Validator

end ModelSchema
