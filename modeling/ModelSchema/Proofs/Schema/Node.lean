import Mathlib.Data.List.Basic
import Mathlib.Data.List.Nodup
import ModelSchema.Schema.Node

/-!
Nodes as records.

The keywords of a node are texts, each there once (`Node.IsRecord`). Reading a keyword then commutes
with the ways in which nodes are put together: behind each other (`get?_append`), with a keyword set
(`get?_set`), and with all keywords of another node set (`get?_update`). Where these are all new they
come behind the others (`update_eq_append`), so that a record put together from nothing is as it was
(`update_nil`). Putting keywords in a given order keeps all of them (`get?_reorder`).
-/

namespace ModelSchema

namespace Value

/-- A value equals a text when it has that text. -/
theorem same_str {value : Value} {text : String} :
    value.same (.str text) = (value.text? == some text) := by
  have content : ∀ a : Value, sameByContent a (.str text) = (a.text? == some text) := by
    intro a
    unfold sameByContent
    cases a.magnitude? <;> cases a.text? <;> rfl
  cases value <;> simp [same, content, text?]

/-- A text equals a value when that has the text. -/
theorem str_same {value : Value} {text : String} :
    (Value.str text).same value = (value.text? == some text) := by
  have content : sameByContent (.str text) value = (value.text? == some text) := by
    unfold sameByContent
    cases value.magnitude? <;> cases value.text? <;> simp [magnitude?, text?, eq_comm]
  simpa [same] using content

/-- A key that is set has its value, and the other entries are as they were. -/
theorem mem_or_eq_of_mem_assocSet {start : List (Value × Value)} {key added : Value}
    {entry : Value × Value} (member : entry ∈ assocSet start key added) :
    entry ∈ start ∨ entry.2 = added := by
  unfold assocSet at member
  split at member
  · obtain ⟨⟨k, v⟩, inside, rfl⟩ := List.mem_map.mp member
    dsimp only at member ⊢
    split at member
    next same => exact .inr (by rw [if_pos same])
    next differs => exact .inl (by rwa [if_neg differs])
  · rcases List.mem_append.mp member with old | new
    · exact .inl old
    · exact .inr (List.mem_singleton.mp new ▸ rfl)

end Value

namespace Node

variable {node other : Node} {keyword key : String} {value : Value}

theorem get?_eq : node.get? keyword = (node.find? (·.1.text? == some keyword)).map (·.2) := by
  simp only [get?, Value.assoc?, Value.same_str]

@[simp] theorem get?_nil : get? [] keyword = none := rfl

theorem get?_cons_of_text {entry : Value × Value} :
    get? (entry :: node) keyword
      = if entry.1.text? = some keyword then some entry.2 else node.get? keyword := by
  rw [get?_eq, get?_eq, List.find?_cons]
  by_cases same : entry.1.text? = some keyword
  · rw [if_pos same, beq_iff_eq.mpr same]
    rfl
  · rw [if_neg same, beq_eq_false_iff_ne.mpr same]

@[simp] theorem get?_cons :
    get? ((.str key, value) :: node) keyword
      = if key = keyword then some value else node.get? keyword := by
  rw [get?_cons_of_text]
  simp [Value.text?]

@[simp] theorem get?_append :
    get? (node ++ other) keyword = (node.get? keyword).or (other.get? keyword) := by
  rw [get?_eq, get?_eq, get?_eq, List.find?_append, Option.map_or]

@[simp] theorem get?_single :
    (single key value).get? keyword = if key = keyword then some value else none := by
  rw [single, get?_cons, get?_nil]

/-- Replacing what is behind a keyword leaves the other keywords as they are. -/
theorem get?_map_replace :
    get? (node.map fun (k, v) => if k.same (.str key) then (k, value) else (k, v)) keyword
      = if key = keyword then (node.get? keyword).map fun _ => value else node.get? keyword := by
  induction node with
  | nil => simp
  | cons entry rest ih =>
    obtain ⟨k, v⟩ := entry
    rw [List.map_cons, get?_cons_of_text, get?_cons_of_text, ih]
    by_cases here : k.text? = some keyword
    · by_cases same : key = keyword
      · simp [Value.same_str, here, same]
      · have : ¬ keyword = key := fun h => same h.symm
        simp [Value.same_str, here, same, this]
    · by_cases set : k.text? = some key
      · have differ : key ≠ keyword := fun same => here (same ▸ set)
        simp [Value.same_str, set, differ]
      · simp [Value.same_str, here, set]

/-- A keyword that is set is what it was set to, and no other keyword changes. -/
theorem get?_set :
    (node.set key value).get? keyword
      = if key = keyword then some value else node.get? keyword := by
  unfold set Value.assocSet
  split
  next there =>
    rw [get?_map_replace]
    split
    next same =>
      subst same
      obtain ⟨found, some⟩ : ∃ found, node.get? key = some found := by
        rw [← Option.isSome_iff_exists, get?, Value.assoc?, Option.isSome_map, List.find?_isSome]
        simpa using there
      rw [some]
      rfl
    next => rfl
  next absent =>
    rw [get?_append, get?_cons, get?_nil]
    split
    next same =>
      subst same
      have : node.get? key = none := by
        rw [get?, Value.assoc?, Option.map_eq_none_iff, List.find?_eq_none]
        simpa using absent
      rw [this, Option.none_or]
    next => rw [Option.or_none]

/-! ### Records -/

/-- The node with the given fields. -/
def ofFields (fields : List (String × Value)) : Node := fields.map fun (k, v) => (.str k, v)

/-- Whether the keywords of a node are texts, each there once. -/
def IsRecord (node : Node) : Prop :=
  ∃ fields, (fields.map (·.1)).Nodup ∧ node = ofFields fields

theorem get?_ofFields_eq_none {fields : List (String × Value)} :
    (ofFields fields).get? keyword = none ↔ keyword ∉ fields.map (·.1) := by
  induction fields with
  | nil => simp [ofFields]
  | cons field rest ih =>
    rw [List.map_cons, List.mem_cons, not_or, ← ih, ofFields, List.map_cons, get?_cons]
    split
    next same => simp [same]
    next differ => simp [Ne.symm differ, ofFields]

theorem get?_ofFields_of_mem {fields : List (String × Value)} {field : String × Value}
    (nodup : (fields.map (·.1)).Nodup) (member : field ∈ fields) :
    (ofFields fields).get? field.1 = some field.2 := by
  induction fields with
  | nil => exact absurd member List.not_mem_nil
  | cons first rest ih =>
    rw [List.map_cons, List.nodup_cons] at nodup
    rw [ofFields, List.map_cons, get?_cons]
    rcases List.mem_cons.mp member with rfl | later
    · rw [if_pos rfl]
    · rw [if_neg]
      · exact ih nodup.2 later
      · intro same
        exact nodup.1 (same ▸ List.mem_map_of_mem later)

/-- What is behind a keyword is a field. -/
theorem mem_of_get?_ofFields {fields : List (String × Value)}
    (found : (ofFields fields).get? keyword = some value) : (keyword, value) ∈ fields := by
  rw [get?_eq] at found
  obtain ⟨entry, at?, rfl⟩ := Option.map_eq_some_iff.mp found
  obtain ⟨field, inside, rfl⟩ := List.mem_map.mp (List.mem_of_find?_eq_some at?)
  have same := List.find?_some at?
  dsimp only at same
  rw [beq_iff_eq] at same
  obtain rfl : field.1 = keyword := Option.some.inj same
  exact inside

theorem isRecord_nil : IsRecord [] := ⟨[], List.nodup_nil, rfl⟩

theorem isRecord_cons (record : IsRecord node) (absent : node.get? key = none) :
    IsRecord ((.str key, value) :: node) := by
  obtain ⟨fields, nodup, rfl⟩ := record
  rw [get?_ofFields_eq_none] at absent
  exact ⟨(key, value) :: fields, List.nodup_cons.mpr ⟨absent, nodup⟩, rfl⟩

theorem mem_of_get? (record : IsRecord node) (found : node.get? keyword = some value) :
    (.str keyword, value) ∈ node := by
  obtain ⟨fields, -, rfl⟩ := record
  exact List.mem_map.mpr ⟨_, mem_of_get?_ofFields found, rfl⟩

theorem isRecord_set (record : IsRecord node) : IsRecord (node.set key value) := by
  obtain ⟨fields, nodup, rfl⟩ := record
  unfold set Value.assocSet
  split
  · refine ⟨fields.map fun (k, v) => if k = key then (k, value) else (k, v), ?_, ?_⟩
    · have keys : (fields.map fun (k, v) => if k = key then (k, value) else (k, v)).map (·.1)
          = fields.map (·.1) := by
        rw [List.map_map]
        refine List.map_congr_left fun field _ => ?_
        dsimp only [Function.comp]
        split <;> rfl
      rw [keys]
      exact nodup
    · unfold ofFields
      rw [List.map_map, List.map_map]
      refine List.map_congr_left fun field _ => ?_
      by_cases same : field.1 = key <;> simp [Value.same_str, Value.text?, same]
  next absent =>
    refine ⟨fields ++ [(key, value)], ?_, by simp [ofFields]⟩
    rw [List.map_append, List.nodup_append]
    refine ⟨nodup, by simp, ?_⟩
    rintro k member _ here rfl
    cases List.mem_singleton.mp here
    obtain ⟨field, inside, rfl⟩ := List.mem_map.mp member
    refine absent (List.any_eq_true.mpr ⟨_, List.mem_map_of_mem inside, ?_⟩)
    simp [Value.same_str, Value.text?]

/-- Of a keyword that two nodes have, the one that is set on top counts. -/
theorem get?_update (record : IsRecord other) :
    get? (Value.assocUpdate node other) keyword = (other.get? keyword).or (node.get? keyword) := by
  obtain ⟨fields, nodup, rfl⟩ := record
  unfold Value.assocUpdate
  induction fields generalizing node with
  | nil => rw [ofFields, List.map_nil, get?_nil, Option.none_or, List.foldl_nil]
  | cons field rest ih =>
    obtain ⟨k, v⟩ := field
    rw [List.map_cons, List.nodup_cons, ← get?_ofFields_eq_none] at nodup
    have first : Value.assocSet node (.str k) v = node.set k v := rfl
    rw [ofFields, List.map_cons, List.foldl_cons, get?_cons]
    refine (ih nodup.2).trans ?_
    dsimp only
    rw [first, get?_set]
    split
    next same =>
      subst same
      rw [nodup.1, Option.none_or]
      rfl
    next => rfl

theorem isRecord_update (record : IsRecord node) (isDict : IsRecord other) :
    IsRecord (Value.assocUpdate node other) := by
  obtain ⟨fields, -, rfl⟩ := isDict
  unfold Value.assocUpdate
  induction fields generalizing node with
  | nil => exact record
  | cons field rest ih =>
    rw [ofFields, List.map_cons, List.foldl_cons]
    exact ih (isRecord_set record)

theorem isRecord_filter {keep : Value × Value → Bool} (record : IsRecord node) :
    IsRecord (node.filter keep) := by
  obtain ⟨fields, nodup, rfl⟩ := record
  refine ⟨fields.filter fun (k, v) => keep (.str k, v), ?_, ?_⟩
  · exact nodup.sublist (List.filter_sublist.map _)
  · unfold ofFields
    rw [List.filter_map]
    rfl

/-- Records without a common keyword make up a record. -/
theorem isRecord_append (record : IsRecord node) (isRecord : IsRecord other)
    (apart : ∀ keyword, (node.get? keyword).isSome = true → other.get? keyword = none) :
    IsRecord (node ++ other) := by
  obtain ⟨fields, nodup, rfl⟩ := record
  obtain ⟨others, nodupElse, rfl⟩ := isRecord
  refine ⟨fields ++ others, ?_, (List.map_append ..).symm⟩
  rw [List.map_append]
  refine List.nodup_append.mpr ⟨nodup, nodupElse, ?_⟩
  rintro keyword here _ there rfl
  have found : ((ofFields fields).get? keyword).isSome = true := by
    rw [Option.isSome_iff_ne_none, Ne, get?_ofFields_eq_none, not_not]
    exact here
  have absent := apart keyword found
  rw [get?_ofFields_eq_none] at absent
  exact absent there

/-! ### Keywords in a given order -/

/-- The keywords of a node among given ones, in their order. -/
def front (node : Node) (keywords : List String) : Node :=
  keywords.filterMap fun keyword => (node.get? keyword).map fun value => (Value.str keyword, value)

theorem get?_front {keywords : List String} :
    (node.front keywords).get? keyword
      = if keyword ∈ keywords then node.get? keyword else none := by
  unfold front
  induction keywords with
  | nil => rfl
  | cons first rest ih =>
    rw [List.filterMap_cons]
    by_cases here : first = keyword
    · subst here
      cases found : node.get? first with
      | none => simp [found] at ih ⊢; exact ih
      | some value => simp
    · have skipped : keyword ∈ first :: rest ↔ keyword ∈ rest := by simp [Ne.symm here]
      cases found : node.get? first with
      | none => simp [ih, skipped]
      | some value => simp [ih, skipped, here]

theorem isRecord_front {keywords : List String} (nodup : keywords.Nodup) :
    IsRecord (node.front keywords) := by
  induction keywords with
  | nil => exact isRecord_nil
  | cons first rest ih =>
    obtain ⟨absent, nodup⟩ := List.nodup_cons.mp nodup
    unfold front
    rw [List.filterMap_cons]
    cases found : node.get? first with
    | none => exact ih nodup
    | some value =>
      refine isRecord_cons (ih nodup) ?_
      rw [← front, get?_front, if_neg absent]

/-- The other keywords of a node. -/
def back (node : Node) (keywords : List String) : Node :=
  node.filter fun (key, _) => !(node.front keywords).any fun (k, _) => k.same key

theorem reorder_eq {keywords : List String} :
    node.reorder keywords = node.front keywords ++ node.back keywords := rfl

/-- A filter keeps a keyword or drops it. -/
theorem get?_filter {keep : Value × Value → Bool} {kept : Bool}
    (decided : ∀ entry, entry.1.text? = some keyword → keep entry = kept) :
    get? (node.filter keep) keyword = if kept then node.get? keyword else none := by
  induction node with
  | nil => simp
  | cons entry rest ih =>
    rw [List.filter_cons, get?_cons_of_text]
    by_cases here : entry.1.text? = some keyword
    · cases kept <;> simp [decided entry here, here, get?_cons_of_text, ih]
    · cases keep entry <;> simp [here, get?_cons_of_text, ih]

theorem get?_back {keywords : List String} :
    (node.back keywords).get? keyword
      = if ((node.front keywords).get? keyword).isSome then none else node.get? keyword := by
  have decided : ∀ entry : Value × Value, entry.1.text? = some keyword →
      (!(node.front keywords).any fun (k, _) => k.same entry.1)
        = !((node.front keywords).get? keyword).isSome := by
    intro entry text
    have keys : ∀ first ∈ node.front keywords,
        first.1.same entry.1 = (first.1.text? == some keyword) := by
      intro first member
      obtain ⟨key, -, found⟩ := List.mem_filterMap.mp member
      obtain ⟨value, -, rfl⟩ := Option.map_eq_some_iff.mp found
      rw [Value.str_same, text]
      simp [Value.text?, eq_comm]
    have any : ((node.front keywords).any fun (k, _) => k.same entry.1)
        = (node.front keywords).any fun (k, _) => k.text? == some keyword := by
      rw [Bool.eq_iff_iff, List.any_eq_true, List.any_eq_true]
      refine exists_congr fun first => and_congr_right fun member => ?_
      exact Bool.eq_iff_iff.mp (keys first member)
    rw [any, get?_eq, Option.isSome_map, List.isSome_find?]
  unfold back
  rw [get?_filter decided]
  cases ((node.front keywords).get? keyword).isSome <;> rfl

/-- Putting keywords in order changes none of them. -/
theorem get?_reorder {keywords : List String} :
    (node.reorder keywords).get? keyword = node.get? keyword := by
  rw [reorder_eq, get?_append, get?_back, get?_front]
  split
  next member => cases node.get? keyword <;> rfl
  next => rfl

theorem isRecord_reorder {keywords : List String} (record : IsRecord node)
    (nodup : keywords.Nodup) : IsRecord (node.reorder keywords) := by
  rw [reorder_eq]
  refine isRecord_append (isRecord_front nodup) (isRecord_filter record) ?_
  intro keyword found
  rw [get?_back, if_pos found]

/-! ### Nodes behind each other -/

/-- A keyword that is new comes last. -/
theorem set_eq_append (absent : node.get? key = none) :
    node.set key value = node ++ single key value := by
  have notThere : ¬ (node.any fun (k, _) => k.same (.str key)) = true := by
    intro there
    obtain ⟨entry, member, same⟩ := List.any_eq_true.mp there
    rw [get?, Value.assoc?, Option.map_eq_none_iff, List.find?_eq_none] at absent
    exact absent entry member same
  unfold set Value.assocSet
  rw [if_neg notThere]
  rfl

/-- Keywords that are all new come behind the others, in their order. -/
theorem update_eq_append (record : IsRecord other)
    (fresh : ∀ keyword, (other.get? keyword).isSome = true → node.get? keyword = none) :
    Value.assocUpdate node other = node ++ other := by
  obtain ⟨fields, nodup, rfl⟩ := record
  induction fields generalizing node with
  | nil => exact (List.append_nil node).symm
  | cons field rest ih =>
    obtain ⟨k, v⟩ := field
    rw [List.map_cons, List.nodup_cons, ← get?_ofFields_eq_none] at nodup
    have absent : node.get? k = none := fresh k (by simp [ofFields])
    have first : Value.assocSet node (.str k) v = node ++ single k v := set_eq_append absent
    have later : ∀ keyword, ((ofFields rest).get? keyword).isSome = true →
        (node ++ single k v).get? keyword = none := by
      intro keyword there
      have differs : k ≠ keyword := by
        rintro rfl
        rw [nodup.1] at there
        cases there
      have apart : node.get? keyword = none :=
        fresh keyword (by simpa [ofFields, differs] using there)
      rw [get?_append, get?_single, if_neg differs, apart, Option.none_or]
    have behind := ih nodup.2 later
    unfold Value.assocUpdate at behind ⊢
    rw [ofFields, List.map_cons, List.foldl_cons]
    dsimp only
    rw [first]
    exact behind.trans (List.append_assoc ..)

/-- A record that is put together from nothing is as it was. -/
theorem update_nil (record : IsRecord node) : Value.assocUpdate [] node = node :=
  update_eq_append record fun _ _ => get?_nil

theorem update_ofFields {fields : List (String × Value)} (distinct : (fields.map (·.1)).Nodup) :
    Value.assocUpdate [] (ofFields fields) = ofFields fields :=
  update_nil ⟨fields, distinct, rfl⟩

end Node

end ModelSchema
