import ModelSchema.Proofs.Agreement.Optional
import ModelSchema.Proofs.Validation.Depth

/-!
What an array with a type for each item admits.

The schema of such an array has a schema for each place, and bounds for the number of items that leave
exactly as many as there are places. The items can be accepted at different depths, but then there is one
at which all of them are.

* `Validator.accepts_fixedArray_iff`: what is accepted where each place has a schema.
* `SchemaSource.nodeOf_tuple`: the node of such an array has those of the types of its items.
* `SchemaSource.accepts_tuple_iff`: so the arrays with as many items as types, each of them accepted for its
  type, are what is accepted. An array without types is the exception: it admits all arrays.
-/

namespace ModelSchema

namespace Validator

variable {validator : Validator} {inners : List Node} {value : Value}

/-! ### A schema for each place -/

/-- Where each of some values is accepted by its schema, one depth is enough for all. -/
theorem exists_depth_of_accepts (isDraft7 : validator.dialect = .draft7) :
    ∀ {pairs : List (Value × Node)}, (∀ pair ∈ pairs, pair.2.IsInner) →
      (∀ pair ∈ pairs, validator.Accepts (.dict pair.2) pair.1) →
      ∃ depth, ∀ pair ∈ pairs, validator.judged (.dict pair.2) pair.1 depth = .clean
  | [], _, _ => ⟨0, fun _ member => absurd member List.not_mem_nil⟩
  | pair :: rest, isInner, accepts => by
    obtain ⟨here, isInnerRest⟩ := List.forall_mem_cons.mp isInner
    obtain ⟨first, acceptsRest⟩ := List.forall_mem_cons.mp accepts
    obtain ⟨depth, clean⟩ := (accepts_iff isDraft7 here).mp first
    obtain ⟨more, cleanRest⟩ := exists_depth_of_accepts isDraft7 isInnerRest acceptsRest
    refine ⟨max depth more, List.forall_mem_cons.mpr ⟨?_, fun other member => ?_⟩⟩
    · exact judged_of_le (Nat.le_max_left ..) clean
    · exact judged_of_le (Nat.le_max_right ..) (cleanRest other member)

section

variable (isDraft7 : validator.dialect = .draft7) (isInner : ∀ inner ∈ inners, inner.IsInner)
include isDraft7 isInner

/-- The schemas for the places find nothing wrong when none of them does. -/
theorem keywordCheck_itemsByPlace_eq_clean {schema : Value} {items : List Value} {depth : Nat} :
    validator.keywordCheck schema (.list items) depth (.str "items", .list (inners.map .dict)) = .clean
      ↔ ∀ pair ∈ items.zip inners, validator.judged (.dict pair.2) pair.1 depth = .clean := by
  rw [keywordCheck_itemsByPlace isDraft7 fun inner member => (isInner inner member).ends,
    Checked.each_eq_clean, ← map_numbered_zip 0, List.forall_mem_map]
  refine forall₂_congr fun pair member => ?_
  have keeps := keeps_of_isInner isDraft7 (isInner pair.2 (List.of_mem_zip member).2)
  rw [part_eq keeps, Checked.within_eq_clean]

/-- Where each place has a schema, lists with as many items as places are accepted, when each item is
accepted by the schema for its place. -/
theorem accepts_fixedArray_iff :
    validator.Accepts (.dict (fixedArrayNode inners)) value
      ↔ ∃ items, value = .list items ∧ items.length = inners.length
        ∧ ∀ pair ∈ items.zip inners, validator.Accepts (.dict pair.2) pair.1 := by
  have isInnerAll : (fixedArrayNode inners).IsInner :=
    SchemaSource.isUsual_fixedArray.isInner (SchemaSource.isEndless_fixedArray isInner)
  have noReference : (fixedArrayNode inners).get? "$ref" = none := by simp [fixedArrayNode]
  have isType : JsonType.ofName? .draft7 "array" = some .array := rfl
  constructor
  · intro accepts
    obtain ⟨depth, each⟩ := accepts.exists_each isDraft7 isInnerAll noReference
    have typed := each (.str "type", .str "array") (by simp [fixedArrayNode])
    rw [keywordCheck_type isDraft7 isType, Checked.oneIf_not_eq_clean] at typed
    obtain ⟨items, rfl⟩ := exists_of_isArray typed
    have least := each (.str "minItems", .int inners.length) (by simp [fixedArrayNode])
    have most := each (.str "maxItems", .int inners.length) (by simp [fixedArrayNode])
    rw [keywordCheck_minItems isDraft7, Checked.oneIf_not_eq_clean, decide_eq_true_eq] at least
    rw [keywordCheck_maxItems isDraft7, Checked.oneIf_not_eq_clean, decide_eq_true_eq] at most
    have placed := each (.str "items", .list (inners.map .dict)) (by simp [fixedArrayNode])
    rw [keywordCheck_itemsByPlace_eq_clean isDraft7 isInner] at placed
    refine ⟨items, rfl, Nat.le_antisymm most least, fun pair member => ?_⟩
    exact (accepts_iff isDraft7 (isInner pair.2 (List.of_mem_zip member).2)).mpr
      ⟨depth, placed pair member⟩
  · rintro ⟨items, rfl, sameLength, accepts⟩
    obtain ⟨depth, clean⟩ := exists_depth_of_accepts isDraft7
      (fun pair member => isInner pair.2 (List.of_mem_zip member).2) accepts
    refine (accepts_iff isDraft7 isInnerAll).mpr ⟨depth + 1, ?_⟩
    unfold judged
    rw [keywords_of_none (by rw [isDraft7]; rfl) isInnerAll.ends noReference]
    change checkWith (depth + 1) validator (fixedArrayNode inners) _ _ = _
    rw [checkWith_succ]
    refine Checked.each_eq_clean.mpr fun entry member => ?_
    simp only [fixedArrayNode, List.mem_cons, List.not_mem_nil, or_false] at member
    rcases member with rfl | rfl | rfl | rfl
    · rw [keywordCheck_type isDraft7 isType]
      exact Checked.oneIf_not_eq_clean.mpr rfl
    · exact (keywordCheck_itemsByPlace_eq_clean isDraft7 isInner).mpr clean
    · rw [keywordCheck_minItems isDraft7]
      exact Checked.oneIf_not_eq_clean.mpr (decide_eq_true (Nat.le_of_eq sameLength.symm))
    · rw [keywordCheck_maxItems isDraft7]
      exact Checked.oneIf_not_eq_clean.mpr (decide_eq_true (Nat.le_of_eq sameLength))

end

end Validator

/-! ### Arrays with a type for each item -/

/-- An array with a type for each item has the forms of these. -/
theorem ClassTable.form_tuple {table : ClassTable} {ts : List Ty} (something : ts ≠ [])
    (notOpen : ∀ t, ts ≠ [t, .ellipsis]) :
    table.form (.tuple ts) = .of (.tuple ts) [] (.fixedArray (ts.map table.form)) := by
  have atDepth : ∀ depth, table.formWithin depth (.tuple ts)
      = .of (.tuple ts) [] (.fixedArray (ts.map (table.formWithin depth))) := by
    intro depth
    cases depth with
    | zero => exact Ty.formAt_tuple something notOpen
    | succ depth => exact Ty.formAt_tuple something notOpen
  exact atDepth table.nestingDepth

namespace SchemaSource

variable {source : SchemaSource} {owner : ClassRef} {ts : List Ty} {validator : Validator}

theorem nodeOf_tuple (something : ts ≠ []) (notOpen : ∀ t, ts ≠ [t, .ellipsis]) :
    source.nodeOf owner (.tuple ts) = fixedArrayNode (ts.map (source.nodeOf owner)) := by
  unfold nodeOf
  rw [ClassTable.form_tuple something notOpen]
  change fixedArrayNode (source.formNodes _ owner [] _) = _
  rw [formNodes_eq, List.map_map]
  rfl

/-- Without types for its items, an array can have any. -/
theorem nodeOf_tuple_nil : source.nodeOf owner (.tuple []) = arrayNode [] false := by
  unfold nodeOf ClassTable.form
  cases source.catalog.table.nestingDepth <;> rfl

theorem accepts_tuple_nil (isDraft7 : validator.dialect = .draft7) (items : List Value) :
    validator.Accepts (.dict (source.nodeOf owner (.tuple []))) (.list items) := by
  have isInner : Node.IsInner [] := ⟨rfl, rfl, rfl⟩
  have admits : ∀ item, Settles (validator.judged (.dict []) item) true :=
    fun item => Validator.settles_nil isDraft7
  have settles := Validator.settles_array isDraft7 isInner
    fun item (_ : item ∈ items) => ⟨true, admits item⟩
  rw [List.all_eq_true.mpr fun item _ => Validator.answer_eq (admits item)] at settles
  rw [nodeOf_tuple_nil]
  exact Validator.accepts_of_settles isDraft7 (isInner_array isInner) settles

/-! ### Main result -/

/-- Where an array has a type for each item, the lists that are accepted are those with as many items, each
of them accepted for its type. That is so when there is at least one type, whatever the types are and
wherever their references lead; where there is none, lists with items are accepted as well. -/
theorem accepts_tuple_iff (isDraft7 : validator.dialect = .draft7) (notOpen : ∀ t, ts ≠ [t, .ellipsis])
    (unlimited : ∀ t ∈ ts, (source.catalog.table.form t).isUnlimited = true) :
    (∀ value, validator.Accepts (.dict (source.nodeOf owner (.tuple ts))) value
      ↔ ∃ items, value = .list items ∧ items.length = ts.length
        ∧ ∀ i (_ : i < items.length) (_ : i < ts.length),
          validator.Accepts (.dict (source.nodeOf owner ts[i])) items[i])
      ↔ ts ≠ [] := by
  constructor
  · rintro law rfl
    obtain ⟨items, same, sameLength, -⟩ := (law (.list [.null])).mp (accepts_tuple_nil isDraft7 _)
    cases same
    cases sameLength
  · intro something value
    have isInner : ∀ inner ∈ ts.map (source.nodeOf owner), inner.IsInner := by
      intro inner member
      obtain ⟨t, inside, rfl⟩ := List.mem_map.mp member
      exact isInner_nodeOf (unlimited t inside)
    rw [nodeOf_tuple something notOpen, Validator.accepts_fixedArray_iff isDraft7 isInner,
      List.length_map]
    refine exists_congr fun items => and_congr_right fun _ => and_congr_right fun _ => ?_
    constructor
    · intro each i inItems inTypes
      have inZip : i < (items.zip (ts.map (source.nodeOf owner))).length := by
        rw [List.length_zip, List.length_map]
        exact Nat.lt_min.mpr ⟨inItems, inTypes⟩
      have here := each _ (List.getElem_mem inZip)
      rwa [List.getElem_zip, List.getElem_map] at here
    · intro each pair member
      obtain ⟨i, inZip, rfl⟩ := List.getElem_of_mem member
      rw [List.length_zip, List.length_map] at inZip
      rw [List.getElem_zip, List.getElem_map]
      exact each i (Nat.lt_min.mp inZip).1 (Nat.lt_min.mp inZip).2

end SchemaSource

/-! ### Examples -/

section

open Example

/-- The types of a stamp, and of a number with a text. -/
def placedTypes : List Ty := [.cls stamp, .tuple [.basic .int, .basic .str]]

/-- In the document of a journal, an array of a stamp and of a number with a text has two items. -/
theorem accepts_tuple_placed :
    ∃ validator : Validator, journals.IsReadBy journalDocument validator
      ∧ ∀ value, validator.Accepts (.dict (journals.nodeOf journal (.tuple placedTypes))) value
        ↔ ∃ items, value = .list items ∧ items.length = placedTypes.length
          ∧ ∀ i (_ : i < items.length) (_ : i < placedTypes.length),
            validator.Accepts (.dict (journals.nodeOf journal placedTypes[i])) items[i] := by
  have notOpen : ∀ t, placedTypes ≠ [t, .ellipsis] := by
    intro t same
    cases same
  have unlimited : ∀ t ∈ placedTypes, (journals.catalog.table.form t).isUnlimited = true := by
    intro t member
    rcases List.mem_pair.mp member with rfl | rfl <;> cbv
  obtain ⟨validator, read⟩ := exists_isReadBy_journals
  exact ⟨validator, read,
    (SchemaSource.accepts_tuple_iff read.isIn.isDraft7 notOpen unlimited).mpr (by decide)⟩

/-- A list with an item is accepted for an array without types, which has no items. -/
theorem not_accepts_tuple_nil :
    ¬ ∀ (source : SchemaSource) (document : Node) (validator : Validator) (owner : ClassRef)
      (ts : List Ty), source.IsReadBy document validator → (∀ t, ts ≠ [t, .ellipsis]) →
      (∀ t ∈ ts, (source.catalog.table.form t).isUnlimited = true) →
      ∀ value, validator.Accepts (.dict (source.nodeOf owner (.tuple ts))) value
        ↔ ∃ items, value = .list items ∧ items.length = ts.length
          ∧ ∀ i (_ : i < items.length) (_ : i < ts.length),
            validator.Accepts (.dict (source.nodeOf owner ts[i])) items[i] := by
  intro law
  obtain ⟨validator, read⟩ := exists_isReadBy_journals
  have notOpen : ∀ t, ([] : List Ty) ≠ [t, .ellipsis] := nofun
  have accepted : validator.Accepts (.dict (journals.nodeOf journal (.tuple []))) (.list [.int 1]) :=
    SchemaSource.accepts_tuple_nil read.isIn.isDraft7 _
  obtain ⟨items, same, sameLength, -⟩ := (law journals journalDocument validator journal [] read notOpen
    (fun _ member => absurd member List.not_mem_nil) (.list [.int 1])).mp accepted
  cases same
  cases sameLength

end

end ModelSchema
