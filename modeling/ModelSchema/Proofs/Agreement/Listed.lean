import ModelSchema.Proofs.Agreement.Optional
import ModelSchema.Proofs.Payload.Members

/-!
Members of enumerations in documents.

What is listed for a member and what it is written as are found by different rules, so that a member
is accepted by the schema of its enumeration as far as the rules agree.

* `ClassTable.enumerated`: the members that the schema of an annotation lists.
* `HasTypesOf`: a payload has the types of JSON that what is listed has.
* `accepts_member`: which members are accepted.
-/

namespace ModelSchema

/-! ### Types of payloads -/

/-- Whether a payload has each type of JSON that all listed values can have in common, if what is
listed for it has the type. -/
structure HasTypesOf (listed payload : Value) : Prop where
  truth : isTruth listed = true → JsonType.boolean.holds .draft7 payload = true
  text : isText listed = true → JsonType.string.holds .draft7 payload = true
  integer : isInteger listed = true → JsonType.integer.holds .draft7 payload = true
  number : isNumber listed = true → JsonType.number.holds .draft7 payload = true

/-- So a payload has the type that all listed values have in common. -/
theorem HasTypesOf.hasCommonType {listed payload : Value} {values : List Value}
    (types : HasTypesOf listed payload) (member : listed ∈ values) :
    hasCommonType values payload = true := by
  have has : ∀ {test : Value → Bool}, values.all test = true → test listed = true :=
    fun all => List.all_eq_true.mp all listed member
  unfold ModelSchema.hasCommonType
  cases common : commonType? values with
  | none => rfl
  | some name =>
    rcases commonType?_eq_some common with ⟨rfl, all⟩ | ⟨rfl, all⟩ | ⟨rfl, all⟩ | ⟨rfl, all⟩
    · exact types.truth (has all)
    · exact types.text (has all)
    · exact types.integer (has all)
    · exact types.number (has all)

theorem hasTypesOf_str {text : String} {payload : Value} (isText : payload.text?.isSome = true) :
    HasTypesOf (.str text) payload :=
  ⟨nofun, fun _ => isText, nofun, nofun⟩

namespace Catalog

variable {catalog : Catalog} {excludeNull numericDurations : Bool} {value payload : Value}

/-- A value that is written as listed has the types of what is listed. -/
theorem hasTypesOf_listedForm (isMade : value.isMade = true)
    (written : catalog.payloadWithin excludeNull numericDurations value = .ok payload)
    (asListed : value.isWrittenAsListed catalog.table numericDurations = true) :
    HasTypesOf (catalog.table.listedForm value) payload := by
  rcases Value.isListedAsIs_or_text isMade catalog.table numericDurations with
    asIs | ⟨listed, same⟩
  · cases asIs with
    | null =>
      cases written
      exact ⟨nofun, nofun, nofun, nofun⟩
    | bool =>
      cases written
      exact ⟨fun _ => rfl, nofun, nofun, nofun⟩
    | int | intMember | flagMember =>
      cases written
      exact ⟨nofun, nofun, fun _ => rfl, fun _ => rfl⟩
    | float | floatMember =>
      cases written
      exact ⟨nofun, nofun, nofun, fun _ => rfl⟩
    | str =>
      cases written
      exact hasTypesOf_str rfl
    | strMember =>
      cases written
      exact ⟨nofun, fun _ => rfl, nofun, nofun⟩
  · have isText := text?_payload isMade written
    rw [of_decide_eq_true (same.symm.trans asListed)] at isText
    rw [listed]
    exact hasTypesOf_str (Option.isSome_iff_exists.mpr ⟨_, isText⟩)

/-- So does a member with such a value. -/
theorem hasTypesOf_enumeratedValue (isMade : value.isMade = true)
    (written : catalog.payloadWithin excludeNull numericDurations value = .ok payload)
    (asListed : value.withoutName.isWrittenAsListed catalog.table numericDurations = true) :
    HasTypesOf (catalog.table.enumeratedValue value) payload := by
  rw [ClassTable.enumeratedValue_eq]
  cases value with
  | member owner mixin name value =>
    rcases payload_member isMade with ⟨text, rfl, rfl⟩ | same
    · cases written
      exact hasTypesOf_str rfl
    · exact hasTypesOf_listedForm (isMade_withoutName isMade) (same.symm.trans written) asListed
  | _ => exact hasTypesOf_listedForm rfl written asListed

theorem exists_payload_member (isMade : value.isMade = true)
    (asListed : value.withoutName.isWrittenAsListed catalog.table numericDurations = true) :
    ∃ payload, catalog.payloadWithin excludeNull numericDurations value = .ok payload := by
  cases value with
  | member owner mixin name value =>
    rcases payload_member isMade with ⟨text, rfl, rfl⟩ | same
    · exact ⟨_, rfl⟩
    · exact same ▸ exists_payload_of_isWrittenAsListed (isMade_withoutName isMade) asListed
  | _ => exact exists_payload_of_isWrittenAsListed rfl asListed

end Catalog

/-! ### Schemas of enumerations -/

/-- The members that the schema of an annotation lists. -/
def ClassTable.enumerated (table : ClassTable) : Ty → List Value
  | .cls c => if table.isBasicSubclass c .enumeration then table.members c else []
  | .literal values => values
  | _ => []

namespace ClassTable

variable {table : ClassTable} {t : Ty}

/-- The shape of an enumeration holds what is listed for its members. -/
theorem shape_enumerated {atVariable : Nat → Shape} {argumentsOf : ClassRef → List Form}
    (lists : table.enumerated t ≠ []) :
    t.stripped.2 = [] ∧ ∃ c, t.shape table atVariable argumentsOf
      = .enumeration c ((table.enumerated t).map table.enumeratedValue) := by
  cases t with
  | cls c =>
    unfold enumerated at lists ⊢
    dsimp only at lists ⊢
    split at lists
    next isEnumeration =>
      have declared : c ≠ .basic .object := by
        rintro rfl
        exact lists rfl
      refine ⟨rfl, some c, ?_⟩
      rw [Ty.shape, classShape, if_neg declared, if_pos isEnumeration, if_pos isEnumeration]
    next => exact absurd rfl lists
  | literal values => exact ⟨rfl, none, rfl⟩
  | _ => exact absurd rfl lists

theorem form_enumerated (lists : table.enumerated t ≠ []) :
    ∃ c, table.form t
      = .of t [] (.enumeration c ((table.enumerated t).map table.enumeratedValue)) := by
  have atDepth : ∀ depth, ∃ c, table.formWithin depth t
      = .of t [] (.enumeration c ((table.enumerated t).map table.enumeratedValue)) := by
    intro depth
    cases depth <;>
      obtain ⟨noNotes, c, shape⟩ := shape_enumerated lists <;>
      exact ⟨c, congrArg₂ (Form.of t) noNotes shape⟩
  exact atDepth table.nestingDepth

end ClassTable

namespace SchemaSource

variable {source : SchemaSource} {owner : ClassRef} {t : Ty} {validator : Validator}

/-- The node of an enumeration lists its members. -/
theorem nodeOf_enumerated (lists : source.catalog.table.enumerated t ≠ []) :
    source.nodeOf owner t = enumerationNode
      ((source.catalog.table.enumerated t).map source.catalog.table.enumeratedValue) := by
  obtain ⟨c, form⟩ := ClassTable.form_enumerated lists
  unfold nodeOf
  rw [form]
  obtain ⟨first, rest, same⟩ := List.exists_cons_of_ne_nil lists
  rw [same]
  cases c <;> rfl

/-- What an enumeration accepts is equal to what is listed for a member, and has the type that all
that is listed has. -/
theorem accepts_enumeration_iff (isDraft7 : validator.dialect = .draft7)
    (lists : source.catalog.table.enumerated t ≠ []) {listed : List Value}
    (isListed : (source.catalog.table.enumerated t).map source.catalog.table.enumeratedValue
      = listed) {payload : Value} :
    validator.Accepts (.dict (source.nodeOf owner t)) payload
      ↔ hasCommonType listed payload = true
        ∧ ∃ each ∈ listed, each.alike Assertion.listedLikeness payload = true := by
  have ends : ∀ value ∈ listed, value.isEndless = false := by
    intro value member
    obtain ⟨original, -, rfl⟩ := List.mem_map.mp (isListed ▸ member)
    exact source.catalog.table.isEndless_enumeratedValue original
  rw [nodeOf_enumerated lists, isListed,
    Validator.accepts_iff_of_settles isDraft7 (isInner_enumeration ends)
      (Validator.settles_enumeration isDraft7 ends), Bool.and_eq_true_iff, List.any_eq_true]

/-! ### Main result -/

/-- A member that is listed is accepted by the schema of its enumeration if its value is written as
it is listed. If not, it is accepted at most for another member, as what is written for the one
happens to be what is listed for the other. -/
theorem accepts_member {excludeNull numericDurations : Bool} {member : Value}
    (isDraft7 : validator.dialect = .draft7) (lists : source.catalog.table.enumerated t ≠ [])
    (isMade : member.isMade = true) :
    (member ∈ source.catalog.table.enumerated t →
        member.withoutName.isWrittenAsListed source.catalog.table numericDurations = true →
        ∃ payload, source.catalog.payloadWithin excludeNull numericDurations member = .ok payload
          ∧ validator.Accepts (.dict (source.nodeOf owner t)) payload)
      ∧ ∀ payload,
        source.catalog.payloadWithin excludeNull numericDurations member = .ok payload →
        validator.Accepts (.dict (source.nodeOf owner t)) payload →
        member ∈ source.catalog.table.enumerated t
            ∧ member.withoutName.isWrittenAsListed source.catalog.table numericDurations = true
          ∨ ∃ other ∈ source.catalog.table.enumerated t, other ≠ member
            ∧ (source.catalog.table.enumeratedValue other).alike Assertion.listedLikeness payload
              = true := by
  refine ⟨fun inside asListed => ?_, fun payload written accepts => ?_⟩
  · obtain ⟨payload, written⟩ := Catalog.exists_payload_member isMade asListed
    have isListed := List.mem_map_of_mem (f := source.catalog.table.enumeratedValue) inside
    have types := Catalog.hasTypesOf_enumeratedValue isMade written asListed
    have alike := (Catalog.alike_enumeratedValue isMade written).trans asListed
    exact ⟨payload, written, (accepts_enumeration_iff isDraft7 lists rfl).mpr
      ⟨types.hasCommonType isListed, _, isListed, alike⟩⟩
  · obtain ⟨-, each, isListed, alike⟩ := (accepts_enumeration_iff isDraft7 lists rfl).mp accepts
    obtain ⟨other, inside, rfl⟩ := List.mem_map.mp isListed
    by_cases same : other = member
    · subst same
      exact .inl ⟨inside, (Catalog.alike_enumeratedValue isMade written).symm.trans alike⟩
    · exact .inr ⟨other, inside, same, alike⟩

end SchemaSource

/-! ### Examples -/

section

open Example

/-- The source of the document of a course. -/
def courseSource : SchemaSource := ⟨courses, [], course⟩

theorem exists_draft7 : ∃ validator : Validator, validator.dialect = .draft7 := by
  have noId : Dialect.draft7.id? courses.table (.dict []) = .ok none := rfl
  obtain ⟨validator, -, isIn⟩ := Validator.exists_ofRoot true noId
  exact ⟨validator, isIn.isDraft7⟩

theorem enumerated_term :
    courses.table.enumerated (.cls term) = [openTerm, firstTerm, springTerm, secondTerm].map
      (ClassTable.memberValue term .none) := rfl

/-- A day is listed as it is written, so that the term in spring is accepted. -/
theorem accepts_spring_term : ∃ validator : Validator, validator.dialect = .draft7
    ∧ courses.table.enumerated (.cls term) ≠ []
    ∧ (ClassTable.memberValue term .none springTerm).isMade = true
    ∧ ∃ payload, courses.payload false (ClassTable.memberValue term .none springTerm) = .ok payload
      ∧ validator.Accepts (.dict (courseSource.nodeOf course (.cls term))) payload := by
  obtain ⟨validator, isDraft7⟩ := exists_draft7
  have lists : courseSource.catalog.table.enumerated (.cls term) ≠ [] := by
    simp [courseSource, enumerated_term]
  have isMade : (ClassTable.memberValue term .none springTerm).isMade = true := rfl
  refine ⟨validator, isDraft7, lists, isMade, ?_⟩
  exact (SchemaSource.accepts_member isDraft7 lists isMade).1
    (by simp [courseSource, enumerated_term]) (by decide)

/-- A decimal number is listed as a text and written as a number, so that the second term is
rejected. -/
theorem not_accepts_member :
    ¬ ∀ (source : SchemaSource) (validator : Validator) (owner : ClassRef) (t : Ty)
      (member : Value), validator.dialect = .draft7 →
      member ∈ source.catalog.table.enumerated t → member.isMade = true →
      ∃ payload, source.catalog.payload false member = .ok payload
        ∧ validator.Accepts (.dict (source.nodeOf owner t)) payload := by
  intro law
  obtain ⟨validator, isDraft7⟩ := exists_draft7
  obtain ⟨payload, written, accepts⟩ := law courseSource validator course (.cls term)
    (ClassTable.memberValue term .none secondTerm) isDraft7
    (by simp [courseSource, enumerated_term]) rfl
  have lists : courseSource.catalog.table.enumerated (.cls term) ≠ [] := by
    simp [courseSource, enumerated_term]
  have listed : (courseSource.catalog.table.enumerated (.cls term)).map
      courseSource.catalog.table.enumeratedValue
        = [.null, .int 1, .str "2024-03-01", .str "2"] := rfl
  have two : courses.payload false (ClassTable.memberValue term .none secondTerm)
      = .ok (.int 2) := rfl
  have noneAlike : [Value.null, .int 1, .str "2024-03-01", .str "2"].any
      (fun each => each.alike Assertion.listedLikeness (.int 2)) = false := by cbv
  cases two.symm.trans written
  obtain ⟨-, each, member, alike⟩ :=
    (SchemaSource.accepts_enumeration_iff isDraft7 lists listed).mp accepts
  exact List.any_eq_false.mp noneAlike each member alike

end

end ModelSchema
