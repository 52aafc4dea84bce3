import ModelSchema.Proofs.Agreement.Decision

/-!
What a document does not accept.

* `rejects_null`: annotations that are no unions do not accept null.
* `rejects_other`, `object_rejects_other`: the body of a class does not accept what is written for
  another class with the same discriminator, and a class with subtypes what is written for none of
  them.
-/

namespace ModelSchema.SchemaSource

variable {source : SchemaSource} {outline : Outline} {validator : Validator} {c d : ClassRef}
  {owner : ClassRef} {atVariable : Nat → Shape} {argumentsOf : ClassRef → List Form} {t : Ty}
  {value : Value}

variable (readable : source.IsReadable outline) (reads : source.Reads outline validator)
include readable reads

/-- Bodies accept nothing but objects. -/
theorem content_rejects (written : source.IsWritten outline c)
    (noObject : JsonType.object.holds .draft7 value = false) :
    validator.answer (.dict (source.classContent outline.nameOf c)) value = false := by
  obtain ⟨props, body⟩ := readable.bodies c written
  rw [body.classContent_eq]
  exact Validator.answer_eq (Validator.settles_closed_of_other reads.isDraft7
    (body.isEndless_propertyNodes readable.wellFormed readable.plain) noObject)

/-- Neither do classes. -/
theorem object_rejects (present : source.IsPresent outline c)
    (noObject : JsonType.object.holds .draft7 value = false) :
    validator.answer (.dict (source.objectNode outline.nameOf c)) value = false := by
  have bodies := bodiesDecide readable reads value
  by_cases noSubTypes : source.subTypes c = []
  · have written := present.isWritten (choices_of_nil noSubTypes ▸ List.mem_cons_self)
    rw [(leads_object readable reads present noSubTypes).answer_eq (bodies c written)]
    exact content_rejects readable reads written noObject
  · rw [Validator.answer_eq (settles_choice readable reads present noSubTypes bodies)]
    have none : (source.subTypes c).filter (fun d =>
        validator.answer (.dict (source.classContent outline.nameOf d)) value) = [] := by
      refine List.filter_eq_nil_iff.mpr fun d inside => ?_
      rw [content_rejects readable reads (.inr (present.hasModel inside)) noObject]
      exact Bool.false_ne_true
    rw [none]
    rfl

/-- Annotations that are no unions do not accept null. -/
theorem rejects_null (built : t.BuiltFrom (source.IsKnown outline)) (noUnion : t.isUnion = false) :
    validator.answer
      (.dict (source.annotationNode outline.nameOf owner atVariable argumentsOf t)) .null
      = false := by
  cases built with
  | cls known =>
    rcases known with ⟨b, rfl, isScalar, defined⟩ | ⟨isObject, -, present⟩
    · rw [annotationNode_scalar isScalar]
      by_cases isInstant : b = .instant
      · subst isInstant
        have leads := reads.instant (defined rfl)
        rw [leafNode_instant, leads.answer_eq (Validator.decides_instant reads.isDraft7)]
        exact Validator.answer_eq (Validator.settles_closed_of_other reads.isDraft7 rfl rfl)
      · obtain ⟨leaf, same, isType⟩ := leafNode_scalar isScalar isInstant
        rw [same, Validator.answer_eq (Validator.settles_leaf reads.isDraft7 isType)]
        cases b <;> cases source.catalog.table.numericDurations owner <;> rfl
    · rw [annotationNode_object readable.wellFormed isObject]
      exact object_rejects readable reads present rfl
  | list inner =>
    rw [annotationNode_list]
    exact Validator.answer_eq (Validator.settles_array_of_other reads.isDraft7
      (isInner_known readable.wellFormed inner) rfl)
  | sequence inner =>
    rw [annotationNode_sequence]
    exact Validator.answer_eq (Validator.settles_array_of_other reads.isDraft7
      (isInner_known readable.wellFormed inner) rfl)
  | map inner =>
    rw [annotationNode_map]
    exact Validator.answer_eq (Validator.settles_map_of_other reads.isDraft7
      (isInner_known readable.wellFormed inner) rfl)
  | @tuple ts something built =>
    have noEllipsis : .ellipsis ∉ ts := fun member => nomatch built _ member
    rw [annotationNode_tuple something noEllipsis]
    refine Validator.answer_eq (Validator.settles_fixedArray_of_other reads.isDraft7 ?_ rfl)
    intro inner member
    obtain ⟨t, inside, rfl⟩ := List.mem_map.mp member
    exact isInner_known readable.wellFormed (built t inside)
  | union _ _ => cases noUnion

/-- The body of a class does not accept what is written for another class with the same
discriminator. -/
theorem rejects_other (written : source.IsWritten outline c) {property : String}
    (isDiscriminator : source.discriminator? c = some property) {entries : Node} {name : String}
    (marked : entries.get? property = some (.str name)) (differs : source.catalog.typeName c ≠ name) :
    validator.answer (.dict (source.classContent outline.nameOf c)) (.dict entries) = false := by
  obtain ⟨props, body⟩ := readable.bodies c written
  have marker : (property, .dict (discriminatorNode (source.catalog.typeName c)))
      ∈ source.markerFields c ++ source.propertyFields outline.nameOf c props := by
    refine List.mem_append_left _ (List.mem_map.mpr ⟨property, ?_, rfl⟩)
    exact Option.mem_toList.mpr isDiscriminator
  rw [answer_content readable reads body]
  refine Validator.closedAnswer_eq_false marker marked ?_
  rw [answer_discriminator reads.isDraft7]
  exact beq_false_of_ne differs

/-- A class with subtypes does not accept what has the mark of none of them. -/
theorem object_rejects_other (present : source.IsPresent outline c)
    (something : source.subTypes c ≠ []) {property : String}
    (shared : ∀ d ∈ source.subTypes c, source.discriminator? d = some property) {entries : Node}
    {name : String} (marked : entries.get? property = some (.str name))
    (differs : ∀ d ∈ source.subTypes c, source.catalog.typeName d ≠ name) :
    validator.answer (.dict (source.objectNode outline.nameOf c)) (.dict entries) = false := by
  have none : (source.subTypes c).filter (fun d => validator.answer
      (.dict (source.classContent outline.nameOf d)) (.dict entries)) = [] := by
    refine List.filter_eq_nil_iff.mpr fun d inside => ?_
    rw [rejects_other readable reads (.inr (present.hasModel inside)) (shared d inside) marked
      (differs d inside)]
    exact Bool.false_ne_true
  rw [Validator.answer_eq (settles_choice readable reads present something
    (bodiesDecide readable reads _)), none]
  rfl

end ModelSchema.SchemaSource
