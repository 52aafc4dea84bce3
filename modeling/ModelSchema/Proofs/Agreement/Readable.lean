import ModelSchema.Proofs.Agreement.Bodies

/-!
Outlines of documents that a validator can read.

* `SchemaSource.IsWritten`: classes with a body in the document.
* `SchemaSource.IsKnown`: classes in annotations for which the document has all that is referred to.
* `SchemaSource.IsReadable`: all bodies in the document are made of annotations with known classes.
* `IsReadableBody.usual`: so the nodes of all properties are usual, and they end.
-/

namespace ModelSchema

namespace Ty

theorem BuiltFrom.mono {isPart isPartElse : ClassRef → Prop} {t : Ty}
    (weaker : ∀ c, isPart c → isPartElse c) (built : t.BuiltFrom isPart) : t.BuiltFrom isPartElse := by
  induction built with
  | cls part => exact .cls (weaker _ part)
  | list _ ih => exact .list ih
  | sequence _ ih => exact .sequence ih
  | tuple something _ ih => exact .tuple something ih
  | map _ ih => exact .map ih
  | union flat _ ih => exact .union flat ih

end Ty

namespace Outline

/-- Whether a class has a definition that is its body. -/
def HasModel (outline : Outline) (c : ClassRef) : Prop :=
  ∃ d ∈ outline.definitions, d.type = c ∧ d.kind = .model

end Outline

namespace SchemaSource

/-- Whether the body of a class is in the document, as a definition or as the document itself. -/
def IsWritten (source : SchemaSource) (outline : Outline) (c : ClassRef) : Prop :=
  (c = source.root ∧ source.subTypes source.root = []) ∨ outline.HasModel c

/-- Whether the document has the bodies that a class stands for. -/
def IsPresent (source : SchemaSource) (outline : Outline) (c : ClassRef) : Prop :=
  (c = source.root ∧ source.subTypes source.root = [])
    ∨ ∀ d ∈ source.choices c, outline.HasModel d

/-- Whether the document has all that an annotation with a class refers to. -/
def IsKnown (source : SchemaSource) (outline : Outline) (c : ClassRef) : Prop :=
  (∃ b, c = .basic b ∧ b.isScalar = true
      ∧ (b = .instant → outline.has (.basic .instant) = true))
    ∨ (source.catalog.table.IsObject c ∧ source.TellsApart c ∧ source.IsPresent outline c)

/-- What is known of the properties of a class with a body in the document. A property that gives way to
the discriminator is not followed. -/
structure IsReadableBody (source : SchemaSource) (outline : Outline) (c : ClassRef)
    (props : List Property) : Prop where
  found : source.catalog.table.properties c = .ok props
  distinct : HasDistinctKeys props
  unlimited : ∀ p ∈ props, p.limits = []
  known : ∀ p ∈ source.bodyProperties c props, p.annotation.BuiltFrom (source.IsKnown outline)

/-- Whether the document of an outline has bodies and the schema of instants, and what these refer
to. -/
structure IsReadable (source : SchemaSource) (outline : Outline) : Prop where
  wellFormed : source.catalog.WellFormed
  plain : source.catalog.table.HasNoFragments
  types : (outline.definitions.map (·.type)).Nodup
  names : (outline.definitions.map (·.name)).Nodup
  spelled : ∀ d ∈ outline.definitions, ∀ character ∈ d.name.toList, isNameChar character = true
  kinds : ∀ d ∈ outline.definitions, (d.type ≠ .basic .instant ∧ d.kind = .model)
    ∨ (d.type = .basic .instant ∧ d.kind = .fixed instantFormat.2)
  bodies : ∀ c, source.IsWritten outline c → ∃ props, source.IsReadableBody outline c props

variable {source : SchemaSource} {outline : Outline} {names : ClassRef → String} {c : ClassRef}
  {p : Property} {props : List Property} {t : Ty}

theorem choices_of_nil (noSubTypes : source.subTypes c = []) : source.choices c = [c] := by
  unfold choices
  rw [noSubTypes]

theorem choices_of_ne_nil (something : source.subTypes c ≠ []) :
    source.choices c = source.subTypes c := by
  unfold choices
  split
  next nothing => exact absurd nothing something
  next => rfl

/-- The bodies that a class stands for are in the document. -/
theorem IsPresent.isWritten (present : source.IsPresent outline c) {d : ClassRef}
    (member : d ∈ source.choices c) : source.IsWritten outline d := by
  rcases present with ⟨rfl, noSubTypes⟩ | all
  · rw [choices_of_nil noSubTypes] at member
    exact .inl ⟨List.mem_singleton.mp member, noSubTypes⟩
  · exact .inr (all d member)

/-- Subtypes have definitions. -/
theorem IsPresent.hasModel (present : source.IsPresent outline c) {d : ClassRef}
    (member : d ∈ source.subTypes c) : outline.HasModel d := by
  have something : source.subTypes c ≠ [] := List.ne_nil_of_mem member
  have all := present.resolve_left fun isRoot => something (isRoot.1 ▸ isRoot.2)
  exact all d (choices_of_ne_nil something ▸ member)

theorem isPart_of_isKnown (known : source.IsKnown outline c) : source.catalog.table.IsPart c := by
  rcases known with ⟨b, same, isScalar, -⟩ | ⟨isObject, -, -⟩
  · exact .inl ⟨b, same, isScalar⟩
  · exact .inr isObject

/-- The node of an annotation is made from its shape, at whatever depth type variables are followed.
-/
theorem exists_form_eq (table : ClassTable) (t : Ty) :
    ∃ atVariable argumentsOf, table.form t = t.formAt table atVariable argumentsOf := by
  unfold ClassTable.form
  cases table.nestingDepth with
  | zero => exact ⟨_, _, rfl⟩
  | succ depth => exact ⟨_, _, rfl⟩

theorem exists_innerNode_eq (unlimited : p.limits = []) :
    ∃ atVariable argumentsOf, source.innerNode names c p
      = source.annotationNode names c atVariable argumentsOf p.annotation := by
  obtain ⟨atVariable, argumentsOf, form⟩ := exists_form_eq source.catalog.table p.annotation
  refine ⟨atVariable, argumentsOf, ?_⟩
  unfold innerNode annotationNode
  rw [unlimited, form]

namespace IsReadableBody

variable (readable : source.IsReadableBody outline c props)
include readable

/-- The node of a property is usual, and it ends. -/
theorem usual (wellFormed : source.catalog.WellFormed) (member : p ∈ source.bodyProperties c props) :
    (source.innerNode names c p).IsUsual
      ∧ (Value.dict (source.innerNode names c p)).isEndless = false := by
  obtain ⟨atVariable, argumentsOf, same⟩ :=
    exists_innerNode_eq (readable.unlimited p (mem_of_mem_bodyProperties member))
  rw [same]
  exact usual_annotation wellFormed
    ((readable.known p member).mono fun _ known => isPart_of_isKnown known)

theorem isInner (wellFormed : source.catalog.WellFormed)
    (plain : source.catalog.table.HasNoFragments) (member : p ∈ source.bodyProperties c props) :
    (source.propertyNode names c p).IsInner :=
  isInner_property (plain.property readable.found (mem_of_mem_bodyProperties member))
    (readable.usual wellFormed member).1 (readable.usual wellFormed member).2

/-- What stands in the table of properties. -/
theorem exists_of_mem_propertyNodes {entry : Value × Value}
    (member : entry ∈ source.propertyNodes names c props) :
    (∃ d, source.discriminator? c = some d
        ∧ entry = (.str d, .dict (discriminatorNode (source.catalog.typeName c))))
      ∨ ∃ p ∈ source.bodyProperties c props,
        entry = (.str p.publicName, .dict (source.propertyNode names c p)) := by
  rw [propertyNodes_eq readable.distinct] at member
  obtain ⟨field, inside, rfl⟩ := List.mem_map.mp member
  rcases List.mem_append.mp inside with marker | property
  · obtain ⟨d, isDiscriminator, rfl⟩ := List.mem_map.mp marker
    exact .inl ⟨d, Option.mem_toList.mp isDiscriminator, rfl⟩
  · obtain ⟨p, isProperty, rfl⟩ := List.mem_map.mp property
    exact .inr ⟨p, isProperty, rfl⟩

theorem isEndless_propertyNodes (wellFormed : source.catalog.WellFormed)
    (plain : source.catalog.table.HasNoFragments) :
    (Value.dict (source.propertyNodes names c props)).isEndless = false := by
  refine Value.isEndless_dict.mpr fun entry member => ?_
  rcases readable.exists_of_mem_propertyNodes member with ⟨d, -, rfl⟩ | ⟨p, isProperty, rfl⟩
  · exact isInner_discriminator.ends
  · exact (readable.isInner wellFormed plain isProperty).ends

theorem isEndless_content (wellFormed : source.catalog.WellFormed)
    (plain : source.catalog.table.HasNoFragments) :
    (Value.dict (source.contentNode names c props)).isEndless = false :=
  Validator.isEndless_closedNode (readable.isEndless_propertyNodes wellFormed plain)

end IsReadableBody

end SchemaSource

end ModelSchema
