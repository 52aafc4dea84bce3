import ModelSchema.Proofs.Class.Declarations
import ModelSchema.Proofs.Payload.Discriminator

/-!
The names in closed lists are the ones that are written.

A closed list names subtypes of the class that it is declared for. The name of a class is looked up from
the other end, in the lists of its ancestors, nearest first. The class itself is not one of them, although
its own list can have it as an entry; so that name is never found.

* `listedName?_eq_some`: a name that is given to a class on an ancestor is found, if no other is.
* `typeName_of_listedName?`: it is the name of the class, unless one is declared on the class itself.
* `listedName_written`: after any declarations, the name in the closed list of another class is the one
  in the body of the class, and in what its instances are written as.
-/

namespace ModelSchema

/-! ### Fragments that leave a keyword alone -/

/-- Whether a fragment changes nothing about a keyword, whatever it is injected into. -/
def Fragment.LeavesAlone (fragment : Fragment) (keyword : String) : Prop :=
  ∀ node owner, Node.get? (fragment.edited node owner) keyword = node.get? keyword

/-- Then the keyword is in the body as it was before. -/
theorem SchemaSource.get?_bodyNode_of_leavesAlone {source : SchemaSource}
    {names : ClassRef → String} {c : ClassRef} {props : List Property} {keyword : String}
    (alone : ∀ fragment, (source.catalog.table.config c).extra.join = some fragment →
      fragment.LeavesAlone keyword) :
    (source.bodyNode names c props).get? keyword
      = (source.plainBody names c props).get? keyword := by
  rw [bodyNode_eq_edited]
  split
  next fragment given =>
    split
    · rfl
    · exact Node.get?_reorder.trans (alone fragment given _ _)
  next => rfl

theorem nonEmpty?_eq_some {text name : String} :
    nonEmpty? text = some name ↔ text = name ∧ name ≠ "" := by
  unfold nonEmpty?
  split
  next empty =>
    have isEmpty : text = "" := String.isEmpty_iff.mp empty
    simp [isEmpty, eq_comm]
  next nonempty =>
    have notEmpty : text ≠ "" := mt String.isEmpty_iff.mpr nonempty
    constructor
    · rintro ⟨⟩
      exact ⟨rfl, notEmpty⟩
    · rintro ⟨rfl, -⟩
      rfl

namespace Catalog

variable {catalog : Catalog} {c base : ClassRef} {name d : String}

/-! ### Looking up names -/

/-- A name that is found is one that an ancestor gives to the class. -/
theorem exists_entry_of_listedName? (found : catalog.listedName? c = some name) :
    name ≠ "" ∧ ∃ ancestor ∈ (catalog.table.ancestors c).tail,
      (c, some name) ∈ catalog.declaredSubTypes ancestor := by
  obtain ⟨ancestor, above, found⟩ := List.exists_of_findSome?_eq_some found
  obtain ⟨⟨entry, label⟩, member, given⟩ := List.exists_of_findSome?_eq_some found
  dsimp only at given
  obtain ⟨same, given⟩ := Option.ite_none_right_eq_some.mp given
  obtain ⟨text, rfl, given⟩ := Option.bind_eq_some_iff.mp given
  obtain ⟨rfl, nonempty⟩ := nonEmpty?_eq_some.mp given
  exact ⟨nonempty, ancestor, above, same ▸ member⟩

/-- A name that an ancestor gives to a class is found, if no other one is given to it. -/
theorem listedName?_eq_some (above : base ∈ (catalog.table.ancestors c).tail)
    (listed : (c, some name) ∈ catalog.declaredSubTypes base) (nonempty : name ≠ "")
    (only : ∀ other label, (c, some label) ∈ catalog.declaredSubTypes other → label ≠ "" →
      label = name) : catalog.listedName? c = some name := by
  cases found : catalog.listedName? c with
  | none =>
    unfold listedName? at found
    have nothing := List.findSome?_eq_none_iff.mp found base above
    have unnamed := List.findSome?_eq_none_iff.mp nothing _ listed
    simp [nonEmpty?, nonempty] at unnamed
  | some label =>
    obtain ⟨isName, ancestor, -, member⟩ := exists_entry_of_listedName? found
    rw [only ancestor label member isName]

theorem typeName_of_listedName?
    (unnamed : (recordedFor? catalog.markers.typeNames c).bind nonEmpty? = none)
    (found : catalog.listedName? c = some name) : catalog.typeName c = name := by
  unfold typeName
  rw [unnamed, found]

/-! ### Main result -/

/-- After any declarations: the name that the closed list of a class gives to another one is the name
of that class, if none is declared on it and no other list gives it another name. Where the class has a
discriminator, its body has the name as the one value of that property, unless a fragment that is
injected changes the properties; and unless a computed field is written under the discriminator, so has
what instances of the class are written as, wherever they stand. -/
theorem listedName_written (declared : catalog.Declared)
    (listed : (c, some name) ∈ catalog.declaredSubTypes base) (nonempty : name ≠ "")
    (unnamed : (recordedFor? catalog.markers.typeNames c).bind nonEmpty? = none)
    (only : ∀ other label, (c, some label) ∈ catalog.declaredSubTypes other → label ≠ "" →
      label = name) (another : base ≠ c) :
    catalog.typeName c = name
      ∧ ∀ d, catalog.discriminator? c = some d → d ≠ "" →
        (∀ registry root names props, (∀ fragment,
            (catalog.table.config c).extra.join = some fragment →
            fragment.LeavesAlone "properties") →
          ∃ nodes, ((SchemaSource.mk catalog registry root).bodyNode names c props).get?
              "properties" = some (.dict nodes)
            ∧ Node.get? nodes d = some (.dict (SchemaSource.discriminatorNode name)))
        ∧ ∀ info, catalog.table.model? c = some info →
          (∀ field ∈ info.computed, field.publicName ≠ d) →
          ∀ excludeNull n m value payload path attributes computed,
            catalog.Holds excludeNull n value path m (.modelInstance c attributes computed) →
            catalog.IsPayload excludeNull n value payload →
            ∃ entries, payload.part? path = some (.dict entries)
              ∧ Node.get? entries d = some (.str name) := by
  have sound := declared.sound
  have above : base ∈ (catalog.table.ancestors c).tail :=
    sound.layered.mem_tail_of_mem_ancestors (mem_ancestors_of_declaredSubTypes sound.listed listed)
      another
  have named : catalog.typeName c = name :=
    typeName_of_listedName? unnamed (listedName?_eq_some above listed nonempty only)
  refine ⟨named, fun d marked isDiscriminator => ⟨?_, ?_⟩⟩
  · intro registry root names props alone
    generalize isSource : SchemaSource.mk catalog registry root = source
    obtain rfl : source.catalog = catalog := isSource ▸ rfl
    have written : source.discriminator? c = some d :=
      writtenDiscriminator?_eq marked isDiscriminator
    refine ⟨source.propertyNodes names c props, ?_, ?_⟩
    · rw [SchemaSource.get?_bodyNode_of_leavesAlone alone, SchemaSource.get?_plainBody]
      rfl
    · rw [SchemaSource.get?_propertyNodes_discriminator written, named]
  · intro info model apart excludeNull n m value payload path attributes computed holds written
    rw [← named]
    exact holds.get?_discriminator marked isDiscriminator model apart written

end Catalog

/-! ### Examples -/

section

open Example Catalog

/-- The gallery is what its classes, their discriminator and the closed list lead to. -/
theorem declared_gallery : gallery.Declared := by
  have grown : ClassTable.empty.Extends gallery.table := by
    refine ⟨fun c known => ?_, by decide⟩
    cases c with
    | basic c => rfl
    | declared i => simp [ClassTable.empty] at known
  have classes := Declared.empty.step (.classes grown)
  have marked := classes.step (.typeInfo exhibit "kind")
  have accepted : declareSubTypes ⟨gallery.table, ⟨[], [(exhibit, "kind")], [], [], []⟩⟩ exhibit
      [(.cls exhibit, some "thing"), (.cls bust, some "head")] = .ok gallery := rfl
  exact marked.step (.subTypes accepted)

/-- The closed list of exhibits is the only one in the gallery. -/
theorem listed_gallery {c other : ClassRef} {label : Option String}
    (member : (c, label) ∈ gallery.declaredSubTypes other) :
    other = exhibit ∧ (c, label) ∈ [(exhibit, some "thing"), (bust, some "head")] := by
  by_cases same : other = exhibit
  · subst same
    exact ⟨rfl, member⟩
  · have nothing : gallery.declaredSubTypes other = [] := by
      simp [gallery, declaredSubTypes, recordedFor?, Ne.symm same]
    rw [nothing] at member
    cases member

/-- A bust is a head, in its schema and where it is written, as the list of exhibits says. -/
theorem listedName_written_bust :
    gallery.typeName bust = "head"
      ∧ (∃ nodes, ((SchemaSource.mk gallery [] bust).bodyNode (fun _ => "") bust []).get?
          "properties" = some (.dict nodes)
        ∧ Node.get? nodes "kind" = some (.dict (SchemaSource.discriminatorNode "head")))
      ∧ ∃ payload entries, gallery.payloadWithin false false (.list [.modelInstance bust [] []])
          = .ok payload
        ∧ payload.part? [.item 0] = some (.dict entries)
        ∧ Node.get? entries "kind" = some (.str "head") := by
  have only : ∀ other label, (bust, some label) ∈ gallery.declaredSubTypes other → label ≠ "" →
      label = "head" := by
    intro other label member _
    have entry := (listed_gallery member).2
    simpa [exhibit, bust] using entry
  have listed : (bust, some "head") ∈ gallery.declaredSubTypes exhibit := by decide
  obtain ⟨named, written⟩ := listedName_written declared_gallery listed
    (by decide) rfl only (by decide)
  obtain ⟨bodies, payloads⟩ := written "kind" rfl (by decide)
  have own : gallery.payloadWithin false false (.list [.modelInstance bust [] []])
      = .ok (.list [.record [("kind", .str "head")]]) := rfl
  obtain ⟨entries, at?, kind⟩ := payloads _ rfl (by simp) false false false _ _ [.item 0] [] []
    (.item (by decide) rfl .here) own
  refine ⟨named, bodies _ _ _ _ ?_, _, entries, own, at?, kind⟩
  intro fragment given
  cases given

/-- The name that the list of exhibits gives to exhibits themselves is not used. -/
theorem not_listedName_written_exhibit :
    ¬ ∀ (catalog : Catalog) (c base : ClassRef) (name : String), catalog.Declared →
      (c, some name) ∈ catalog.declaredSubTypes base → name ≠ "" →
      recordedFor? catalog.markers.typeNames c = none →
      (∀ other label, (c, label) ∈ catalog.declaredSubTypes other →
        other = base ∧ label = some name) →
      catalog.typeName c = name := by
  intro used
  have only : ∀ other label, (exhibit, label) ∈ gallery.declaredSubTypes other →
      other = exhibit ∧ label = some "thing" := by
    intro other label member
    obtain ⟨rfl, entry⟩ := listed_gallery member
    refine ⟨rfl, ?_⟩
    simpa [exhibit, bust] using entry
  have named := used gallery exhibit exhibit "thing" declared_gallery (by decide) (by decide) rfl only
  have default : gallery.typeName exhibit = "exhibit" := rfl
  exact absurd (default.symm.trans named) (by decide)

end

end ModelSchema
