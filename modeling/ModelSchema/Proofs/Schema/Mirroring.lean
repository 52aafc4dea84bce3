import ModelSchema.Proofs.Property
import ModelSchema.Proofs.Schema.Dependence
import ModelSchema.Proofs.Schema.Records
import ModelSchema.Proofs.Schema.Refers

/-!
The references in a body are those its outline has foreseen.

Bodies are gone through twice: for the outline, which gives names to definitions, and once these are
known for the nodes. `Mirrors` says that the references in a part of a schema are to the document
itself, or to the definitions of the classes in the steps of that part.

* `mirrors_form`: the node of an annotation mirrors its steps.
* `sound_body`, `complete_body`: the body of a class mirrors its steps, when no fragment is injected.
-/

namespace ModelSchema

/-- What a reference to a definition says. -/
def definitionPointer (name : String) : Value := .str s!"#/{definitionsKeyword}/{name}"

/-- What a reference to the document itself says. -/
def rootPointer : Value := .str "#"

namespace SchemaSource

/-- Whether the references of a part of a schema are those in some steps, in which `names` tells the
definitions. A reference to the document itself takes no step. -/
structure Mirrors (source : SchemaSource) (names : ClassRef → String) (refers : Value → Prop)
    (steps : List OutlineStep) : Prop where
  sound : ∀ reference, refers reference →
    (reference = rootPointer ∧ source.subTypes source.root = [])
      ∨ ∃ c label kind, .reference c label kind ∈ steps ∧ reference = definitionPointer (names c)
  complete : ∀ c label kind, .reference c label kind ∈ steps → refers (definitionPointer (names c))

variable {source : SchemaSource} {names : ClassRef → String} {owner : ClassRef}

namespace Mirrors

variable {refers refers' : Value → Prop} {steps more : List OutlineStep}

theorem congr (same : ∀ reference, refers reference ↔ refers' reference)
    (mirrors : source.Mirrors names refers' steps) : source.Mirrors names refers steps :=
  ⟨fun reference h => mirrors.sound reference ((same reference).mp h),
    fun c label kind member => (same _).mpr (mirrors.complete c label kind member)⟩

/-- Steps that are no references do not count. -/
theorem ofSteps (mirrors : source.Mirrors names refers steps)
    (same : ∀ c label kind, .reference c label kind ∈ more ↔ .reference c label kind ∈ steps) :
    source.Mirrors names refers more := by
  refine ⟨fun reference h => ?_, fun c label kind member =>
    mirrors.complete c label kind ((same c label kind).mp member)⟩
  rcases mirrors.sound reference h with root | ⟨c, label, kind, member, equal⟩
  · exact .inl root
  · exact .inr ⟨c, label, kind, (same c label kind).mpr member, equal⟩

/-- Nothing mirrors steps without references. -/
theorem nothing (no : ∀ reference, ¬ refers reference)
    (none : ∀ c label kind, .reference c label kind ∉ steps) : source.Mirrors names refers steps :=
  ⟨fun reference h => absurd h (no reference),
    fun c label kind member => absurd member (none c label kind)⟩

theorem append (first : source.Mirrors names refers steps)
    (second : source.Mirrors names refers' more) :
    source.Mirrors names (fun reference => refers reference ∨ refers' reference) (steps ++ more) := by
  constructor
  · rintro reference (here | there)
    · rcases first.sound reference here with root | ⟨c, label, kind, member, same⟩
      · exact .inl root
      · exact .inr ⟨c, label, kind, List.mem_append_left _ member, same⟩
    · rcases second.sound reference there with root | ⟨c, label, kind, member, same⟩
      · exact .inl root
      · exact .inr ⟨c, label, kind, List.mem_append_right _ member, same⟩
  · intro c label kind member
    rcases List.mem_append.mp member with here | there
    · exact .inl (first.complete c label kind here)
    · exact .inr (second.complete c label kind there)

end Mirrors

/-! ### References of shapes -/

theorem refers_definitionReference {name : String} {reference : Value} :
    Refers (.dict (definitionReference name)) reference ↔ reference = definitionPointer name :=
  refers_reference

/-- A choice among definitions mirrors the steps of its classes. -/
theorem mirrors_branches (subTypes : List ClassRef) :
    source.Mirrors names
      (Refers (.dict (branchesNode (subTypes.map fun s => definitionReference (names s)))))
      (subTypes.map source.modelReference) := by
  constructor
  · intro reference refers
    obtain ⟨node, member, refers⟩ := refers_branches.mp refers
    obtain ⟨s, hs, rfl⟩ := List.mem_map.mp member
    exact .inr ⟨s, _, _, List.mem_map_of_mem hs, refers_definitionReference.mp refers⟩
  · intro c label kind member
    obtain ⟨s, hs, same⟩ := List.mem_map.mp member
    cases same
    exact refers_branches.mpr ⟨_, List.mem_map_of_mem hs, refers_definitionReference.mpr rfl⟩

theorem mirrors_object (c : ClassRef) :
    source.Mirrors names (Refers (.dict (source.objectNode names c))) (source.objectSteps c) := by
  unfold objectNode objectSteps
  cases found : source.subTypes c with
  | nil =>
    dsimp only
    split
    next isRoot =>
      refine ⟨fun reference refers => .inl ⟨refers_reference.mp refers, isRoot ▸ found⟩, ?_⟩
      exact fun _ _ _ member => absurd member List.not_mem_nil
    next notRoot =>
      refine ⟨fun reference refers => .inr ⟨c, _, _, List.mem_singleton.mpr rfl, ?_⟩, ?_⟩
      · exact refers_definitionReference.mp refers
      · intro d label kind member
        cases List.mem_singleton.mp member
        exact refers_definitionReference.mpr rfl
  | cons first rest => exact mirrors_branches (first :: rest)

theorem not_refers_empty {reference : Value} : ¬ Refers (.dict []) reference :=
  not_refers_of_plain fun _ member => absurd member List.not_mem_nil

theorem mirrors_leaf (c : ClassRef) :
    source.Mirrors names (Refers (.dict (source.leafNode names owner c)))
      (source.leafSteps owner c) := by
  unfold leafNode leafSteps
  dsimp only
  cases source.catalog.table.objectFormat? c with
  | some format =>
    refine ⟨fun reference refers => .inr ⟨c, _, _, List.mem_singleton.mpr rfl, ?_⟩, ?_⟩
    · exact refers_definitionReference.mp refers
    · intro d label kind member
      cases List.mem_singleton.mp member
      exact refers_definitionReference.mpr rfl
  | none =>
    dsimp only
    cases source.catalog.table.leafFormat? (source.catalog.table.numericDurations owner) c with
    | some leaf => exact .nothing (fun _ => not_refers_leaf) (by simp)
    | none => exact .nothing (fun _ => not_refers_empty) (by simp)

theorem Mirrors.limited {node : Node} {limits : Limits} {steps : List OutlineStep}
    (mirrors : source.Mirrors names (Refers (.dict node)) steps) :
    source.Mirrors names (Refers (.dict (node.limited limits))) steps :=
  mirrors.congr fun _ => refers_limited

mutual

/-- The node of an annotation mirrors its steps. -/
theorem mirrors_form :
    ∀ (form : Form) (limits : Limits),
      source.Mirrors names (Refers (.dict (source.formNode names owner limits form)))
        (source.formSteps owner form)
  | .of _ notes shape, limits => by
    rw [formNode, formSteps]
    refine (mirrors_shape shape _).ofSteps fun c label kind => ?_
    rw [List.mem_append]
    split <;> simp

theorem mirrors_shape :
    ∀ (shape : Shape) (limits : Limits),
      source.Mirrors names (Refers (.dict (source.shapeNode names owner limits shape)))
        (source.shapeSteps owner shape)
  | .union options nullable, limits => by
    rw [shapeNode, shapeSteps]
    exact (mirrors_forms options limits).congr fun _ => refers_union
  | .any, limits => by
    rw [shapeNode, shapeSteps]
    exact (Mirrors.nothing (fun _ => not_refers_empty) (by simp)).limited
  | .null, limits => by
    rw [shapeNode, shapeSteps]
    have plain : ∀ reference, ¬ Refers (.dict (Node.single "type" (.str "null"))) reference := by
      refine fun reference => not_refers_of_plain fun entry member => ?_
      cases List.mem_singleton.mp member
      exact ⟨"type", rfl, by decide⟩
    exact (Mirrors.nothing plain (by simp)).limited
  | .leaf c, limits => by
    rw [shapeNode, shapeSteps]
    exact (mirrors_leaf c).limited
  | .enumeration (some c) [], limits => by
    rw [shapeNode, shapeSteps]
    exact (mirrors_leaf c).limited
  | .enumeration none [], limits => by
    rw [shapeNode, shapeSteps]
    · exact (Mirrors.nothing (fun _ => not_refers_enumeration) (by simp)).limited
    · simp
  | .enumeration none (value :: rest), limits => by
    rw [shapeNode, shapeSteps]
    · exact (Mirrors.nothing (fun _ => not_refers_enumeration) (by simp)).limited
    all_goals simp
  | .enumeration (some c) (value :: rest), limits => by
    rw [shapeNode, shapeSteps]
    · exact (Mirrors.nothing (fun _ => not_refers_enumeration) (by simp)).limited
    all_goals simp
  | .object c arguments, limits => by
    rw [shapeNode, shapeSteps]
    exact (mirrors_object c).limited
  | .array element unique, limits => by
    rw [shapeNode, shapeSteps]
    exact ((mirrors_form element []).congr fun _ => refers_array).limited
  | .fixedArray elements, limits => by
    rw [shapeNode, shapeSteps]
    exact ((mirrors_forms elements []).congr fun _ => refers_fixedArray).limited
  | .map key value, limits => by
    rw [shapeNode, shapeSteps]
    exact ((mirrors_form value []).congr fun _ => refers_map).limited
  | .unsupported reason, limits => by
    rw [shapeNode, shapeSteps]
    exact .nothing (fun _ => not_refers_empty) (by simp)

theorem mirrors_forms :
    ∀ (forms : List Form) (limits : Limits),
      source.Mirrors names
        (fun reference => ∃ node ∈ source.formNodes names owner limits forms,
          Refers (.dict node) reference)
        (source.formsSteps owner forms)
  | [], limits => by
    rw [formNodes, formsSteps]
    exact .nothing (by simp) (by simp)
  | form :: rest, limits => by
    rw [formNodes, formsSteps]
    exact ((mirrors_form form limits).append (mirrors_forms rest limits)).congr
      fun _ => List.exists_mem_cons_iff ..

end

/-! ### Properties -/

/-- The node of a property mirrors its steps. -/
theorem mirrors_property {p : Property} (plain : p.extra = none) :
    source.Mirrors names (Refers (.dict (source.propertyNode names owner p)))
      (source.propertySteps owner p) := by
  have steps : ∀ c label kind, .reference c label kind ∈ source.propertySteps owner p
      ↔ .reference c label kind ∈ source.formSteps owner (source.catalog.table.form p.annotation) := by
    intro c label kind
    unfold propertySteps fragmentSteps
    rw [plain]
    simp
  refine (mirrors_form (source.catalog.table.form p.annotation) p.limits).ofSteps steps |>.congr
    fun reference => ?_
  have kept : ∀ keyword ∈ "$ref" :: Node.schemaKeywords,
      (source.propertyNode names owner p).get? keyword
        = (source.formNode names owner p.limits (source.catalog.table.form p.annotation)).get?
            keyword := by
    intro keyword member
    have differs : ∀ other, other ∉ "$ref" :: Node.schemaKeywords → other ≠ keyword := by
      rintro _ notKeyword rfl
      exact notKeyword member
    exact get?_propertyNode plain (differs _ (by decide)) (differs _ (by decide))
      (differs _ (by decide))
  exact refers_congr (kept _ List.mem_cons_self)
    fun keyword member => kept keyword (List.mem_cons_of_mem _ member)

/-! ### Bodies -/

theorem not_refers_discriminator {name : String} {reference : Value} :
    ¬ Refers (.dict (discriminatorNode name)) reference := by
  refine not_refers_of_plain fun entry member => ?_
  simp only [discriminatorNode, List.mem_cons, List.not_mem_nil, or_false] at member
  rcases member with rfl | rfl | rfl
  · exact ⟨"type", rfl, by decide⟩
  · exact ⟨"enum", rfl, by decide⟩
  · exact ⟨"default", rfl, by decide⟩

theorem noReference_body {c : ClassRef} {props : List Property}
    (plain : (source.catalog.table.config c).extra.join = none) :
    (source.bodyNode names c props).get? "$ref" = none := by
  rw [get?_body plain (by decide)]
  rfl

/-- The schemas in a body without a fragment are those of its properties, and that it has no others. -/
theorem mem_innerSchemas_body {c : ClassRef} {props : List Property} {schema : Value}
    (plain : (source.catalog.table.config c).extra.join = none) :
    schema ∈ (source.bodyNode names c props).innerSchemas
      ↔ schema = .bool false ∨ schema ∈ (source.propertyNodes names c props).map (·.2) := by
  rw [Node.mem_innerSchemas]
  constructor
  · rintro ⟨keyword, isKeyword, value, found, behind⟩
    have differs : ∀ other, other ∉ Node.schemaKeywords → other ≠ keyword :=
      fun other notKeyword => ne_of_schemaKeyword other isKeyword notKeyword
    rw [get?_body plain (differs _ (by decide)), if_neg (differs _ (by decide)),
      if_neg (differs _ (by decide))] at found
    split at found
    next same =>
      subst same
      cases found
      exact .inl (List.mem_singleton.mp behind)
    next =>
      split at found
      next same =>
        subst same
        cases found
        exact .inr behind
      next => cases found
  · rintro (rfl | member)
    · refine ⟨"additionalProperties", by decide, .bool false, ?_, List.mem_cons_self⟩
      rw [get?_body plain (by decide)]
      rfl
    · refine ⟨"properties", by decide, .dict (source.propertyNodes names c props), ?_, member⟩
      rw [get?_body plain (by decide)]
      rfl

/-- A body without a fragment refers to what its properties refer to. -/
theorem refers_body {c : ClassRef} {props : List Property} {reference : Value}
    (plain : (source.catalog.table.config c).extra.join = none) :
    Refers (.dict (source.bodyNode names c props)) reference
      ↔ ∃ schema ∈ (source.propertyNodes names c props).map (·.2), Refers schema reference := by
  rw [refers_iff, noReference_body plain]
  constructor
  · rintro (none | ⟨schema, inner, refers⟩)
    · cases none
    · rcases (mem_innerSchemas_body plain).mp inner with rfl | member
      · exact absurd refers not_refers_bool
      · exact ⟨schema, member, refers⟩
  · rintro ⟨schema, member, refers⟩
    exact .inr ⟨schema, (mem_innerSchemas_body plain).mpr (.inr member), refers⟩

/-- The references in a body are foreseen. -/
theorem sound_body {c : ClassRef} {props : List Property} {reference : Value}
    (plain : source.catalog.table.HasNoFragments)
    (found : source.catalog.table.properties c = .ok props)
    (refers : Refers (.dict (source.bodyNode names c props)) reference) :
    (reference = rootPointer ∧ source.subTypes source.root = [])
      ∨ ∃ d label kind, .reference d label kind ∈ source.bodySteps c
        ∧ reference = definitionPointer (names d) := by
  obtain ⟨schema, member, refers⟩ := (refers_body (plain.config c)).mp refers
  rcases mem_foldl_set member with first | ⟨p, hp, rfl⟩
  · split at first
    · cases List.mem_singleton.mp first
      exact absurd refers not_refers_discriminator
    · exact absurd first List.not_mem_nil
  · have mirrors : source.Mirrors names (Refers (.dict (source.propertyNode names c p)))
        (source.propertySteps c p) :=
      mirrors_property (plain.property found (mem_of_mem_bodyProperties hp))
    rcases mirrors.sound reference refers with root | ⟨d, label, kind, step, same⟩
    · exact .inl root
    · refine .inr ⟨d, label, kind, ?_, same⟩
      unfold bodySteps
      rw [found]
      exact List.mem_append_left _ (List.mem_flatMap.mpr ⟨p, hp, step⟩)

/-- Where no two properties are written under one name, all that is foreseen is referred to. -/
theorem complete_body {c d : ClassRef} {props : List Property} {label : String}
    {kind : DefinitionKind} (plain : source.catalog.table.HasNoFragments)
    (found : source.catalog.table.properties c = .ok props)
    (distinct : HasDistinctKeys props)
    (step : .reference d label kind ∈ source.bodySteps c) :
    Refers (.dict (source.bodyNode names c props)) (definitionPointer (names d)) := by
  unfold bodySteps at step
  rw [found] at step
  rcases List.mem_append.mp step with inProperty | inFragment
  · obtain ⟨p, hp, step⟩ := List.mem_flatMap.mp inProperty
    have mirrors : source.Mirrors names (Refers (.dict (source.propertyNode names c p)))
        (source.propertySteps c p) :=
      mirrors_property (plain.property found (mem_of_mem_bodyProperties hp))
    have set : (source.propertyNodes names c props).get? p.publicName
        = some (.dict (source.propertyNode names c p)) := by
      unfold propertyNodes
      rw [get?_foldl_set, standing?_of_mem (hasDistinctKeys_bodyProperties distinct) hp]
      rfl
    refine (refers_body (plain.config c)).mpr ⟨_, ?_, mirrors.complete d label kind step⟩
    rw [Node.get?_eq] at set
    obtain ⟨entry, at?, value⟩ := Option.map_eq_some_iff.mp set
    exact List.mem_map.mpr ⟨entry, List.mem_of_find?_eq_some at?, value⟩
  · exact absurd inFragment reference_notMem_fragmentSteps

end SchemaSource

end ModelSchema
