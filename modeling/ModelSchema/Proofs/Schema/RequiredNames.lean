import ModelSchema.Proofs.Payload.Keys

/-!
The names that a body requires.

The node of a property takes the place of one that is there under the same name, but the names of both
are listed when both are required. So the list says what the nodes say only where no required property
is followed by another one under its name (`KeepsRequired`).

* `mem_requiredKeys_iff`: then a name is listed when the property that stands there is required.
* `nodup_requiredKeys`: then no name is listed twice.
* `keepsRequired_of_standing`: the two together say that no required property is followed so.
* `requiredNames_wellFormed`: what the list is in a body without a fragment, whatever names clash, and
  when it is as it should be.
-/

namespace ModelSchema.SchemaSource

/-! ### Required properties -/

/-- The names of the required ones among properties. -/
def requiredKeys (props : List Property) : List String :=
  (props.filter (·.required)).map (·.publicName)

/-- Whether no required property is followed by another one under its name. -/
def KeepsRequired (props : List Property) : Prop :=
  props.Pairwise fun p q => p.required = true → p.publicName ≠ q.publicName

variable {props : List Property} {p : Property} {key : String}

theorem mem_requiredKeys :
    key ∈ requiredKeys props ↔ ∃ p ∈ props, p.required = true ∧ p.publicName = key := by
  simp [requiredKeys, and_assoc]

/-- Properties under names of their own are never followed so. -/
theorem keepsRequired_of_distinct (distinct : HasDistinctKeys props) : KeepsRequired props := by
  refine (List.pairwise_map.mp distinct).imp ?_
  intro p q apart _
  exact apart

theorem nodup_requiredKeys (kept : KeepsRequired props) : (requiredKeys props).Nodup := by
  have apart : (props.filter (·.required)).Pairwise fun p q => p.publicName ≠ q.publicName := by
    refine List.pairwise_filter.mpr (kept.imp ?_)
    intro p q apart required _
    exact apart required
  exact List.pairwise_map.mpr apart

/-- A required property that is not followed so stands under its name. -/
theorem standing?_of_required (kept : KeepsRequired props) (member : p ∈ props)
    (required : p.required = true) : standing? props p.publicName = some p := by
  induction props with
  | nil => cases member
  | cons q rest ih =>
    obtain ⟨apart, kept⟩ := List.pairwise_cons.mp kept
    rw [standing?]
    rcases List.mem_cons.mp member with rfl | member
    · have last : standing? rest p.publicName = none := by
        rw [standing?_eq_none]
        intro there
        obtain ⟨q, inside, same⟩ := List.mem_map.mp there
        exact apart q inside required same.symm
      rw [last, Option.none_or, if_pos rfl]
    · rw [ih kept member, Option.some_or]

/-- A name is listed when the property that stands under it is required. -/
theorem mem_requiredKeys_iff (kept : KeepsRequired props) :
    key ∈ requiredKeys props ↔ ∃ p, standing? props key = some p ∧ p.required = true := by
  rw [mem_requiredKeys]
  constructor
  · rintro ⟨p, member, required, rfl⟩
    exact ⟨p, standing?_of_required kept member required, required⟩
  · rintro ⟨p, stands, required⟩
    obtain ⟨member, keyed⟩ := mem_of_standing? stands
    exact ⟨p, member, required, keyed⟩

/-- Where names are listed once, and only when the property that stands there is required, no
required property is followed by another one under its name. -/
theorem keepsRequired_of_standing (nodup : (requiredKeys props).Nodup)
    (standing : ∀ key ∈ requiredKeys props, ∃ p, standing? props key = some p ∧ p.required = true) :
    KeepsRequired props := by
  induction props with
  | nil => exact .nil
  | cons p rest ih =>
    have later : ∀ {key : String}, (∃ q ∈ rest, q.publicName = key) →
        standing? (p :: rest) key = standing? rest key := by
      rintro _ ⟨q, member, rfl⟩
      cases found : standing? rest q.publicName with
      | none => exact absurd (List.mem_map_of_mem member) (standing?_eq_none.mp found)
      | some r => rw [standing?, found, Option.some_or]
    refine .cons ?_ (ih ?_ ?_)
    · -- What stands under the name of a required property that is followed is required as well.
      intro q member required same
      have listed : p.publicName ∈ requiredKeys (p :: rest) :=
        mem_requiredKeys.mpr ⟨p, List.mem_cons_self, required, rfl⟩
      obtain ⟨r, stands, requiredAgain⟩ := standing _ listed
      rw [later ⟨q, member, same.symm⟩] at stands
      obtain ⟨inside, keyed⟩ := mem_of_standing? stands
      have again : p.publicName ∈ requiredKeys rest :=
        mem_requiredKeys.mpr ⟨r, inside, requiredAgain, keyed⟩
      have split : requiredKeys (p :: rest) = p.publicName :: requiredKeys rest := by
        simp [requiredKeys, required]
      rw [split] at nodup
      exact (List.nodup_cons.mp nodup).1 again
    · refine nodup.sublist ?_
      exact ((List.sublist_cons_self p rest).filter _).map _
    · intro key listed
      obtain ⟨q, member, required, keyed⟩ := mem_requiredKeys.mp listed
      rw [← later ⟨q, member, keyed⟩]
      exact standing key (mem_requiredKeys.mpr ⟨q, List.mem_cons_of_mem _ member, required, keyed⟩)

/-! ### The body of a class -/

variable {source : SchemaSource} {names : ClassRef → String} {c : ClassRef} {d : String}

theorem requiredNames_eq :
    source.requiredNames c props
      = (source.discriminator? c).toList ++ requiredKeys (source.bodyProperties c props) := rfl

/-- Setting other keywords leaves the first entry of a node where it is. -/
theorem head?_foldl_set {nodeOf : Property → Value} {value : Value} {start : Node}
    (first : start.head? = some (.str d, value)) (apart : ∀ p ∈ props, p.publicName ≠ d) :
    (props.foldl (fun nodes p => Node.set nodes p.publicName (nodeOf p)) start).head?
      = some (.str d, value) := by
  induction props generalizing start with
  | nil => exact first
  | cons p rest ih =>
    rw [List.foldl_cons]
    refine ih ?_ fun q member => apart q (List.mem_cons_of_mem _ member)
    have differs : d ≠ p.publicName := (apart p List.mem_cons_self).symm
    cases start with
    | nil => cases first
    | cons entry others =>
      cases Option.some.inj first
      unfold Node.set Value.assocSet
      split <;> simp [Value.same_str, Value.text?, differs]

/-- The discriminator of a class is the first property in its body. -/
theorem head?_propertyNodes (written : source.discriminator? c = some d) :
    (source.propertyNodes names c props).head?
      = some (.str d, .dict (discriminatorNode (source.catalog.typeName c))) := by
  unfold propertyNodes
  rw [written]
  refine head?_foldl_set rfl ?_
  intro p member same
  have apart := (List.mem_filter.mp member).2
  simp [written, same] at apart

/-- Every name that a body requires is that of a property in it. -/
theorem isSome_of_mem_requiredNames (listed : key ∈ source.requiredNames c props) :
    (Node.get? (source.propertyNodes names c props) key).isSome = true := by
  rw [get?_propertyNodes]
  by_cases written : source.discriminator? c = some key
  · rw [if_pos written]
    rfl
  · rw [if_neg written, Option.isSome_map]
    rw [requiredNames_eq, List.mem_append, Option.mem_toList] at listed
    obtain ⟨p, member, -, keyed⟩ := mem_requiredKeys.mp (listed.resolve_left written)
    refine Option.isSome_iff_ne_none.mpr fun none => ?_
    exact standing?_eq_none.mp none (List.mem_map.mpr ⟨p, member, keyed⟩)

/-- No property in the body of a class is written under its discriminator. -/
theorem notMem_requiredKeys (written : source.discriminator? c = some d) :
    d ∉ requiredKeys (source.bodyProperties c props) := by
  intro listed
  obtain ⟨p, member, -, keyed⟩ := mem_requiredKeys.mp listed
  exact standing?_eq_none.mp (standing?_discriminator written) (List.mem_map.mpr ⟨p, member, keyed⟩)

theorem nodup_requiredNames :
    (source.requiredNames c props).Nodup
      ↔ (requiredKeys (source.bodyProperties c props)).Nodup := by
  rw [requiredNames_eq]
  cases written : source.discriminator? c with
  | none => rfl
  | some d => exact List.nodup_cons.trans (and_iff_right (notMem_requiredKeys written))

theorem mem_requiredNames_of_apart (apart : source.discriminator? c ≠ some key) :
    key ∈ source.requiredNames c props
      ↔ key ∈ requiredKeys (source.bodyProperties c props) := by
  rw [requiredNames_eq, List.mem_append, Option.mem_toList]
  exact or_iff_right apart

/-- No name is required twice, and a name other than the discriminator only when the property that
stands there is required, exactly when no required property is followed by another one under its
name. -/
theorem requiredNames_iff_keepsRequired :
    ((source.requiredNames c props).Nodup
      ∧ ∀ key, source.discriminator? c ≠ some key → (key ∈ source.requiredNames c props
        ↔ ∃ p, standing? (source.bodyProperties c props) key = some p ∧ p.required = true))
      ↔ KeepsRequired (source.bodyProperties c props) := by
  rw [nodup_requiredNames]
  constructor
  · rintro ⟨nodup, standing⟩
    refine keepsRequired_of_standing nodup fun key listed => ?_
    have apart : source.discriminator? c ≠ some key :=
      fun written => notMem_requiredKeys written listed
    exact (standing key apart).mp ((mem_requiredNames_of_apart apart).mpr listed)
  · intro kept
    refine ⟨nodup_requiredKeys kept, fun key apart => ?_⟩
    exact (mem_requiredNames_of_apart apart).trans (mem_requiredKeys_iff kept)

/-! ### Main result -/

/-- In the body of a class without a fragment: the list of required names is there unless it is empty;
all names in it are properties of the body; the discriminator is the first of both; and under any
other name is the node of the last property that is written there. No name is required twice, and a
name other than the discriminator exactly when the property whose node is there is required, if and
only if no required property is followed in the body by another one under its name. -/
theorem requiredNames_wellFormed (plain : (source.catalog.table.config c).extra.join = none) :
    ∃ nodes required, (source.bodyNode names c props).get? "properties" = some (.dict nodes)
      ∧ (source.bodyNode names c props).get? "required"
        = (if required = [] then none else some (.strings required))
      ∧ (∀ name ∈ required, (Node.get? nodes name).isSome = true)
      ∧ (∀ d, source.discriminator? c = some d →
        nodes.head? = some (.str d, .dict (discriminatorNode (source.catalog.typeName c)))
          ∧ required.head? = some d)
      ∧ (∀ name, source.discriminator? c ≠ some name →
        Node.get? nodes name = (standing? (source.bodyProperties c props) name).map fun p =>
          .dict (source.propertyNode names c p))
      ∧ ((required.Nodup ∧ ∀ name, source.discriminator? c ≠ some name → (name ∈ required
          ↔ ∃ p, standing? (source.bodyProperties c props) name = some p ∧ p.required = true))
        ↔ KeepsRequired (source.bodyProperties c props)) := by
  refine ⟨source.propertyNodes names c props, source.requiredNames c props,
    (get?_properties plain).1, ?_, ?_, ?_, ?_, requiredNames_iff_keepsRequired⟩
  · rw [get?_required plain]
    simp only [List.isEmpty_iff]
  · intro name listed
    exact isSome_of_mem_requiredNames listed
  · intro d written
    refine ⟨head?_propertyNodes written, ?_⟩
    rw [requiredNames_eq, written]
    rfl
  · intro name apart
    rw [get?_propertyNodes, if_neg apart]

/-! ### Examples -/

section

open Example

/-- A square is required to tell its kind and its width, in this order. -/
theorem requiredNames_wellFormed_square :
    ∃ props nodes required, figures.table.properties square = .ok props
      ∧ ((SchemaSource.mk figures [] square).bodyNode (fun _ => "") square props).get? "properties"
        = some (.dict nodes)
      ∧ ((SchemaSource.mk figures [] square).bodyNode (fun _ => "") square props).get? "required"
        = some (.strings required)
      ∧ required.head? = some "kind" ∧ "width" ∈ required ∧ required.Nodup := by
  obtain ⟨props, found, stands, distinct⟩ : ∃ props, figures.table.properties square = .ok props
      ∧ (∃ p, standing? ((SchemaSource.mk figures [] square).bodyProperties square props) "width"
        = some p ∧ p.required = true)
      ∧ HasDistinctKeys props := by
    refine ⟨_, rfl, ⟨_, by cbv, rfl⟩, ?_⟩
    unfold HasDistinctKeys
    decide
  have marked : (SchemaSource.mk figures [] square).discriminator? square = some "kind" := rfl
  obtain ⟨nodes, required, properties, list, -, first, -, isExact⟩ :=
    @requiredNames_wellFormed props ⟨figures, [], square⟩ (fun _ => "") square rfl
  obtain ⟨nodup, standing⟩ :=
    isExact.mpr (keepsRequired_of_distinct (hasDistinctKeys_bodyProperties distinct))
  have width : "width" ∈ required := (standing "width" (by rw [marked]; decide)).mpr stands
  rw [if_neg (List.ne_nil_of_mem width)] at list
  exact ⟨props, nodes, required, found, properties, list, (first _ marked).2, width, nodup⟩

/-- The one name of the title and the heading of an article is required twice. -/
theorem not_requiredNames_wellFormed_article :
    ¬ ∀ (source : SchemaSource) (names : ClassRef → String) (c : ClassRef) (props : List Property)
      (required : List String), (source.catalog.table.config c).extra.join = none →
      source.catalog.table.properties c = .ok props →
      (source.bodyNode names c props).get? "required" = some (.strings required) →
      required.Nodup := by
  intro wellFormed
  obtain ⟨props, found, listed⟩ : ∃ props, articles.table.properties article = .ok props
      ∧ (SchemaSource.mk articles [] article).requiredNames article props
        = ["kind", "name", "name"] := by
    refine ⟨_, rfl, ?_⟩
    cbv
  have required : ((SchemaSource.mk articles [] article).bodyNode (fun _ => "") article props).get?
      "required" = some (.strings ["kind", "name", "name"]) := by
    rw [get?_required rfl, listed]
    rfl
  have nodup := wellFormed ⟨articles, [], article⟩ _ article props _ rfl found required
  exact absurd nodup (by decide)

end

end ModelSchema.SchemaSource
