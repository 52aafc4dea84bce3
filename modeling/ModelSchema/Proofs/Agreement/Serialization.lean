import ModelSchema.Proofs.Agreement.Acceptance
import ModelSchema.Proofs.Agreement.Outlines
import ModelSchema.Proofs.Validation.Acceptance

/-!
What the instances of a model are written as has the schema of the model.

* `settles_document`: at the top level a document asks for what a reference to its root does.
* `IsRegular.exists_validator`: so it accepts what a reference to its root does.
* `IsRegular.not_acceptsPayload`: and it does not accept what has the mark of none of the subtypes.
* `payload_accepted`: after a walk the document of a model accepts what the instances of the model are
  written as.
-/

namespace ModelSchema

namespace SchemaSource

variable {source : SchemaSource} {outline : Outline} {validator : Validator} {value : Value}
  {valid : Bool}

/-- At the top level a document asks for what a class asks for in an annotation. -/
theorem settles_document (readable : source.IsReadable outline)
    (reads : source.Reads outline validator) (present : source.IsPresent outline source.root)
    (settles : Settles
      (validator.judged (.dict (source.objectNode outline.nameOf source.root)) value) valid) :
    Settles (validator.judged (.dict (source.document outline)) value) valid := by
  obtain ⟨props, body⟩ := readable.exists_rootProperties
  rw [judged_document (readable.plain.config _) readable.isEndless_document reads.isDraft7
    fun none => (body none).found]
  by_cases noSubTypes : source.subTypes source.root = []
  · have written := present.isWritten (choices_of_nil noSubTypes ▸ List.mem_cons_self)
    have decided := (bodiesDecide readable reads value _ written).settles
    have content : source.rootContent outline.nameOf props
        = source.classContent outline.nameOf source.root := by
      unfold rootContent
      rw [noSubTypes, (body noSubTypes).classContent_eq]
    rw [content, settles.unique (leads_object readable reads present noSubTypes value _ decided)]
    exact decided
  · have content : source.rootContent outline.nameOf props
        = source.objectNode outline.nameOf source.root := by
      unfold rootContent objectNode
      cases subTypes : source.subTypes source.root with
      | nil => exact absurd subTypes noSubTypes
      | cons => rfl
    rw [content]
    exact settles

end SchemaSource

/-- What is found wrong with a value when the check settles for that it is valid. -/
theorem Validator.violations_of_settles {table : ClassTable} {nanAlike : Bool} {document : Node}
    {validator : Validator} {value : Value}
    (atRoot : ofRoot table nanAlike document = .ok validator)
    (settles : Settles (validator.judged (.dict document) value) true) :
    violations table nanAlike (.dict document) value = .ok []
      ∨ violations table nanAlike (.dict document) value = .error .endless := by
  have whole : violations table nanAlike (.dict document) value
      = (validator.judged (.dict document) value deepest).all >>= fun found =>
        Except.ok (found.mergeSort Violation.precedes) := by
    rw [violations_dict, atRoot]
    rfl
  rw [whole]
  unfold Checked.all
  rcases settles.answers deepest with ⟨noFault, isEmpty⟩ | ⟨endless, -⟩
  · rw [noFault, List.isEmpty_iff.mp isEmpty]
    exact .inl (congrArg Except.ok List.mergeSort_nil)
  · rw [endless]
    exact .inr rfl

/-! ### Main result -/

/-- Whether a value can be written, there is a document for the root, and the validator of the document
accepts what the value is written as, unless it has to give up at a limit of depth. -/
def SchemaSource.AcceptsPayload (source : SchemaSource) (nanAlike : Bool) (value : Value) : Prop :=
  ∃ payload document validator, source.catalog.payload false value = .ok payload
    ∧ source.tree.2 = .ok (.dict document)
    ∧ Validator.ofRoot source.catalog.table nanAlike document = .ok validator
    ∧ Settles (validator.judged (.dict document) payload) true
    ∧ (violations source.catalog.table nanAlike (.dict document) payload = .ok []
      ∨ violations source.catalog.table nanAlike (.dict document) payload = .error .endless)

/-- The document of a root that reaches regular models only accepts what the root accepts in an
annotation. -/
theorem SchemaSource.IsRegular.exists_validator {source : SchemaSource} (isRegular : source.IsRegular)
    (nanAlike : Bool) : ∃ validator, source.Reads source.outline.1 validator
      ∧ ∀ value payload, source.catalog.payload false value = .ok payload →
        (source.AcceptsPayload nanAlike value ↔ validator.answer
          (.dict (source.objectNode source.outline.1.nameOf source.root)) payload = true) := by
  have readable := isRegular.isReadable
  have present := isRegular.isPresent_root
  have made : source.tree.2 = .ok (.dict (source.document source.outline.1)) :=
    congrArg Prod.snd (tree_of_outline (Option.isNone_iff_eq_none.mpr isRegular.finished))
  have noId : Dialect.draft7.id? source.catalog.table (.dict (source.document source.outline.1))
      = .ok none :=
    Validator.id?_of_none rfl readable.isEndless_document (noId_document (isRegular.plain.config _))
  obtain ⟨validator, atRoot, isIn⟩ := Validator.exists_ofRoot nanAlike noId
  have reads := readable.reads_document isIn.isDraft7 isIn.known isIn.viewpoint
  refine ⟨validator, reads, fun value payload written => ?_⟩
  have settles := settles_document readable reads present
    (decides_object readable reads present (bodiesDecide readable reads payload)).settles
  constructor
  · rintro ⟨payloadElse, document, validatorElse, writtenElse, madeElse, atRootElse, accepted, -⟩
    obtain rfl := Except.ok.inj (written.symm.trans writtenElse)
    obtain rfl := Value.dict.inj (Except.ok.inj (made.symm.trans madeElse))
    obtain rfl := Except.ok.inj (atRoot.symm.trans atRootElse)
    exact settles.unique accepted
  · intro accepted
    rw [accepted] at settles
    exact ⟨payload, _, validator, written, made, atRoot, settles,
      Validator.violations_of_settles atRoot settles⟩

/-- It does not accept what has the mark of none of the subtypes of the root, if there are any. -/
theorem SchemaSource.IsRegular.not_acceptsPayload {source : SchemaSource}
    (isRegular : source.IsRegular) (something : source.subTypes source.root ≠ []) {property : String}
    (shared : ∀ d ∈ source.subTypes source.root, source.discriminator? d = some property)
    {value : Value} {entries : Node} {name : String} {nanAlike : Bool}
    (written : source.catalog.payload false value = .ok (.dict entries))
    (marked : entries.get? property = some (.str name))
    (differs : ∀ d ∈ source.subTypes source.root, source.catalog.typeName d ≠ name) :
    ¬ source.AcceptsPayload nanAlike value := by
  obtain ⟨validator, reads, iff⟩ := isRegular.exists_validator nanAlike
  rw [iff value _ written, object_rejects_other isRegular.isReadable reads isRegular.isPresent_root
    something shared marked differs]
  exact Bool.false_ne_true

section

variable {catalog : Catalog} {scope : Scope} {roots : List Ty} {kept : Registry} {root : ClassRef}

/-- After a walk, where a model reaches regular models only, and where it is told apart which of the
classes of a choice an instance has: every instance of the model can be written, there is a document
for the model, and the document accepts what the instance is written as. -/
theorem payload_accepted (wellFormed : catalog.WellFormed) (plain : catalog.table.HasNoFragments)
    {notices : List Notice} {registry : Registry}
    (run : (Walker.subclassing catalog scope).run roots = (notices, .ok registry))
    (same : registry.SameUpToOrder kept)
    (isModel : catalog.table.isBasicSubclass root .model = true)
    (regular : ∀ c, (SchemaSource.mk catalog kept root).Reaches c →
      catalog.IsRegular catalog.table.IsPart c)
    (apart : ∀ c, (SchemaSource.mk catalog kept root).Reaches c →
      (SchemaSource.mk catalog kept root).TellsApart c)
    {value : Value} (typed : (SchemaSource.mk catalog kept root).HasType (.cls root) value)
    (nanAlike : Bool) : (SchemaSource.mk catalog kept root).AcceptsPayload nanAlike value := by
  let source := SchemaSource.mk catalog kept root
  obtain ⟨state, complete, rfl, -⟩ := Walker.complete_of_run run
  have isRegular : source.IsRegular :=
    ⟨wellFormed, plain, fun _ => complete.isModel_of_reaches wellFormed same isModel, regular, apart⟩
  obtain ⟨validator, reads, iff⟩ := isRegular.exists_validator nanAlike
  obtain ⟨payload, written, accepted⟩ := SchemaSource.exists_payload_of_hasType isRegular.isReadable
    reads (fun c inside => (regular c (SchemaSource.reaches_of_isWritten inside)).parts) isModel
    isRegular.isPresent_root (apart root .root) typed
  exact (iff value payload written).mpr accepted

end

/-! ### Examples -/

section

open Example SchemaSource

/-- Their instances have values of the annotations as attributes. -/
theorem ClassTable.hasType_plain {table : ClassTable} {hasInstance : ClassRef → ClassRef → Prop}
    {c d : ClassRef} {info : ModelInfo} {attributes : List (String × Value)}
    (fields : List (String × Ty))
    (plain : info.fields = fields.map fun field => plainField field.1 field.2)
    (noComputed : info.computed = []) (isModel : table.isBasicSubclass c .model = true)
    (isInstance : hasInstance c d) (model : table.model? d = some info)
    (each : ∀ field ∈ fields, ∃ value, attributeValue? attributes field.1 = some value
      ∧ table.HasType hasInstance (table.resolve field.2) value) :
    table.HasType hasInstance (.cls c) (.modelInstance d attributes []) := by
  have origin : ∀ field ∈ info.fields, ∃ entry ∈ fields, plainField entry.1 entry.2 = field := by
    rw [plain]
    exact fun field member => List.mem_map.mp member
  refine .model isModel isInstance model (fun field member _ => ?_) (fun field member _ value found => ?_)
    (by simp [noComputed]) (by simp [noComputed])
  · obtain ⟨entry, inside, rfl⟩ := origin field member
    obtain ⟨value, found, -⟩ := each entry inside
    exact Option.isSome_of_eq_some found
  · obtain ⟨entry, inside, rfl⟩ := origin field member
    obtain ⟨_, same, typed⟩ := each entry inside
    exact Option.some.inj (same.symm.trans found) ▸ typed

variable {root c : ClassRef}

theorem hasType_tile (isModel : figures.table.isBasicSubclass c .model = true)
    (isChoice : square ∈ (figuresFor root).choices c) : (figuresFor root).HasType (.cls c) tile := by
  refine ClassTable.hasType_plain [("width", .basic .float)] rfl rfl isModel isChoice rfl
    fun field member => ?_
  cases List.mem_singleton.mp member
  exact ⟨_, rfl, .float _⟩

theorem hasType_picture : (figuresFor root).HasType (.cls drawing) picture := by
  obtain ⟨ofDrawing, ofFigure, ofPolygon, -⟩ := subTypes_figuresFor root
  have isChoice : ∀ c ∈ [figure, polygon], square ∈ (figuresFor root).choices c := by
    intro c member
    rcases List.mem_pair.mp member with rfl | rfl
    · rw [choices_of_ne_nil (ofFigure ▸ List.cons_ne_nil _ _), ofFigure]
      decide
    · rw [choices_of_ne_nil (ofPolygon ▸ List.cons_ne_nil _ _), ofPolygon]
      decide
  refine ClassTable.hasType_plain [("figures", .array .list (.cls figure)), ("frame", .cls polygon),
    ("next", .optional (.cls drawing)), ("created", .basic .instant)] rfl rfl rfl
    (choices_of_nil ofDrawing ▸ List.mem_cons_self) rfl fun field member => ?_
  simp only [List.mem_cons, List.not_mem_nil, or_false] at member
  rcases member with rfl | rfl | rfl | rfl
  · refine ⟨_, rfl, .list fun item member => ?_⟩
    cases List.mem_singleton.mp member
    exact hasType_tile rfl (isChoice figure (by decide))
  · exact ⟨_, rfl, hasType_tile rfl (isChoice polygon (by decide))⟩
  · exact ⟨_, rfl, .union (List.mem_cons_of_mem _ List.mem_cons_self) .none⟩
  · exact ⟨_, rfl, .instant _⟩

/-- The document of drawings accepts what a drawing of a square is written as. -/
theorem payload_accepted_drawing : (figuresFor drawing).AcceptsPayload false picture :=
  payload_accepted (by decide) hasNoFragments_figures (Walker.run_of_walks walks_figures)
    (Registry.SameUpToOrder.refl _) rfl (fun c _ => isRegular_figures c)
    (fun _ reached => tellsApart_figuresFor (mem_of_reached (by decide) reached)) hasType_picture false

/-- Polygons and squares are covered by figures. -/
theorem walks_figure :
    (Walker.subclassing figures .everything).Walks .start
      ((Walker.subclassing figures .everything).rootSteps [.cls figure])
      ⟨[(figure, [polygon, square]), (polygon, []), (square, [])], [(figure, 2)]⟩ := by
  have search : (Walker.subclassing figures .everything).search figure = .ok [polygon, square] :=
    rfl
  have sorted : (Walker.subclassing figures .everything).coverSteps [polygon, square]
      = [.cover polygon, .cover square] :=
    congrArg (List.map WalkStep.cover) (List.mergeSort_of_pairwise (by decide))
  refine .search rfl rfl search ?_
  rw [sorted]
  exact .plain rfl rfl (.inr rfl) <| .plain rfl rfl (.inr rfl) .done

/-- The document of figures does not accept what a figure is written as that is no polygon. -/
theorem figure_rejected : ¬ (figuresFor figure).AcceptsPayload false (.modelInstance figure [] []) := by
  have isRegular : (figuresFor figure).IsRegular := isRegular_figuresFor (by decide)
  have subTypes := (subTypes_figuresFor figure).2.1
  have shared : ∀ d ∈ [polygon, square], (figuresFor figure).discriminator? d = some "kind" := by
    decide
  have differs : ∀ d ∈ [polygon, square], figures.typeName d ≠ "figure" := by decide
  have written : figures.payload false (.modelInstance figure [] [])
      = .ok (.dict (Node.ofFields [("kind", .str "figure")])) := rfl
  rw [← subTypes] at shared differs
  exact isRegular.not_acceptsPayload (subTypes ▸ List.cons_ne_nil _ _) shared written
    (Node.get?_cons.trans (if_pos rfl)) differs

/-- Whether after a walk a document accepts what all instances of its root are written as, where models
are built from some classes, and a class has some instances. -/
def PayloadsAccepted (isPart : Catalog → ClassRef → Prop)
    (hasInstance : SchemaSource → ClassRef → ClassRef → Prop) : Prop :=
  ∀ (catalog : Catalog) (scope : Scope) (roots : List Ty) (kept : Registry) (root : ClassRef)
    (notices : List Notice) (registry : Registry) (value : Value) (nanAlike : Bool),
    let source := SchemaSource.mk catalog kept root
    catalog.WellFormed → catalog.table.HasNoFragments → .cls root ∈ roots →
    (Walker.subclassing catalog scope).run roots = (notices, .ok registry) →
    registry.SameUpToOrder kept → catalog.table.isBasicSubclass root .model = true →
    (∀ c, source.Reaches c → catalog.IsRegular (isPart catalog) c) →
    (∀ c, source.Reaches c → source.TellsApart c) →
    catalog.table.HasType (hasInstance source) (.cls root) value →
    source.AcceptsPayload nanAlike value

/-- The cards, for which a walk finds no subtypes. -/
def cardsSource : SchemaSource := ⟨cards, [], card⟩

theorem hasNoFragments_cards : cards.table.HasNoFragments :=
  ClassTable.hasNoFragments_of_declared (by decide)

theorem subTypes_cards : cardsSource.subTypes c = [] := by
  refine List.eq_nil_iff_forall_not_mem.mpr fun d member => ?_
  rcases listed_or_found member with ⟨entry, listed, -⟩ | found
  · cases listed
  · obtain ⟨_, _, recorded, -⟩ := exists_of_mem_foundSubTypes found
    cases recorded

/-- The schema of an address. -/
def addressLeaf : LeafFormat := ⟨"string", some "uri"⟩

/-- The schema of a card asks for a home, and for a text there. -/
theorem exists_home : ∃ home, cards.table.properties card = .ok [home]
    ∧ ∀ names, cardsSource.rootContent names [home]
      = Validator.closedNode (Node.ofFields [("home", .dict addressLeaf.node)]) ["home"] := by
  refine ⟨_, rfl, fun names => ?_⟩
  unfold rootContent
  rw [subTypes_cards]
  cbv

/-- A model that is a leaf has a text as its schema, and still its instances are written as objects. -/
theorem card_rejected : ¬ cardsSource.AcceptsPayload false filledCard := by
  rintro ⟨payload, document, validator, written, made, atRoot, accepted, -⟩
  have written : payload = .dict (Node.ofFields [("home", .dict [])]) :=
    Except.ok.inj (written.symm.trans rfl)
  obtain ⟨home, found, content⟩ := exists_home
  have plain := hasNoFragments_cards.config card
  have outline : cardsSource.outline = (.start, none) := by cbv
  have whole : cardsSource.tree.2 = .ok (.dict (cardsSource.document .start)) := by
    unfold tree
    rw [outline]
  obtain rfl := Value.dict.inj (Except.ok.inj (whole.symm.trans made))
  have ends : (Value.dict (cardsSource.document .start)).isEndless = false :=
    isEndless_document plain (fun _ => found) (content _ ▸ Validator.isEndless_closedNode rfl)
      fun _ member => absurd member List.not_mem_nil
  obtain ⟨_, atRootElse, isIn⟩ := Validator.exists_ofRoot false
    (Validator.id?_of_none rfl ends (noId_document plain))
  obtain rfl := Except.ok.inj (atRoot.symm.trans atRootElse)
  have isText : ∀ part, Settles (validator.judged (.dict addressLeaf.node) part)
      (JsonType.string.holds .draft7 part) := fun _ => Validator.settles_leaf isIn.isDraft7 rfl
  rw [judged_document plain ends isIn.isDraft7 fun _ => found, content, written] at accepted
  have asked := accepted.unique (Validator.settles_closed isIn.isDraft7 fun entry member =>
    ⟨"home", _, List.mem_singleton.mp member, Validator.isInner_leaf rfl, fun part _ => ⟨_, isText part⟩⟩)
  have rejected : validator.answer (.dict addressLeaf.node) (.dict []) = false :=
    Validator.answer_eq (isText (.dict []))
  have both : true = false := asked.trans (Validator.closedAnswer_eq_false List.mem_cons_self
    (Node.get?_cons.trans (if_pos rfl)) rejected)
  cases both

theorem isRegular_cards (c : ClassRef) : cards.IsRegular cards.table.IsScalarOrModel c where
  resolved := by
    refine ClassTable.unresolvedName?_eq_none (fun d => ?_) c
    match d with
    | .basic b => cases b <;> exact nofun
    | .declared 0 | .declared 1 => decide
    | .declared (n + 2) => exact nofun
  parts info model := by
    match c with
    | .basic b =>
      cases b <;> cases model
      exact Catalog.hasRegularParts_plain [] rfl rfl .nil nofun
    | .declared 0 =>
      cases model
      exact Catalog.hasRegularParts_plain [] rfl rfl .nil nofun
    | .declared 1 =>
      cases model
      refine Catalog.hasRegularParts_plain [("home", .cls address)] rfl rfl (by decide)
        fun field member => ?_
      cases List.mem_singleton.mp member
      exact .cls (.inr rfl)
    | .declared (n + 2) => cases model

theorem hasType_filledCard : cardsSource.HasType (.cls card) filledCard := by
  have itself : ∀ c, c ∈ cardsSource.choices c := fun c =>
    choices_of_nil subTypes_cards ▸ List.mem_cons_self
  refine ClassTable.hasType_plain [("home", .cls address)] rfl rfl rfl (itself card) rfl
    fun field member => ?_
  cases List.mem_singleton.mp member
  exact ⟨_, rfl, ClassTable.hasType_plain [] rfl rfl rfl (itself address) rfl nofun⟩

/-- Documents do not accept what all instances of the subclasses of a class are written as, nor where
a model that is a leaf stands in an annotation. -/
theorem not_payloadsAccepted :
    ¬ PayloadsAccepted (fun catalog => catalog.table.IsPart)
        (fun source c d => source.catalog.table.isSubclass d c = true)
      ∧ ¬ PayloadsAccepted (fun catalog => catalog.table.IsScalarOrModel)
        (fun source c d => d ∈ source.choices c) := by
  constructor
  · intro accepted
    have typed : figures.table.HasType (fun c d => figures.table.isSubclass d c = true) (.cls figure)
        (.modelInstance figure [] []) := ClassTable.hasType_plain [] rfl rfl rfl rfl rfl nofun
    have apart : ∀ c, (figuresFor figure).Reaches c → (figuresFor figure).TellsApart c :=
      fun c reached => tellsApart_figuresFor (mem_of_reached (by decide) reached)
    exact figure_rejected (accepted figures .everything [.cls figure] [⟨figure, [polygon, square]⟩]
      figure _ _ _ false (by decide) hasNoFragments_figures List.mem_cons_self
      (Walker.run_of_walks walks_figure) (Registry.SameUpToOrder.refl _) rfl
      (fun c _ => isRegular_figures c) apart typed)
  · intro accepted
    have walks : (Walker.subclassing cards .everything).Walks .start
        ((Walker.subclassing cards .everything).rootSteps [.cls card]) ⟨[(card, [])], []⟩ :=
      .plain rfl rfl (.inl rfl) .done
    have apart : ∀ c, cardsSource.TellsApart c := by
      intro c
      unfold TellsApart
      rw [subTypes_cards]
      exact .nil
    exact card_rejected (accepted cards .everything [.cls card] [] card _ _ _ false (by decide)
      hasNoFragments_cards List.mem_cons_self (Walker.run_of_walks walks)
      (Registry.SameUpToOrder.refl _) rfl (fun c _ => isRegular_cards c) (fun c _ => apart c)
      hasType_filledCard)

end

end ModelSchema
