import ModelSchema.Proofs.Schema.Closed

/-!
What is injected into a schema is found in the finished document.

Fragments that are dictionaries are put on top three times over: on the node of a property, on the body
of a class, whose keywords are then put in order, and, with the body of the root, on the dialect of the
document. Only after that the document gets its definitions, and where it has any, they replace what the
root was given under their keyword.

* `SchemaSource.get?_bodyNode_of_merge`, `SchemaSource.get?_propertyNode_of_merge`: a fragment wins
  over what its node has.
* `SchemaSource.ShowsFragments`: whether a node shows the fragments of a class and of its properties,
  but for some keywords.
* `SchemaSource.showsFragments_body`: every body does, whatever its class is given.
* `tree_showsFragments`: in a document all bodies do, the root but for the keyword of definitions.
-/

namespace ModelSchema

/-! ### Fragments that are dictionaries -/

/-- Whether a fragment is a dictionary of keywords. -/
def Fragment.IsDict (fragment : Fragment) : Prop :=
  ∃ entries : Node, fragment = .merge entries ∧ entries.IsRecord

/-- Whether all fragments that are injected into models are dictionaries of keywords. -/
def ClassTable.HasDictFragments (table : ClassTable) : Prop :=
  ∀ c info, table.model? c = some info → ∀ fragment : Fragment,
    (info.config.extra.join = some fragment
      ∨ (∃ field ∈ info.fields, field.extra = some fragment)
      ∨ ∃ field ∈ info.computed, field.extra = some fragment) → fragment.IsDict

namespace ClassTable.HasDictFragments

variable {table : ClassTable} {c : ClassRef} {props : List Property} {p : Property}
  {fragment : Fragment}

theorem config (dicts : table.HasDictFragments)
    (given : (table.config c).extra.join = some fragment) : fragment.IsDict := by
  unfold ClassTable.config at given
  split at given
  next info model => exact dicts c info model fragment (.inl given)
  next => cases given

theorem property (dicts : table.HasDictFragments) (found : table.properties c = .ok props)
    (member : p ∈ props) (given : p.extra = some fragment) : fragment.IsDict := by
  obtain ⟨info, model, ⟨field, inside, same⟩ | ⟨field, inside, same⟩⟩ :=
    extra_of_mem_properties found member
  · exact dicts c info model fragment (.inr (.inl ⟨field, inside, same.symm.trans given⟩))
  · exact dicts c info model fragment (.inr (.inr ⟨field, inside, same.symm.trans given⟩))

end ClassTable.HasDictFragments

namespace SchemaSource

variable {source : SchemaSource} {names : ClassRef → String} {c : ClassRef}
  {props : List Property} {keyword : String} {entries : Node}

/-! ### A fragment wins -/

/-- What is injected into a body wins over what the body has. -/
theorem get?_bodyNode_of_merge
    (given : (source.catalog.table.config c).extra.join = some (.merge entries))
    (record : entries.IsRecord) :
    (source.bodyNode names c props).get? keyword
      = (entries.get? keyword).or ((source.plainBody names c props).get? keyword) := by
  rw [bodyNode_eq_edited, given]
  dsimp only
  cases entries with
  | nil => exact Option.none_or.symm
  | cons first rest =>
    rw [if_neg (by simp [Fragment.isEmpty]), Node.get?_reorder]
    exact Node.get?_update record

theorem isRecord_bodyNode (dicts : source.catalog.table.HasDictFragments) :
    (source.bodyNode names c props).IsRecord := by
  rw [bodyNode_eq_edited]
  split
  next fragment given =>
    obtain ⟨entries, rfl, record⟩ := dicts.config given
    split
    · exact isRecord_plainBody
    · exact Node.isRecord_reorder (Node.isRecord_update isRecord_plainBody record) (by decide)
  next => exact isRecord_plainBody

/-- What is injected into the node of a property wins over what the node has. -/
theorem get?_propertyNode_of_merge {p : Property} {value : Value} (given : p.extra = some (.merge entries))
    (record : entries.IsRecord) (found : entries.get? keyword = some value) :
    (source.propertyNode names c p).get? keyword = some value := by
  unfold propertyNode
  rw [given]
  refine (Node.get?_update record).trans ?_
  rw [found, Option.some_or]

/-! ### Bodies -/

/-- Whether a node shows what is injected into a class, but for hidden keywords, and into the
properties that stand in its body, unless the class is given properties itself. -/
structure ShowsFragments (source : SchemaSource) (c : ClassRef) (props : List Property)
    (hidden : String → Prop) (node : Node) : Prop where
  ofClass : ∀ entries : Node, (source.catalog.table.config c).extra.join = some (.merge entries) →
    ∀ keyword value, ¬ hidden keyword → entries.get? keyword = some value →
      node.get? keyword = some value
  ofProperties : (∀ entries : Node,
      (source.catalog.table.config c).extra.join = some (.merge entries) →
      entries.get? "properties" = none) →
    ∃ nodes, node.get? "properties" = some (.dict nodes)
      ∧ ∀ p, standing? (source.bodyProperties c props) p.publicName = some p →
        ∃ inner : Node, Node.get? nodes p.publicName = some (.dict inner)
          ∧ ∀ entries : Node, p.extra = some (.merge entries) →
            ∀ keyword value, entries.get? keyword = some value → inner.get? keyword = some value

/-- A body shows all that is injected into it. -/
theorem showsFragments_body (dicts : source.catalog.table.HasDictFragments)
    (found : source.catalog.table.properties c = .ok props) (names : ClassRef → String) :
    source.ShowsFragments c props (fun _ => False) (source.bodyNode names c props) := by
  constructor
  · intro entries given keyword value _ injected
    obtain ⟨_, same, record⟩ := dicts.config given
    cases same
    rw [get?_bodyNode_of_merge given record, injected, Option.some_or]
  · intro unchanged
    refine ⟨source.propertyNodes names c props, ?_, ?_⟩
    · cases given : (source.catalog.table.config c).extra.join with
      | none =>
        rw [bodyNode_of_plain given, get?_plainBody]
        rfl
      | some fragment =>
        obtain ⟨entries, rfl, record⟩ := dicts.config given
        rw [get?_bodyNode_of_merge given record, unchanged entries given, get?_plainBody]
        rfl
    · intro p stands
      refine ⟨source.propertyNode names c p, ?_, ?_⟩
      · have apart : ¬ source.discriminator? c = some p.publicName := by
          intro written
          rw [standing?_discriminator written] at stands
          cases stands
        rw [get?_propertyNodes, if_neg apart, stands]
        rfl
      · intro entries given keyword value injected
        have member : p ∈ props := mem_of_mem_bodyProperties (mem_of_standing? stands).1
        obtain ⟨_, same, record⟩ := dicts.property found member given
        cases same
        exact get?_propertyNode_of_merge given record injected

/-- A node that has the keywords of another one, but for hidden ones, shows what that one shows. -/
theorem ShowsFragments.transfer {hidden : String → Prop} {body node : Node}
    (shows : source.ShowsFragments c props (fun _ => False) body)
    (kept : ∀ keyword value, ¬ hidden keyword → body.get? keyword = some value →
      node.get? keyword = some value)
    (properties : ¬ hidden "properties") : source.ShowsFragments c props hidden node := by
  constructor
  · intro entries given keyword value visible injected
    exact kept keyword value visible (shows.ofClass entries given keyword value not_false injected)
  · intro unchanged
    obtain ⟨nodes, at?, each⟩ := shows.ofProperties unchanged
    exact ⟨nodes, kept _ _ properties at?, each⟩

/-! ### Documents -/

variable {outline : Outline}

theorem isRecord_rootNode (dicts : source.catalog.table.HasDictFragments) :
    (source.rootNode names).IsRecord := by
  unfold rootNode
  split
  · unfold classBody
    split
    · exact isRecord_bodyNode dicts
    · exact Node.isRecord_nil
  · exact Node.isRecord_cons isRecord_single (by simp [branchesNode])

/-- The document shows the body of its root, but for the keyword of definitions, if it has any. -/
theorem showsFragments_root (dicts : source.catalog.table.HasDictFragments)
    (found : source.catalog.table.properties source.root = .ok props)
    (noSubTypes : source.subTypes source.root = []) :
    source.ShowsFragments source.root props
      (fun keyword => keyword = definitionsKeyword ∧ outline.definitions ≠ [])
      (source.document outline) := by
  have root : source.rootNode outline.nameOf
      = source.bodyNode outline.nameOf source.root props := by
    unfold rootNode classBody
    rw [noSubTypes, found]
  refine (showsFragments_body dicts found outline.nameOf).transfer ?_ ?_
  · intro keyword value visible there
    have notReplaced : ¬ (definitionsKeyword = keyword ∧ outline.definitions ≠ []) :=
      fun replaced => visible ⟨replaced.1.symm, replaced.2⟩
    rw [get?_document_of_record (isRecord_rootNode dicts), if_neg notReplaced, root, there,
      Option.some_or]
  · rintro ⟨same, -⟩
    exact absurd same (by decide)

/-- In a document whose injected fragments are dictionaries: the body of the root, unless the document
is a choice, shows what is injected into it and into its properties, but for the keyword of definitions
when the document has definitions of its own; and the body of every class with a definition shows all
that is injected into it and into its properties. -/
theorem tree_showsFragments (dicts : source.catalog.table.HasDictFragments)
    {notices : List Notice} {tree : Value} (made : source.tree = (notices, .ok tree)) :
    ∃ (outline : Outline) (document : Node), source.outline = (outline, none) ∧ tree = .dict document
      ∧ (source.subTypes source.root = [] →
        ∃ props, source.catalog.table.properties source.root = .ok props
          ∧ source.ShowsFragments source.root props
            (fun keyword => keyword = definitionsKeyword ∧ outline.definitions ≠ []) document)
      ∧ ∀ d ∈ outline.definitions, d.kind = .model →
        ∃ props body, source.catalog.table.properties d.type = .ok props
          ∧ document.definition? d.name = some (.dict body)
          ∧ source.ShowsFragments d.type props (fun _ => False) body := by
  unfold SchemaSource.tree at made
  split at made
  next outline found =>
    cases made
    have outlined := outlined_of_outline found
    refine ⟨outline, _, found, rfl, ?_, ?_⟩
    · intro noSubTypes
      obtain ⟨props, complete⟩ := outlined.exists_properties (mem_allSteps_of_root noSubTypes)
      exact ⟨props, complete, showsFragments_root dicts complete noSubTypes⟩
    · intro d member isModel
      obtain ⟨props, complete⟩ := outlined.exists_properties (mem_allSteps_of_body member isModel)
      refine ⟨props, _, complete, ?_, showsFragments_body dicts complete outline.nameOf⟩
      rw [definition?_of_mem outlined.names member]
      unfold definitionNode classBody
      rw [isModel, complete]
  next => cases made

end SchemaSource

/-! ### Examples -/

section

open Example

/-- What is injected into panels are dictionaries. -/
theorem hasDictFragments_panels : panels.table.HasDictFragments := by
  have panelDict : Fragment.IsDict (.merge panelEntries) :=
    ⟨_, rfl, [("description", _), ("definitions", _)], by decide, rfl⟩
  have fieldDict : Fragment.IsDict (.merge fieldEntries) :=
    ⟨_, rfl, [("deprecated", _)], by decide, rfl⟩
  have dialDict : Fragment.IsDict (.merge dialEntries) :=
    ⟨_, rfl, [("minProperties", _)], by decide, rfl⟩
  intro c info model fragment given
  match c with
  | .basic b =>
    cases b <;> cases model
    simp [Config.empty] at given
  | .declared 0 =>
    cases model
    rcases given with own | ⟨field, member, ofField⟩ | ⟨field, member, -⟩
    · cases own
      exact panelDict
    · cases List.mem_singleton.mp member
      cases ofField
      exact fieldDict
    · cases member
  | .declared 1 =>
    cases model
    rcases given with own | ⟨field, member, ofField⟩ | ⟨field, member, -⟩
    · cases own
      exact dialDict
    · cases List.mem_singleton.mp member
      cases ofField
    · cases member
  | .declared (n + 2) => cases model

/-- The document of a panel: there is one, it is about the panel itself, has a definition of its dial,
and the property of the dial is the only one. -/
theorem outline_panel :
    (SchemaSource.mk panels [] panel).outline.2.isNone = true
      ∧ (SchemaSource.mk panels [] panel).subTypes panel = []
      ∧ (SchemaSource.mk panels [] panel).outline.1.definitions = [⟨dial, "Dial", .model⟩]
      ∧ ∀ props, panels.table.properties panel = .ok props → ∃ p, SchemaSource.standing?
        ((SchemaSource.mk panels [] panel).bodyProperties panel props) "dial" = some p
        ∧ p.publicName = "dial" ∧ p.extra = some (.merge fieldEntries) := by
  refine ⟨by cbv, by cbv, by cbv, fun props complete => ?_⟩
  cases complete
  exact ⟨_, by cbv, rfl, rfl⟩

theorem tree_panel :
    (SchemaSource.mk panels [] panel).tree
      = ((SchemaSource.mk panels [] panel).outline.1.notices, .ok (.dict
        ((SchemaSource.mk panels [] panel).document (SchemaSource.mk panels [] panel).outline.1))) :=
  SchemaSource.tree_of_outline outline_panel.1

/-- The document of a panel has what is injected into the panel, where it refers to its dial, and into
the dial. -/
theorem tree_showsFragments_panel :
    ∃ document : Node, (SchemaSource.mk panels [] panel).tree.2 = .ok (.dict document)
      ∧ document.get? "description" = some (.str "Instruments in a row.")
      ∧ (∃ nodes inner : Node, document.get? "properties" = some (.dict nodes)
        ∧ nodes.get? "dial" = some (.dict inner) ∧ inner.get? "deprecated" = some (.bool true))
      ∧ ∃ body : Node, document.definition? "Dial" = some (.dict body)
        ∧ body.get? "minProperties" = some (.int 1) := by
  obtain ⟨outline, document, found, same, ofRoot, ofDefinitions⟩ :=
    SchemaSource.tree_showsFragments hasDictFragments_panels tree_panel
  obtain ⟨-, noSubTypes, atOutline, dialStands⟩ := outline_panel
  have definitions : outline.definitions = [⟨dial, "Dial", .model⟩] := by rwa [found] at atOutline
  obtain ⟨props, complete, root⟩ := ofRoot noSubTypes
  obtain ⟨_, body, -, at?, inner⟩ := ofDefinitions ⟨dial, "Dial", .model⟩ (by simp [definitions]) rfl
  obtain ⟨nodes, properties, each⟩ := root.ofProperties fun entries given => by
    cases given
    simp [panelEntries]
  obtain ⟨p, stands, name, given⟩ := dialStands props complete
  obtain ⟨node, atDial, shown⟩ := each p (name ▸ stands)
  refine ⟨document, ?_, ?_, ?_, body, at?, ?_⟩
  · rw [tree_panel, same]
  · refine root.ofClass panelEntries rfl _ _ (fun hidden => ?_) (by simp [panelEntries])
    exact absurd hidden.1 (by decide)
  · exact ⟨nodes, node, properties, name ▸ atDial, shown fieldEntries given _ _ (by simp [fieldEntries])⟩
  · exact inner.ofClass dialEntries rfl _ _ not_false (by simp [dialEntries])

/-- The definitions that a panel is given are lost, because the document has definitions of its own. -/
theorem not_tree_showsFragments_panel :
    ¬ ∀ (source : SchemaSource) (notices : List Notice) (document : Node) (props : List Property),
      source.catalog.table.HasDictFragments → source.tree = (notices, .ok (.dict document)) →
      source.subTypes source.root = [] →
      source.catalog.table.properties source.root = .ok props →
      source.ShowsFragments source.root props (fun _ => False) document := by
  intro shows
  obtain ⟨props, complete⟩ : ∃ props, panels.table.properties panel = .ok props := ⟨_, rfl⟩
  have root := shows _ _ _ props hasDictFragments_panels tree_panel outline_panel.2.1 complete
  have given := root.ofClass panelEntries rfl definitionsKeyword
    (.record [("Unit", .record [("type", .str "string")])]) not_false
    (by simp [panelEntries, definitionsKeyword])
  obtain ⟨entry, own⟩ : ∃ entry, ((SchemaSource.mk panels [] panel).document
      (SchemaSource.mk panels [] panel).outline.1).definition? "Dial" = some entry := by
    have unique : ((SchemaSource.mk panels [] panel).outline.1.definitions.map (·.name)).Nodup := by
      rw [outline_panel.2.2.1]
      exact List.nodup_singleton _
    have member : ⟨dial, "Dial", .model⟩
        ∈ (SchemaSource.mk panels [] panel).outline.1.definitions := by
      rw [outline_panel.2.2.1]
      exact List.mem_singleton_self _
    exact ⟨_, SchemaSource.definition?_of_mem unique member⟩
  unfold Node.definition? at own
  rw [given] at own
  have absent : Node.get? (Node.ofFields [("Unit", .record [("type", .str "string")])]) "Dial"
      = none := Node.get?_ofFields_eq_none.mpr (by decide)
  cases absent.symm.trans own

end

end ModelSchema
