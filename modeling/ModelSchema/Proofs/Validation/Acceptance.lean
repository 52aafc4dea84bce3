import ModelSchema.Proofs.Validation.Nodes
import ModelSchema.Proofs.Validation.Pointer

/-!
What it means that a schema accepts a value.

A value is accepted when the check finds nothing wrong with it at some depth and is not given up.
Then no keyword of the schema finds anything wrong with it.

* `Validator.ofRoot`, `violations_dict`: a document is checked by the validator at its root.
* `Validator.IsIn`: a validator that reads the references of a document.
* `Validator.Accepts`: a schema inside of the document accepts a value.
* `Accepts.target`, `Accepts.closed`: what follows for a reference, and for the schema of an object
  without other properties.
-/

namespace ModelSchema

/-! ### Checks that find nothing -/

namespace Checked

variable {check : Checked}

theorem andThen_eq_clean {next : Unit → Checked} :
    check.andThen next = .clean ↔ check = .clean ∧ next () = .clean := by
  obtain ⟨found, fault⟩ := check
  unfold Checked.andThen
  cases fault with
  | some fault => simp [Checked.clean]
  | none => cases next (); simp [Checked.clean, and_assoc]

/-- Checks one behind the other find nothing when none of them does. -/
theorem each_eq_clean {α : Type} {check : α → Checked} {list : List α} :
    Checked.each check list = .clean ↔ ∀ a ∈ list, check a = .clean := by
  induction list with
  | nil => simp [Checked.each]
  | cons a rest ih => rw [Checked.each, andThen_eq_clean, ih, List.forall_mem_cons]

theorem within_eq_clean {part : PathPart} : check.within part = .clean ↔ check = .clean := by
  obtain ⟨found, fault⟩ := check
  simp [Checked.within, Checked.clean]

/-- A check that reports where a condition fails finds nothing where it holds. -/
theorem oneIf_not_eq_clean {condition : Bool} {problem : Problem} :
    Checked.oneIf (!condition) problem = .clean ↔ condition = true := by
  cases condition <;> simp [Checked.oneIf, Checked.one, Checked.clean]

end Checked

/-- A check that finds nothing settles for no other answer. -/
theorem Settles.eq_true_of_clean {check : Nat → Checked} {valid : Bool}
    (settles : Settles check valid) {depth : Nat} (clean : check depth = .clean) :
    valid = true := by
  rcases settles.answers depth with ⟨-, answer⟩ | ⟨endless, -⟩
  · rw [clean] at answer
    exact answer.symm
  · rw [clean] at endless
    cases endless

namespace Validator

variable {validator : Validator} {document node body : Node} {schema value : Value}

/-! ### Validators in a document -/

/-- The validator at the root of a document. -/
def ofRoot (table : ClassTable) (nanAlike : Bool) (document : Node) : Except Fault Validator := do
  let (library, viewpoint) ← SchemaLibrary.ofRoot table .draft7 (.dict document)
  return ⟨library, nanAlike, .draft7, viewpoint⟩

/-- A document is checked by the validator at its root. -/
theorem violations_dict {table : ClassTable} {nanAlike : Bool} :
    violations table nanAlike (.dict document) value = (do
      let validator ← ofRoot table nanAlike document
      let found ← (validator.judged (.dict document) value deepest).all
      return found.mergeSort Violation.precedes) := by
  unfold violations ofRoot
  dsimp only
  cases SchemaLibrary.ofRoot table .draft7 (.dict document) with
  | error fault => rfl
  | ok root => rfl

/-- Whether a validator reads references from the root of a document. -/
structure IsIn (validator : Validator) (document : Node) : Prop where
  isDraft7 : validator.dialect = .draft7
  known : validator.library.known.resource? "" = some ⟨.dict document, .draft7⟩
  viewpoint : validator.viewpoint = rootViewpoint

/-- The validator at the root of a document that does not name itself is one. -/
theorem exists_ofRoot {table : ClassTable} (nanAlike : Bool)
    (noId : Dialect.draft7.id? table (.dict document) = .ok none) :
    ∃ validator, ofRoot table nanAlike document = .ok validator ∧ validator.IsIn document := by
  obtain ⟨library, made, -, known⟩ := ofRoot_eq noId
  refine ⟨⟨library, nanAlike, .draft7, rootViewpoint⟩, ?_, rfl, known, rfl⟩
  unfold ofRoot
  rw [made]
  rfl

/-! ### Acceptance -/

/-- Whether a schema inside of the current one accepts a value. -/
def Accepts (validator : Validator) (schema value : Value) : Prop :=
  ∃ depth, validator.below (checkWith depth) schema value = .clean

theorem accepts_iff (isDraft7 : validator.dialect = .draft7) (isInner : node.IsInner) :
    validator.Accepts (.dict node) value
      ↔ ∃ depth, validator.judged (.dict node) value depth = .clean :=
  exists_congr fun _ => by rw [below_eq (keeps_of_isInner isDraft7 isInner)]

/-- A schema accepts a value when its check settles for that. -/
theorem accepts_of_settles (isDraft7 : validator.dialect = .draft7) (isInner : node.IsInner)
    (settles : Settles (validator.judged (.dict node) value) true) :
    validator.Accepts (.dict node) value := by
  obtain ⟨enough, noFault⟩ := settles.eventually
  have deep := noFault enough (Nat.le_refl enough)
  refine (accepts_iff isDraft7 isInner).mpr ⟨enough, ?_⟩
  rcases settles.answers enough with ⟨-, isEmpty⟩ | ⟨endless, -⟩
  · exact congrArg₂ Checked.mk (List.isEmpty_iff.mp isEmpty) deep
  · rw [deep] at endless
    cases endless

/-- Nothing is accepted at depth zero, and else no keyword finds anything wrong. -/
theorem exists_of_checkWith {entries : Node} {depth : Nat}
    (clean : checkWith depth validator entries schema value = .clean) :
    ∃ less, ∀ entry ∈ entries, validator.keywordCheck schema value less entry = .clean := by
  cases depth with
  | zero =>
    rw [checkWith] at clean
    cases clean
  | succ less =>
    rw [checkWith_succ] at clean
    exact ⟨less, Checked.each_eq_clean.mp clean⟩

/-- Where a reference accepts a value, so does what it leads to. -/
theorem Accepts.target (isDraft7 : validator.dialect = .draft7) {reference : String}
    (isInner : body.IsInner)
    (leads : validator.library.lookup validator.viewpoint reference
      = .ok (.dict body, validator.viewpoint))
    (accepts : validator.Accepts (.dict (Node.single "$ref" (.str reference))) value) :
    validator.Accepts (.dict body) value := by
  have older : validator.dialect.isModern = false := by rw [isDraft7]; rfl
  have isInnerReference : (Node.single "$ref" (.str reference)).IsInner :=
    ⟨rfl, Node.get?_single.trans (if_neg (by decide)), Node.get?_single.trans (if_neg (by decide))⟩
  obtain ⟨depth, clean⟩ := (accepts_iff isDraft7 isInnerReference).mp accepts
  unfold judged at clean
  rw [keywords_of_reference older isInnerReference.ends
    (Node.get?_single.trans (if_pos rfl))] at clean
  obtain ⟨less, each⟩ := exists_of_checkWith clean
  have followed := each _ List.mem_cons_self
  rw [keywordCheck_of_some isDraft7 rfl] at followed
  refine (accepts_iff isDraft7 isInner).mpr ⟨less, ?_⟩
  rw [← found_eq (keeps_of_isInner isDraft7 isInner), ← leads]
  exact followed

/-- Where a schema without a reference accepts a value, its keywords find nothing wrong. -/
theorem Accepts.exists_each (isDraft7 : validator.dialect = .draft7) (isInner : node.IsInner)
    (noReference : node.get? "$ref" = none) (accepts : validator.Accepts (.dict node) value) :
    ∃ depth, ∀ entry ∈ node, validator.keywordCheck (.dict node) value depth entry = .clean := by
  have older : validator.dialect.isModern = false := by rw [isDraft7]; rfl
  obtain ⟨depth, clean⟩ := (accepts_iff isDraft7 isInner).mp accepts
  unfold judged at clean
  rw [keywords_of_none older isInner.ends noReference] at clean
  exact exists_of_checkWith clean

/-- Where a schema settles, it accepts a value only with that answer. -/
theorem Accepts.eq_true (isDraft7 : validator.dialect = .draft7) (isInner : node.IsInner)
    {valid : Bool} (settles : Settles (validator.judged (.dict node) value) valid)
    (accepts : validator.Accepts (.dict node) value) : valid = true := by
  obtain ⟨depth, clean⟩ := (accepts_iff isDraft7 isInner).mp accepts
  exact settles.eq_true_of_clean clean

/-- What is accepted by the schema of an object without other properties: an object with all that is
required, with no key but those of properties, and with parts that their schemas accept. -/
theorem Accepts.closed (isDraft7 : validator.dialect = .draft7) {table : Node}
    {required : List String} {title : String}
    (isInner : Node.IsInner (Node.single "title" (.str title) ++ closedNode table required))
    (accepts : validator.Accepts
      (.dict (Node.single "title" (.str title) ++ closedNode table required)) value) :
    ∃ entries, value = .dict entries
      ∧ (∀ name ∈ required, (Node.get? entries name).isSome = true)
      ∧ (∀ triple ∈ keyed (.dict entries), (Value.assoc? triple.1 table).isSome = true)
      ∧ ∀ (name : String) (inner : Node) (part : Value), (.str name, .dict inner) ∈ table →
        inner.IsInner → Node.get? entries name = some part → validator.Accepts (.dict inner) part := by
  have behindTitle : ∀ {keyword : String}, "title" ≠ keyword → "required" ≠ keyword →
      Node.get? (Node.single "title" (.str title) ++ closedNode table required) keyword
        = if "type" = keyword then some (.str "object")
          else if "additionalProperties" = keyword then some (.bool false)
          else if "properties" = keyword then some (.dict table)
          else none := by
    intro keyword notTitle notRequired
    rw [Node.get?_append, Node.get?_single, if_neg notTitle, get?_closedNode notRequired,
      Option.none_or]
  obtain ⟨depth, each⟩ := accepts.exists_each isDraft7 isInner
    (behindTitle (by decide) (by decide))
  have eachClosed : ∀ entry ∈ closedNode table required, validator.keywordCheck
      (.dict (Node.single "title" (.str title) ++ closedNode table required)) value depth entry
        = .clean :=
    fun entry member => each entry (List.mem_append_right _ member)
  have inFront : ∀ {entry}, entry ∈ [(.str "type", .str "object"),
      (.str "additionalProperties", .bool false), (.str "properties", .dict table)] →
      entry ∈ closedNode table required := List.mem_append_left _
  have isObject : JsonType.object.holds .draft7 value = true :=
    (settles_type isDraft7 (show JsonType.ofName? .draft7 "object" = some .object from rfl))
      |>.eq_true_of_clean (eachClosed _ (inFront (by simp)))
  obtain ⟨entries, rfl⟩ := exists_of_isObject isObject
  have atProperties : (.str "properties", .dict table) ∈ closedNode table required :=
    inFront (by simp)
  have endsTable : (Value.dict table).isEndless = false :=
    Value.isEndless_dict.mp isInner.ends _ (List.mem_append_right _ atProperties)
  refine ⟨entries, rfl, fun name member => ?_, fun triple member => ?_,
    fun name inner part member isInnerPart found => ?_⟩
  · have listed : (.str "required", .strings required) ∈ closedNode table required := by
      refine List.mem_append_right _ ?_
      rw [if_neg (by simpa using List.ne_nil_of_mem member)]
      exact List.mem_cons_self
    have all := (settles_required isDraft7).eq_true_of_clean (eachClosed _ listed)
    exact List.all_eq_true.mp all name member
  · have all := (settles_noAdditional isDraft7 isInner.ends (behindTitle (by decide) (by decide))
      (behindTitle (by decide) (by decide))).eq_true_of_clean (eachClosed _ (inFront (by simp)))
    exact List.all_eq_true.mp all triple member
  · have all := eachClosed _ atProperties
    rw [keywordCheck_properties isDraft7 endsTable, Checked.each_eq_clean] at all
    have here := all _ member
    dsimp only at here
    rw [Value.text?_str] at here
    rw [show Value.assoc? (.str name) entries = some part from found] at here
    exact ⟨depth, Checked.within_eq_clean.mp here⟩

end Validator

end ModelSchema
