import ModelSchema.Proofs.Payload.Keys

/-!
Required properties are written.

What a body requires is decided on the declaration of a field, and what a payload leaves out on its
value alone. They meet where null conforms to the annotation of a required property.

* `ClassTable.Conforms`: the values of an annotation, type variables and types with names of their
  own included. Instances of models conform by their class.
* `Ty.admitsNull`: annotations that may admit null, as far as they tell (`admitsNull_of_conforms`).
* `exists_part_of_property`: a property is written, unless null stands for it and is left out.
* `required_written`: an instance is written under every name that the body of its class requires,
  but for null in the place of such a property.
-/

namespace ModelSchema

/-! ### Instances of classes -/

/-- The class of a collection. -/
def Collection.basicClass : Collection → BasicClass
  | list => .list
  | tuple => .tuple
  | set => .set
  | frozenSet => .frozenSet
  | deque => .deque

/-- The class of a value, if it is one that annotations can name. -/
def Value.classOf? : Value → Option ClassRef
  | .null => some (.basic .null)
  | .bool _ => some (.basic .bool)
  | .int _ => some (.basic .int)
  | .float _ => some (.basic .float)
  | .str _ => some (.basic .str)
  | .bytes _ => some (.basic .bytes)
  | .decimal _ => some (.basic .decimal)
  | .complex .. => some (.basic .complex)
  | .uuid _ => some (.basic .uuid)
  | .url _ => some (.basic .url)
  | .ipv4 _ => some (.basic .ipv4)
  | .ipv6 _ => some (.basic .ipv6)
  | .path _ => some (.basic .purePath)
  | .date _ => some (.basic .date)
  | .datetime _ => some (.basic .datetime)
  | .time _ => some (.basic .time)
  | .duration _ => some (.basic .duration)
  | .instant _ => some (.basic .instant)
  | .collection kind _ => some (.basic kind.basicClass)
  | .dict _ => some (.basic .dict)
  | .member c .. | .plainObject c | .modelInstance c .. => some c
  | .mapping _ | .classObject _ | .enclosing .. => none

/-- Whether a value is an instance of a class. All values are objects. -/
def ClassTable.isInstance (table : ClassTable) (value : Value) (c : ClassRef) : Bool :=
  c = .basic .object || value.classOf?.any fun d => table.isSubclass d c

/-- Whether an array is a collection of a kind. -/
def ArrayKind.admits : ArrayKind → Collection → Bool
  | list, .list | set, .set | frozenSet, .frozenSet | deque, .deque => true
  | sequence, .list | sequence, .tuple | sequence, .deque => true
  | mutableSequence, .list | mutableSequence, .deque => true
  | abstractSet, .set | abstractSet, .frozenSet | mutableSet, .set => true
  | collection, _ | iterable, _ => true
  | _, _ => false

/-! ### Values of annotations -/

/-- Whether a value conforms to an annotation. Of annotations that have no schema only so much is
said that nothing is not among their values. -/
inductive ClassTable.Conforms (table : ClassTable) : Ty → Value → Prop where
  | any (value : Value) : Conforms table .any value
  | none : Conforms table .none .null
  | cls {c : ClassRef} {value : Value} : table.isInstance value c = true →
      Conforms table (.cls c) value
  | annotated {t : Ty} {notes : List Note} {value : Value} : Conforms table t value →
      Conforms table (.annotated t notes) value
  | union {piped : Bool} {ts : List Ty} {t : Ty} {value : Value} : t ∈ ts →
      Conforms table t value → Conforms table (.union piped ts) value
  | literal {values : List Value} {value : Value} : value ∈ values →
      Conforms table (.literal values) value
  | newType {i : Nat} {newType : NewType} {value : Value} : table.newTypes[i]? = some newType →
      Conforms table newType.target value → Conforms table (.newType i) value
  | unlimited {i : Nat} {v : TypeVariable} {value : Value} : table.typeVariables[i]? = some v →
      v.limits = [] → (∀ bound, v.bound = some bound → Conforms table bound value) →
      Conforms table (.typeVar i) value
  | limited {i : Nat} {v : TypeVariable} {t : Ty} {value : Value} :
      table.typeVariables[i]? = some v → t ∈ v.limits → Conforms table t value →
      Conforms table (.typeVar i) value
  | array {kind : ArrayKind} {t : Ty} {collection : Collection} {items : List Value} :
      kind.admits collection = true → (∀ item ∈ items, Conforms table t item) →
      Conforms table (.array kind t) (.collection collection items)
  | bareArray {kind : ArrayKind} {collection : Collection} {items : List Value} :
      kind.admits collection = true →
      Conforms table (.bareArray kind) (.collection collection items)
  | sequence {t : Ty} {items : List Value} : (∀ item ∈ items, Conforms table t item) →
      Conforms table (.tuple [t, .ellipsis]) (.collection .tuple items)
  | tuple {ts : List Ty} {items : List Value} : ts.length = items.length →
      (∀ pair ∈ ts.zip items, Conforms table pair.1 pair.2) →
      Conforms table (.tuple ts) (.collection .tuple items)
  | bareTuple {items : List Value} : Conforms table .bareTuple (.collection .tuple items)
  | map {kind : MapKind} {a b : Ty} {value : Value} {entries : List (Value × Value)} :
      value.entries? = some entries →
      (∀ entry ∈ entries, Conforms table a entry.1) →
      (∀ entry ∈ entries, Conforms table b entry.2) →
      Conforms table (.map kind a b) value
  | bareMap {kind : MapKind} {value : Value} : value.entries?.isSome = true →
      Conforms table (.bareMap kind) value
  | unsupported {kind : UnsupportedKind} {t : Ty} {value : Value} : value ≠ .null →
      Conforms table (.unsupported kind t) value

/-! ### Null -/

mutual

/-- Whether an annotation may admit null, as far as it tells: a type variable or a type with a name
of its own may. -/
def Ty.admitsNull : Ty → Bool
  | .any | .none | .typeVar _ | .newType _ => true
  | .cls c => c = .basic .object || c = .basic .null
  | .annotated t _ => t.admitsNull
  | .union _ ts => Ty.anyAdmitsNull ts
  | .literal values => values.any fun value => (value matches .null)
  | _ => false

def Ty.anyAdmitsNull : List Ty → Bool
  | [] => false
  | t :: ts => t.admitsNull || Ty.anyAdmitsNull ts

end

theorem Ty.anyAdmitsNull_of_mem {t : Ty} {ts : List Ty} (member : t ∈ ts)
    (admits : t.admitsNull = true) : Ty.anyAdmitsNull ts = true := by
  induction ts with
  | nil => exact absurd member List.not_mem_nil
  | cons first rest ih =>
    rw [Ty.anyAdmitsNull, Bool.or_eq_true]
    rcases List.mem_cons.mp member with rfl | later
    · exact .inl admits
    · exact .inr (ih later)

section

variable {table : ClassTable}

/-- Null is an instance of its own class and of all objects. -/
theorem ClassTable.isInstance_null {c : ClassRef} :
    table.isInstance .null c = true ↔ c = .basic .object ∨ c = .basic .null := by
  have ancestors : table.ancestors (.basic .null) = [.basic .null, .basic .object] := rfl
  simp [isInstance, Value.classOf?, isSubclass, ancestors]
  tauto

/-- Null conforms only to annotations that may admit it. -/
theorem admitsNull_of_conforms {t : Ty} {value : Value} (conforms : table.Conforms t value)
    (isNull : value = .null) : t.admitsNull = true := by
  induction conforms with
  | any | none | newType | unlimited | limited => rfl
  | cls isInstance =>
    subst isNull
    simpa [Ty.admitsNull] using ClassTable.isInstance_null.mp isInstance
  | annotated _ ih => exact ih isNull
  | union member _ ih => exact Ty.anyAdmitsNull_of_mem member (ih isNull)
  | literal member =>
    subst isNull
    exact List.any_eq_true.mpr ⟨_, member, rfl⟩
  | unsupported something => exact absurd isNull something
  | map entries =>
    subst isNull
    cases entries
  | bareMap entries =>
    subst isNull
    cases entries
  | _ => cases isNull

end

/-! ### Conforming attributes -/

/-- Whether the fields and computed fields of a model have attributes in an instance that conform to
their annotations. Excluded fields do not count. -/
structure ClassTable.IsConforming (table : ClassTable) (info : ModelInfo)
    (attributes computed : List (String × Value)) : Prop where
  fields : ∀ field ∈ info.fields, field.excluded = false → ∃ value,
    attributeValue? attributes field.name = some value
      ∧ table.Conforms (table.resolve field.annotation) value
  computed : ∀ field ∈ info.computed, ∃ value, attributeValue? computed field.name = some value
    ∧ table.Conforms (table.resolve field.returns) value

theorem ClassTable.IsConforming.hasAttributes {table : ClassTable} {info : ModelInfo}
    {attributes computed : List (String × Value)}
    (conforming : table.IsConforming info attributes computed) :
    Catalog.HasAttributes info attributes computed := by
  refine ⟨fun field inside included => ?_, fun field inside => ?_⟩
  · obtain ⟨value, found, -⟩ := conforming.fields field inside included
    rw [found]
    rfl
  · obtain ⟨value, found, -⟩ := conforming.computed field inside
    rw [found]
    rfl

/-! ### What an instance is written under -/

/-- The names that a body lists as required are those of its class. -/
theorem SchemaSource.mem_requiredNames {source : SchemaSource} {names : ClassRef → String}
    {c : ClassRef} {props : List Property} {required : List String}
    (listed : (source.bodyNode names c props).get? "required" = some (.strings required))
    (plain : (source.catalog.table.config c).extra.join = none) {name : String}
    (member : name ∈ required) : name ∈ source.requiredNames c props := by
  rw [get?_required plain] at listed
  split at listed
  · cases listed
  · have same : (source.requiredNames c props).map Value.str = required.map Value.str := by
      simpa [Value.strings] using listed
    exact List.map_injective_iff.mpr (fun _ _ => Value.str.inj) same ▸ member

section

open Catalog

variable {catalog : Catalog} {c : ClassRef} {info : ModelInfo} {props : List Property}
  {attributes computed : List (String × Value)}

/-- An instance has a part for every property that does not stand under the discriminator, but for
null in the place of a field when nulls are left out. -/
theorem exists_part_of_property (model : catalog.table.model? c = some info)
    (found : catalog.table.properties c = .ok props) {excludeNull : Bool}
    (conforming : catalog.table.IsConforming info attributes computed) {p : Property}
    (member : p ∈ props) (apart : catalog.writtenDiscriminator? c ≠ some p.publicName) :
    (∃ part ∈ catalog.modelParts excludeNull c info attributes computed, part.1 = p.publicName)
      ∨ excludeNull = true ∧ p.readOnly = false
        ∧ attributeValue? attributes p.name = some .null
        ∧ catalog.table.Conforms p.annotation .null := by
  rcases ClassTable.origin_of_property model found member with
    ⟨field, inside, included, made⟩ | ⟨field, inside, rfl⟩
  · obtain ⟨name, publicName, isField⟩ := ClassTable.names_of_fieldProperty made
    obtain ⟨value, read, conforms⟩ := conforming.fields field inside included
    rw [publicName] at apart ⊢
    cases omitted : isOmitted excludeNull value with
    | false => exact .inl ⟨_, mem_modelParts_of_field inside included apart read omitted, rfl⟩
    | true =>
      obtain ⟨excluded, isNull⟩ := Bool.and_eq_true_iff.mp omitted
      cases value <;> cases isNull
      rw [name, ClassTable.annotation_of_fieldProperty made]
      exact .inr ⟨excluded, isField, read, conforms⟩
  · obtain ⟨value, read, -⟩ := conforming.computed field inside
    exact .inl ⟨_, mem_modelParts_of_computed inside read, rfl⟩

end

/-! ### Main result -/

section

open Catalog

variable {catalog : Catalog} {c : ClassRef} {info : ModelInfo} {props : List Property}

/-- An instance whose attributes conform to their annotations, and can be written, has a payload. It
is written under every name that the body of its class requires, unless nulls are left out and null
stands for a required field, to whose annotation it conforms. -/
theorem required_written (model : catalog.table.model? c = some info)
    (found : catalog.table.properties c = .ok props)
    (plain : (catalog.table.config c).extra.join = none) (excludeNull numericDurations : Bool)
    {attributes computed : List (String × Value)}
    (conforming : catalog.table.IsConforming info attributes computed)
    (written : ∀ part ∈ catalog.modelParts excludeNull c info attributes computed, ∃ payload,
      catalog.IsPayload excludeNull (catalog.table.numericDurations c) part.2 payload) :
    ∃ entries, catalog.IsPayload excludeNull numericDurations
        (.modelInstance c attributes computed) (.dict entries)
      ∧ ∀ registry root names required,
        ((SchemaSource.mk catalog registry root).bodyNode names c props).get? "required"
          = some (.strings required) →
        ∀ name ∈ required, .str name ∈ entries.map (·.1)
          ∨ excludeNull = true ∧ ∃ p ∈ props, p.publicName = name ∧ p.required = true
            ∧ p.readOnly = false ∧ attributeValue? attributes p.name = some .null
            ∧ catalog.table.Conforms p.annotation .null := by
  have exists_payload : ∃ payload, catalog.IsPayload excludeNull numericDurations
      (.modelInstance c attributes computed) payload :=
    exists_payload_instance model conforming.hasAttributes written
  obtain ⟨payload, isPayload⟩ := exists_payload
  obtain ⟨forms, rfl, each⟩ := payload_instance model isPayload
  refine ⟨_, isPayload, fun registry root names required listed name isRequired => ?_⟩
  have isKey : (catalog.writtenDiscriminator? c = some name
      ∨ ∃ part ∈ catalog.modelParts excludeNull c info attributes computed, part.1 = name) →
      .str name ∈ (Value.assocUpdate (catalog.marker c) forms).map (·.1) :=
    fun isWritten => (mem_keys_modelParts each).mpr ⟨name, rfl, isWritten⟩
  have isRequired := SchemaSource.mem_requiredNames listed plain isRequired
  rcases List.mem_append.mp isRequired with isMarked | ofProperty
  · exact .inl (isKey (.inl (Option.mem_toList.mp isMarked)))
  · obtain ⟨p, kept, rfl⟩ := List.mem_map.mp ofProperty
    obtain ⟨inBody, required⟩ := List.mem_filter.mp kept
    obtain ⟨ordered, apart⟩ := List.mem_filter.mp inBody
    have member := mem_of_mem_orderProperties ordered
    have apart : catalog.writtenDiscriminator? c ≠ some p.publicName :=
      fun same => bne_iff_ne.mp apart same.symm
    rcases exists_part_of_property model found conforming member apart with isPart | isNull
    · exact .inl (isKey (.inr isPart))
    · obtain ⟨excluded, isField, null, conforms⟩ := isNull
      exact .inr ⟨excluded, p, member, rfl, required, isField, null, conforms⟩

end

/-! ### Examples -/

section

open Example Catalog

/-- The attributes of the drawing. -/
def pictureAttributes : List (String × Value) :=
  [("figures", .list [tile]), ("frame", tile), ("next", .null), ("created", .instant ⟨1, 2⟩)]

theorem isConforming_picture : figures.table.IsConforming
    ((figures.table.model? drawing).getD default) pictureAttributes [] := by
  have isFigure : figures.table.Conforms (.cls figure) tile := .cls (by decide)
  have isPolygon : figures.table.Conforms (.cls polygon) tile := .cls (by decide)
  refine ⟨?_, fun _ member => absurd member List.not_mem_nil⟩
  refine List.forall_mem_cons.mpr ⟨fun _ => ⟨_, rfl, ?_⟩, ?_⟩
  · exact .array rfl (List.forall_mem_singleton.mpr isFigure)
  refine List.forall_mem_cons.mpr ⟨fun _ => ⟨_, rfl, isPolygon⟩, ?_⟩
  refine List.forall_mem_cons.mpr ⟨fun _ => ⟨_, rfl, ?_⟩, ?_⟩
  · exact .union (List.mem_cons_of_mem _ List.mem_cons_self) .none
  exact List.forall_mem_singleton.mpr fun _ => ⟨_, rfl, .cls (by decide)⟩

/-- A drawing without a next one is written without it, but under all that a drawing requires. -/
theorem required_written_picture :
    ∃ entries, figures.IsPayload true false (.modelInstance drawing pictureAttributes [])
        (.dict entries)
      ∧ ∃ props, figures.table.properties drawing = .ok props ∧ ∀ registry root names required,
        ((SchemaSource.mk figures registry root).bodyNode names drawing props).get? "required"
          = some (.strings required) →
        ∀ name ∈ required, .str name ∈ entries.map (·.1) := by
  obtain ⟨props, found, apart⟩ : ∃ props, figures.table.properties drawing = .ok props
      ∧ props.all (fun p => !p.required || !p.annotation.admitsNull) = true :=
    ⟨_, rfl, rfl⟩
  have parts : figures.modelParts true drawing ((figures.table.model? drawing).getD default)
      pictureAttributes []
        = [("figures", .list [tile]), ("frame", tile), ("created", .instant ⟨1, 2⟩)] := rfl
  have written : ∀ part ∈ figures.modelParts true drawing
      ((figures.table.model? drawing).getD default) pictureAttributes [], ∃ payload,
        figures.IsPayload true (figures.table.numericDurations drawing) part.2 payload := by
    rw [parts]
    exact List.forall_mem_cons.mpr ⟨⟨_, rfl⟩, List.forall_mem_cons.mpr
      ⟨⟨_, rfl⟩, List.forall_mem_singleton.mpr ⟨_, rfl⟩⟩⟩
  obtain ⟨entries, isPayload, keys⟩ := required_written rfl found rfl true false
    isConforming_picture written
  refine ⟨entries, isPayload, props, found, ?_⟩
  intro registry root names required listed name member
  rcases keys registry root names required listed name member with isKey | isNull
  · exact isKey
  · obtain ⟨-, p, inside, -, required, -, -, conforms⟩ := isNull
    have solid := List.all_eq_true.mp apart p inside
    simp [required, admitsNull_of_conforms conforms rfl] at solid

/-- The remark on a memo is required. Null conforms to its annotation, and is left out. -/
theorem not_required_written :
    ¬ ∀ (catalog : Catalog) (c : ClassRef) (info : ModelInfo) (props : List Property)
      (excludeNull : Bool) (attributes computed : List (String × Value)) (entries : Node)
      (registry : Registry) (root : ClassRef) (names : ClassRef → String) (required : List String),
      catalog.table.model? c = some info → catalog.table.properties c = .ok props →
      (catalog.table.config c).extra.join = none →
      catalog.table.IsConforming info attributes computed →
      catalog.IsPayload excludeNull false (.modelInstance c attributes computed) (.dict entries) →
      ((SchemaSource.mk catalog registry root).bodyNode names c props).get? "required"
        = some (.strings required) →
      ∀ name ∈ required, .str name ∈ entries.map (·.1) := by
  intro law
  have conforming : memos.table.IsConforming ((memos.table.model? memo).getD default)
      [("remark", .null)] [] :=
    ⟨List.forall_mem_singleton.mpr fun _ => ⟨_, rfl, .any .null⟩,
      fun _ member => absurd member List.not_mem_nil⟩
  have isPayload : memos.IsPayload true false (.modelInstance memo [("remark", .null)] [])
      (.dict []) := rfl
  obtain ⟨props, found, listed⟩ : ∃ props, memos.table.properties memo = .ok props
      ∧ ((SchemaSource.mk memos [] memo).bodyNode (fun _ => "") memo props).get? "required"
        = some (.strings ["remark"]) := ⟨_, rfl, by cbv⟩
  have member := law memos memo _ props true _ [] [] [] memo (fun _ => "") ["remark"] rfl found rfl
    conforming isPayload listed "remark" List.mem_cons_self
  exact List.not_mem_nil member

end

end ModelSchema
