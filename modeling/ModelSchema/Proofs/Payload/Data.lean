import ModelSchema.Example.Figures
import ModelSchema.Payload.Basic
import ModelSchema.Proofs.Class.Members
import ModelSchema.Proofs.Payload.Parts
import ModelSchema.Proofs.Property
import ModelSchema.Proofs.Schema.Node

/-!
Payloads are data, and data is its own payload.

Nothing that is told apart while a payload is made can be told apart in it: instances, decimal
numbers, durations and all kinds of collections are gone. What is left is written as it stands, so
that a second conversion changes nothing, whatever it is told about values that are missing.

* `Value.IsData`: nothing, truth values, texts, numbers, lists, and dictionaries with texts as keys.
* `Value.writesData_writing`: in the general form every value is written as data, on its own and in
  the place of an annotation.
* `Catalog.writesData_value`: so it is in a payload.
* `Catalog.payload_of_isData`: data is written as it is.
* `Catalog.payload_fixed`: both together.
-/

namespace ModelSchema

/-! ### Data -/

/-- Whether a value is data. A member that is a text by its mixin counts as one. -/
inductive Value.IsData : Value → Prop where
  | null : IsData .null
  | bool (b : Bool) : IsData (.bool b)
  | int (n : Int) : IsData (.int n)
  | float (x : Binary64) : IsData (.float x)
  | str (s : String) : IsData (.str s)
  | textMember (owner : ClassRef) (name : String) (value : Value) :
      IsData (.member owner .str name value)
  | list {items : List Value} : (∀ item ∈ items, IsData item) → IsData (.list items)
  | dict {node : Node} : node.IsRecord → (∀ entry ∈ node, IsData entry.2) → IsData (.dict node)

/-- Whether an entry has a text as its key and data behind it. -/
def IsDataEntry (entry : Value × Value) : Prop := (∃ key, entry.1 = .str key) ∧ entry.2.IsData

/-- Entries that are set one after the other make up data with those that were there. -/
theorem isData_update {forms : List (Value × Value)} (areData : ∀ form ∈ forms, IsDataEntry form) :
    ∀ {start : Node}, start.IsRecord → (∀ entry ∈ start, entry.2.IsData) →
      (Value.dict (Value.assocUpdate start forms)).IsData := by
  induction forms with
  | nil => exact fun record inside => .dict record inside
  | cons form rest ih =>
    intro start record inside
    obtain ⟨⟨⟨key, isText⟩, isData⟩, others⟩ := List.forall_mem_cons.mp areData
    obtain ⟨_, value⟩ := form
    cases isText
    refine ih others (Node.isRecord_set record) fun entry member => ?_
    rcases Value.mem_or_eq_of_mem_assocSet member with old | same
    · exact inside entry old
    · exact same ▸ isData

/-- What entries are put together to is data. -/
theorem isData_ofEntries {forms : List (Value × Value)}
    (areData : ∀ form ∈ forms, IsDataEntry form) :
    (Value.dict (Value.assocUpdate [] forms)).IsData :=
  isData_update areData Node.isRecord_nil fun _ member => absurd member List.not_mem_nil

theorem isData_record {fields : List (String × Value)} (nodup : (fields.map (·.1)).Nodup)
    (areData : ∀ field ∈ fields, field.2.IsData) : (Value.record fields).IsData := by
  refine .dict ⟨fields, nodup, rfl⟩ fun entry member => ?_
  obtain ⟨field, inside, rfl⟩ := List.mem_map.mp member
  exact areData field inside

/-! ### The general form -/

namespace Writing

/-- Whether a value is written as data, on its own and in the place of any annotation. -/
structure WritesData (writing : Writing) : Prop where
  plain : ∀ {form}, writing.plain = .ok form → form.IsData
  inPlace : ∀ {numericDurations fit t form},
    writing.inPlace numericDurations fit t = some (.ok form) → form.IsData

variable {writing : Writing} {numericDurations : Bool} {fit : Fit} {t : Ty} {form : Value}

theorem orElse_eq_some {α : Type} {first : Option α} {second : Unit → Option α} {a : α}
    (chosen : first.orElse second = some a) : first = some a ∨ second () = some a := by
  rw [Option.orElse_eq_or] at chosen
  exact (Option.or_eq_some_iff.mp chosen).imp_right And.right

/-- What a union comes to where no member of it fits. -/
theorem WritesData.loosely (writes : writing.WritesData)
    (made : (if fit = .loosely then some writing.plain else none) = some (.ok form)) :
    form.IsData := by
  split at made
  · exact writes.plain (Option.some.inj made)
  · cases made

/-- The induction is on the annotation and, in a union, on its members. -/
theorem WritesData.write (writes : writing.WritesData) :
    writing.write numericDurations fit t = some (.ok form) → form.IsData := by
  induction fit, t using Writing.write.induct
    (motive_2 := fun fit members =>
      writing.writeFirst numericDurations fit members = some (.ok form) → form.IsData) with
  | case1 fit t notes ih => exact ih
  | case2 fit piped t ih => exact ih
  | case3 fit piped t notNone ih =>
    intro made
    rw [Writing.write.eq_3 _ _ _ _ _ notNone] at made
    exact ih made
  | case4 fit piped members notFirst notSecond exactly asDescendant =>
    intro made
    rw [Writing.write.eq_4 _ _ _ _ _ notFirst notSecond] at made
    rcases orElse_eq_some made with made | made
    · exact exactly made
    · rcases orElse_eq_some made with made | made
      · exact asDescendant made
      · exact writes.loosely made
  | case5 fit t =>
    intro made
    rw [Writing.write.eq_5] at made <;> try assumption
    rcases orElse_eq_some made with made | made
    · exact writes.inPlace made
    · exact writes.loosely made
  | case6 fit made => cases made
  | case7 fit t rest here later made =>
    rcases orElse_eq_some made with made | made
    · exact here made
    · exact later made

/-- What is in a list of forms was made for one of them. -/
theorem mem_of_sequence {α : Type} {a : α} : ∀ {forms : List (Option (Except Fault α))}
    {items : List α}, sequence forms = some (.ok items) → a ∈ items → some (.ok a) ∈ forms
  | [], items, made, member => by
    cases made
    exact absurd member List.not_mem_nil
  | form :: rest, items, made, member => by
    obtain ⟨here, rfl, made⟩ := Option.bind_eq_some_iff.mp made
    obtain ⟨later, others, made⟩ := Option.bind_eq_some_iff.mp made
    obtain ⟨first, rfl, joined⟩ := exists_of_bind_eq_ok (Option.some.inj made)
    obtain ⟨behind, rfl, joined⟩ := exists_of_bind_eq_ok joined
    cases joined
    rcases List.mem_cons.mp member with rfl | member
    · exact List.mem_cons_self
    · exact List.mem_cons_of_mem _ (mem_of_sequence others member)

/-- Items are written each in the place of some annotation. -/
theorem exists_of_mem_writeItems {other : Ty} {made : Option (Except Fault Value)} :
    ∀ {first : List Ty} {parts : List Writing},
      made ∈ writeItems numericDurations fit other first parts →
        ∃ part ∈ parts, ∃ t, part.write numericDurations fit t = made
  | [], [], member | _ :: _, [], member => absurd member List.not_mem_nil
  | [], part :: rest, member => by
    rcases List.mem_cons.mp member with rfl | later
    · exact ⟨part, List.mem_cons_self, _, rfl⟩
    · obtain ⟨found, inside, t, same⟩ := exists_of_mem_writeItems later
      exact ⟨found, List.mem_cons_of_mem _ inside, t, same⟩
  | t :: ts, part :: rest, member => by
    rcases List.mem_cons.mp member with rfl | later
    · exact ⟨part, List.mem_cons_self, _, rfl⟩
    · obtain ⟨found, inside, t, same⟩ := exists_of_mem_writeItems later
      exact ⟨found, List.mem_cons_of_mem _ inside, t, same⟩

/-- A value that is always written as the same data. -/
theorem writesData_always {form : Except Fault Value}
    (isData : ∀ {made}, form = .ok made → made.IsData) : (always form).WritesData where
  plain := isData
  inPlace := by
    intro _ fit _ made chosen
    dsimp only [always] at chosen
    split at chosen
    · exact isData (Option.some.inj chosen)
    · cases chosen

end Writing

/-! ### Values without parts -/

namespace Value

variable {table : ClassTable} {value : Value} {plain : Except Fault Value}

theorem writesData_atom (isData : ∀ {made}, plain = .ok made → made.IsData) :
    (atomWriting table value plain).WritesData where
  plain := isData
  inPlace := by
    intro numericDurations fit t made chosen
    dsimp only [atomWriting] at chosen
    split at chosen
    · split at chosen
      · cases chosen
        exact .float _
      · exact isData (Option.some.inj chosen)
    · cases chosen
      exact .str _
    · split at chosen
      · cases chosen
      · cases chosen
        exact .int _
    · exact isData (Option.some.inj chosen)
    · split at chosen
      · obtain ⟨x, -, same⟩ := Option.map_eq_some_iff.mp chosen
        cases same
        exact .float _
      · cases chosen
    · split at chosen
      · exact isData (Option.some.inj chosen)
      · cases chosen

theorem writesData_object (isData : ∀ {made}, plain = .ok made → made.IsData) :
    (objectWriting table plain).WritesData where
  plain := isData
  inPlace := by
    intro numericDurations fit t made chosen
    dsimp only [objectWriting] at chosen
    split at chosen
    · split at chosen
      · cases chosen
        exact isData_ofEntries fun _ member => absurd member List.not_mem_nil
      · split at chosen
        · exact isData (Option.some.inj chosen)
        · cases chosen
    · split at chosen
      · exact isData (Option.some.inj chosen)
      · cases chosen

end Value

/-! ### Models -/

namespace ClassTable

variable {table : ClassTable} {numericDurations : Bool} {fit : Fit} {info : ModelInfo}
  {own c : ClassRef} {attributes computed : List (String × Writing)} {form : Value}

/-- What is written under a key is a text with data behind it. -/
theorem isDataEntry_of_write {writing : Writing} {t : Ty} {key : String} {entry : Value × Value}
    (writes : writing.WritesData)
    (made : ((writing.write numericDurations fit t).map fun form => form.map (Value.str key, ·))
      = some (.ok entry)) : IsDataEntry entry := by
  obtain ⟨form, written, made⟩ := Option.map_eq_some_iff.mp made
  obtain ⟨value, rfl, rfl⟩ := exists_of_map_eq_ok made
  exact ⟨⟨key, rfl⟩, writes.write written⟩

theorem isDataEntry_of_mem_fieldForms {entry : Value × Value}
    (write : ∀ part ∈ attributes, part.2.WritesData)
    (member : some (.ok entry) ∈ table.fieldForms numericDurations fit info attributes) :
    IsDataEntry entry := by
  obtain ⟨part, inside, made⟩ := List.mem_filterMap.mp member
  obtain ⟨field, -, made⟩ := Option.map_eq_some_iff.mp made
  exact isDataEntry_of_write (write part inside) made

theorem isDataEntry_of_mem_computedForms {entry : Value × Value}
    (write : ∀ part ∈ attributes, part.2.WritesData)
    (member : some (.ok entry)
      ∈ table.computedForms numericDurations fit own info attributes) :
    IsDataEntry entry := by
  obtain ⟨field, -, made⟩ := List.mem_map.mp member
  split at made
  next name writing found =>
    exact isDataEntry_of_write (write _ (List.mem_of_find?_eq_some found)) made
  next => cases made

theorem isData_modelForm (write : ∀ part ∈ attributes, part.2.WritesData)
    (writeToo : ∀ part ∈ computed, part.2.WritesData)
    (made : table.modelForm fit own c info attributes computed = some (.ok form)) :
    form.IsData := by
  obtain ⟨result, sequenced, made⟩ := Option.map_eq_some_iff.mp made
  obtain ⟨entries, rfl, rfl⟩ := exists_of_map_eq_ok made
  refine isData_ofEntries fun entry member => ?_
  rcases List.mem_append.mp (Writing.mem_of_sequence sequenced member) with isField | isComputed
  · exact isDataEntry_of_mem_fieldForms write isField
  · refine isDataEntry_of_mem_computedForms (fun part inside => ?_) isComputed
    rcases List.mem_append.mp inside with inComputed | inAttributes
    · exact writeToo part inComputed
    · exact write part inAttributes

theorem isData_modelInPlace (write : ∀ part ∈ attributes, part.2.WritesData)
    (writeToo : ∀ part ∈ computed, part.2.WritesData)
    (made : table.modelInPlace fit own c attributes computed = some (.ok form)) :
    form.IsData := by
  unfold modelInPlace at made
  cases found : table.model? c with
  | none =>
    rw [found] at made
    cases made
  | some info =>
    rw [found] at made
    obtain ⟨-, made⟩ := Option.ite_none_right_eq_some.mp made
    exact isData_modelForm write writeToo made

end ClassTable

/-! ### All values -/

namespace Value

variable {table : ClassTable} {numericDurations : Bool} {fit : Fit} {payload : Value}

/-- A collection on its own is written as a list of data. -/
theorem isData_items {parts : List Writing} (write : ∀ part ∈ parts, part.WritesData)
    (made : (parts.mapM Writing.plain).map list = .ok payload) : payload.IsData := by
  obtain ⟨forms, each, rfl⟩ := exists_of_map_eq_ok made
  refine .list fun form member => ?_
  obtain ⟨part, inside, made⟩ := exists_of_mem_mapM each member
  exact (write part inside).plain made

/-- So it is where its items have annotations. -/
theorem isData_itemsInPlace {parts : List Writing} {first : List Ty} {other : Ty}
    (write : ∀ part ∈ parts, part.WritesData)
    (made : (Writing.sequence (Writing.writeItems numericDurations fit other first parts)).map
      (·.map list) = some (.ok payload)) : payload.IsData := by
  obtain ⟨result, sequenced, made⟩ := Option.map_eq_some_iff.mp made
  obtain ⟨forms, rfl, rfl⟩ := exists_of_map_eq_ok made
  refine .list fun form member => ?_
  obtain ⟨part, inside, t, made⟩ :=
    Writing.exists_of_mem_writeItems (Writing.mem_of_sequence sequenced member)
  exact (write part inside).write made

/-- Entries whose values are data make up data. -/
theorem isData_of_forms {forms : List (Except Fault String × Except Fault Value)}
    (areData : ∀ form ∈ forms, ∀ {value}, form.2 = .ok value → value.IsData)
    (made : (do
      let entries ← forms.mapM fun (key, form) => do
        let key ← key
        let form ← form
        return (Value.str key, form)
      return .dict (assocUpdate [] entries)) = Except.ok payload) : payload.IsData := by
  obtain ⟨entries, each, made⟩ := exists_of_bind_eq_ok made
  cases made
  refine isData_ofEntries fun entry member => ?_
  obtain ⟨form, inside, made⟩ := exists_of_mem_mapM each member
  obtain ⟨key, -, made⟩ := exists_of_bind_eq_ok made
  obtain ⟨value, isForm, made⟩ := exists_of_bind_eq_ok made
  cases made
  exact ⟨⟨key, rfl⟩, areData form inside isForm⟩

mutual

theorem writesData_writing : ∀ value : Value, (value.writing table).WritesData
  | .null => Writing.writesData_always fun made => by cases made; exact .null
  | .bool b => writesData_atom fun made => by cases made; exact .bool b
  | .int n => writesData_atom fun made => by cases made; exact .int n
  | .float x => writesData_atom fun made => by cases made; exact .float x
  | .str s => Writing.writesData_always fun made => by cases made; exact .str s
  | .bytes data => Writing.writesData_always fun made => by
    obtain ⟨text, -, rfl⟩ := exists_of_map_eq_ok made
    exact .str text
  | .decimal x => writesData_atom fun made => by cases made; exact .str _
  | .complex .. | .uuid _ | .ipv4 _ | .ipv6 _ | .date _ | .datetime _ | .time _ =>
    Writing.writesData_always fun made => by cases made; exact .str _
  | .url _ => writesData_object fun made => by cases made; exact .str _
  | .duration _ => writesData_atom fun made => by cases made; exact .str _
  | .instant i => writesData_object fun made => by
    cases made
    exact isData_record (by simp) (by simp [IsData.int])
  | .collection kind items => by
    have write := writesData_writings items
    refine ⟨isData_items write, fun made => ?_⟩
    dsimp only [writing] at made
    split at made
    · exact isData_itemsInPlace write made
    · obtain ⟨-, made⟩ := Option.ite_none_right_eq_some.mp made
      exact isData_items write (Option.some.inj made)
  | .dict entries => by
    have write := writesData_entryWritings entries
    have isData : ∀ {payload}, ((Value.dict entries).writing table).plain = .ok payload →
        payload.IsData := by
      intro payload made
      refine isData_of_forms (fun form member value isForm => ?_) made
      obtain ⟨part, inside, rfl⟩ := List.mem_map.mp member
      exact (write part inside).plain isForm
    refine ⟨isData, fun made => ?_⟩
    dsimp only [writing] at made
    split at made
    · obtain ⟨result, sequenced, made⟩ := Option.map_eq_some_iff.mp made
      obtain ⟨forms, rfl, made⟩ := exists_of_bind_eq_ok made
      refine isData_of_forms (fun form member value isForm => ?_) made
      obtain ⟨part, inside, made⟩ := List.mem_map.mp (Writing.mem_of_sequence sequenced member)
      obtain ⟨own, written, same⟩ := Option.map_eq_some_iff.mp made
      cases same
      cases isForm
      exact (write part inside).write written
    · obtain ⟨-, made⟩ := Option.ite_none_right_eq_some.mp made
      exact isData (Option.some.inj made)
  | .member owner mixin name value => by
    have own := writesData_writing value
    refine ⟨own.plain, fun made => ?_⟩
    dsimp only [writing] at made
    split at made
    · exact (writesData_atom own.plain).inPlace made
    · exact (writesData_object own.plain).inPlace made
  | .modelInstance c attributes computed => by
    have write := writesData_attributeWritings attributes
    have writeToo := writesData_attributeWritings computed
    have isData : ∀ {payload}, ((Value.modelInstance c attributes computed).writing table).plain
        = .ok payload → payload.IsData := by
      intro payload made
      dsimp only [writing] at made
      cases formed : table.modelInPlace .loosely c c (attributeWritings table attributes)
          (attributeWritings table computed) with
      | none =>
        rw [formed] at made
        cases made
        exact isData_ofEntries fun _ member => absurd member List.not_mem_nil
      | some form =>
        rw [formed] at made
        obtain rfl : form = .ok payload := made
        exact ClassTable.isData_modelInPlace write writeToo formed
    refine ⟨isData, fun made => ?_⟩
    dsimp only [writing] at made
    split at made
    · split at made
      · exact ClassTable.isData_modelInPlace write writeToo made
      · obtain ⟨-, made⟩ := Option.ite_none_right_eq_some.mp made
        exact isData (Option.some.inj made)
    · obtain ⟨-, made⟩ := Option.ite_none_right_eq_some.mp made
      exact isData (Option.some.inj made)
  | .path _ => writesData_atom fun made => by cases made
  | .mapping _ => Writing.writesData_always fun made => by cases made
  | .classObject _ => Writing.writesData_always fun made => by cases made
  | .plainObject _ => writesData_object fun made => by cases made
  | .enclosing .. => Writing.writesData_always fun made => by cases made

theorem writesData_writings : ∀ items : List Value, ∀ part ∈ writings table items, part.WritesData
  | [], _, inside => absurd inside List.not_mem_nil
  | value :: rest, part, inside => by
    rcases List.mem_cons.mp inside with rfl | later
    · exact writesData_writing value
    · exact writesData_writings rest part later

theorem writesData_entryWritings :
    ∀ entries : List (Value × Value), ∀ part ∈ entryWritings table entries, part.2.WritesData
  | [], _, inside => absurd inside List.not_mem_nil
  | (_, value) :: rest, part, inside => by
    rcases List.mem_cons.mp inside with rfl | later
    · exact writesData_writing value
    · exact writesData_entryWritings rest part later

theorem writesData_attributeWritings : ∀ attributes : List (String × Value),
    ∀ part ∈ attributeWritings table attributes, part.2.WritesData
  | [], _, inside => absurd inside List.not_mem_nil
  | (_, value) :: rest, part, inside => by
    rcases List.mem_cons.mp inside with rfl | later
    · exact writesData_writing value
    · exact writesData_attributeWritings rest part later

end

end Value

/-! ### Payloads -/

theorem isData_plainNumber {x : Decimal} {payload : Value}
    (written : plainNumber (.decimal x) = .ok payload) : payload.IsData := by
  dsimp only [plainNumber] at written
  split at written <;> cases written
  · exact .int _
  · exact .float _

namespace Catalog

variable {catalog : Catalog} {excludeNull numericDurations : Bool} {value payload : Value}
  {attributes computed : List (String × Value)} {part : String × Value}

/-- Whether a value is written as data, in every model. -/
def WritesData (catalog : Catalog) (excludeNull : Bool) (value : Value) : Prop :=
  ∀ {numericDurations payload},
    catalog.payloadWithin excludeNull numericDurations value = .ok payload → payload.IsData

theorem mem_of_attributeValue? {name : String}
    (found : attributeValue? attributes name = some value) : (name, value) ∈ attributes := by
  obtain ⟨⟨key, _⟩, at?, rfl⟩ := Option.map_eq_some_iff.mp found
  obtain rfl : key = name := by simpa using List.find?_some at?
  exact List.mem_of_find?_eq_some at?

/-- What an instance is written from are values of its attributes. -/
theorem exists_of_mem_modelParts {c : ClassRef} {info : ModelInfo}
    (inside : part ∈ catalog.modelParts excludeNull c info attributes computed) :
    ∃ own ∈ attributes ++ computed, own.2 = part.2 := by
  rcases List.mem_append.mp inside with isField | isComputed
  · obtain ⟨field, -, made⟩ := List.mem_filterMap.mp isField
    obtain ⟨value, found, kept⟩ := Option.bind_eq_some_iff.mp made
    obtain ⟨-, same⟩ := Option.ite_none_left_eq_some.mp kept
    cases same
    exact ⟨_, List.mem_append_left _ (mem_of_attributeValue? found), rfl⟩
  · obtain ⟨field, -, made⟩ := List.mem_filterMap.mp isComputed
    obtain ⟨value, found, rfl⟩ := Option.map_eq_some_iff.mp made
    exact ⟨_, List.mem_append_right _ (mem_of_attributeValue? found), rfl⟩

/-- What corresponds to the elements of a list has a property that each of them gives it. -/
theorem forall_of_forall₂ {α β : Type} {R : α → β → Prop} {P : β → Prop} {as : List α} {bs : List β}
    (each : List.Forall₂ R as bs) (gives : ∀ a ∈ as, ∀ {b}, R a b → P b) : ∀ b ∈ bs, P b := by
  induction each with
  | nil => exact fun _ member => absurd member List.not_mem_nil
  | cons related _ ih =>
    obtain ⟨here, later⟩ := List.forall_mem_cons.mp gives
    exact List.forall_mem_cons.mpr ⟨here related, ih later⟩

/-- Entries are data where the values are written as data that they are made for. -/
theorem isDataEntry_of_forms {forms : List (Value × Value)} {parts : List (String × Value)}
    (each : List.Forall₂ (catalog.IsForm excludeNull numericDurations) parts forms)
    (write : ∀ part ∈ parts, catalog.WritesData excludeNull part.2) :
    ∀ form ∈ forms, IsDataEntry form :=
  forall_of_forall₂ each fun part inside _ isForm =>
    ⟨⟨part.1, isForm.1⟩, write part inside isForm.2⟩

theorem isData_marker {c : ClassRef} : ∀ entry ∈ catalog.marker c, entry.2.IsData := by
  intro entry member
  obtain ⟨property, -, rfl⟩ := List.mem_map.mp member
  exact .str _

/-- Mappings are written as data where their values are. -/
theorem writesData_mapping {entries : List (Value × Value)}
    (isMapping : value = .dict entries ∨ value = .mapping entries)
    (write : ∀ entry ∈ entries, catalog.WritesData excludeNull entry.2) :
    catalog.WritesData excludeNull value := by
  intro numericDurations payload written
  obtain ⟨forms, rfl, each⟩ := payload_mapping isMapping written
  refine isData_ofEntries (isDataEntry_of_forms (forms_of_entries each) fun part inside => ?_)
  obtain ⟨entry, member, made⟩ := List.mem_filterMap.mp inside
  obtain ⟨key, -, rfl⟩ := Option.map_eq_some_iff.mp made
  exact write entry member

/-- Instances are written as data where their attributes are. An instance of a class that is no
model has nothing but the entry that tells its class. -/
theorem writesData_instance {c : ClassRef}
    (write : ∀ own ∈ attributes ++ computed, catalog.WritesData excludeNull own.2) :
    catalog.WritesData excludeNull (.modelInstance c attributes computed) := by
  intro numericDurations payload written
  cases model : catalog.table.model? c with
  | some info =>
    obtain ⟨forms, rfl, each⟩ := payload_instance model written
    refine isData_update (isDataEntry_of_forms each fun part inside => ?_) isRecord_marker
      isData_marker
    obtain ⟨own, member, same⟩ := exists_of_mem_modelParts inside
    exact same ▸ write own member
  | none =>
    obtain rfl : payload = .dict (catalog.marker c) := by
      rw [payloadWithin_modelInstance, modelEntries, model] at written
      cases written
      unfold marker
      cases catalog.writtenDiscriminator? c <;> rfl
    exact .dict isRecord_marker isData_marker

/-- Lists and the like are written as data where their items are. -/
theorem writesData_collection {kind : Collection} {items : List Value}
    (write : ∀ item ∈ items, catalog.WritesData excludeNull item) :
    catalog.WritesData excludeNull (.collection kind items) := by
  intro numericDurations payload written
  by_cases isDeque : kind = .deque
  · subst isDeque
    exact (Value.writesData_writing (.collection .deque items)).plain written
  · obtain ⟨payloads, rfl, each⟩ := payload_collection isDeque written
    exact .list (forall_of_forall₂ each fun item inside _ isPayload => write item inside isPayload)

mutual

/-- Every value is written as data. The recursion is that of the values. -/
theorem writesData_value : ∀ value : Value, catalog.WritesData excludeNull value
  | .null => fun written => by cases written; exact .null
  | .bool b => fun written => by cases written; exact .bool b
  | .int n => fun written => by cases written; exact .int n
  | .float x => fun written => by cases written; exact .float x
  | .str s => fun written => by cases written; exact .str s
  | .decimal _ => fun written => isData_plainNumber written
  | .instant _ => fun written => by
    cases written
    exact isData_record (by simp) (by simp [Value.IsData.int])
  | .duration d => fun written => by
    rw [payloadWithin] at written
    cases written
    split
    · exact .float _
    · exact .str _
  | .collection _ items => writesData_collection (writesData_items items)
  | .dict entries => writesData_mapping (.inl rfl) (writesData_entries entries)
  | .mapping entries => writesData_mapping (.inr rfl) (writesData_entries entries)
  | .modelInstance _ attributes computed =>
    writesData_instance (List.forall_mem_append.mpr
      ⟨writesData_attributes attributes, writesData_attributes computed⟩)
  | .member owner mixin name value => fun written => by
    cases mixin with
    | str => cases written; exact .textMember owner name value
    | none | int | float | flag | intFlag => exact writesData_value value written
  | .bytes _ | .complex .. | .uuid _ | .url _ | .ipv4 _ | .ipv6 _ | .path _ | .date _
  | .datetime _ | .time _ | .classObject _ | .plainObject _ | .enclosing .. =>
    fun written => (Value.writesData_writing _).plain written

theorem writesData_items :
    ∀ items : List Value, ∀ item ∈ items, catalog.WritesData excludeNull item
  | [], _, inside => absurd inside List.not_mem_nil
  | value :: rest, item, inside => by
    rcases List.mem_cons.mp inside with same | later
    · exact same ▸ writesData_value value
    · exact writesData_items rest item later

theorem writesData_entries : ∀ entries : List (Value × Value),
    ∀ entry ∈ entries, catalog.WritesData excludeNull entry.2
  | [], _, inside => absurd inside List.not_mem_nil
  | (_, value) :: rest, own, inside => by
    rcases List.mem_cons.mp inside with rfl | later
    · exact writesData_value value
    · exact writesData_entries rest own later

theorem writesData_attributes : ∀ attributes : List (String × Value),
    ∀ own ∈ attributes, catalog.WritesData excludeNull own.2
  | [], _, inside => absurd inside List.not_mem_nil
  | (_, value) :: rest, own, inside => by
    rcases List.mem_cons.mp inside with rfl | later
    · exact writesData_value value
    · exact writesData_attributes rest own later

end

/-! ### Data on its own -/

theorem payloadItems_eq {items : List Value}
    (each : ∀ item ∈ items, catalog.payloadWithin excludeNull numericDurations item = .ok item) :
    catalog.payloadItems excludeNull numericDurations items = .ok items := by
  induction items with
  | nil => rfl
  | cons item rest ih =>
    obtain ⟨here, later⟩ := List.forall_mem_cons.mp each
    rw [payloadItems_cons, here, ih later]
    rfl

/-- A text is shown as it is, so that keys that are texts stay. -/
theorem payloadEntries_eq {fields : List (String × Value)}
    (each : ∀ field ∈ fields,
      catalog.payloadWithin excludeNull numericDurations field.2 = .ok field.2) :
    catalog.payloadEntries excludeNull numericDurations (Node.ofFields fields)
      = .ok (Node.ofFields fields) := by
  induction fields with
  | nil => rfl
  | cons field rest ih =>
    obtain ⟨here, later⟩ := List.forall_mem_cons.mp each
    have others := ih later
    unfold Node.ofFields at others ⊢
    rw [List.map_cons, payloadEntries_cons, here, others]
    rfl

/-- Data is written as it is. The keys of a dictionary are all there once, so that each stays in its
place. -/
theorem payload_of_isData (isData : value.IsData) :
    catalog.payloadWithin excludeNull numericDurations value = .ok value := by
  induction isData with
  | null | bool | int | float | str | textMember => rfl
  | list _ ih =>
    rw [Value.list, payloadWithin_collection (by decide : Collection.list ≠ .deque),
      payloadItems_eq ih]
    rfl
  | @dict node isRecord _ ih =>
    have same : Value.assocUpdate [] node = node := Node.update_nil isRecord
    obtain ⟨fields, -, rfl⟩ := isRecord
    have each := payloadEntries_eq fun field inside => ih _ (List.mem_map_of_mem inside)
    rw [payloadWithin_dict, each]
    exact congrArg (Except.ok ∘ Value.dict) same

/-! ### Main result -/

/-- The payload of a value is data, and is its own payload, whether values that are missing are left
out of either or not. -/
theorem payload_fixed {other : Bool} (written : catalog.payload excludeNull value = .ok payload) :
    payload.IsData ∧ catalog.payload other payload = .ok payload :=
  have isData := writesData_value value written
  ⟨isData, payload_of_isData isData⟩

/-- The values that are missing in a drawing are written, and stay when they are to be left out. -/
theorem payload_fixed_sketch :
    Example.figures.payload false Example.sketch = .ok Example.sketchPayload
      ∧ Example.sketchPayload.IsData
      ∧ Example.figures.payload true Example.sketchPayload = .ok Example.sketchPayload :=
  ⟨payload_sketch, payload_fixed payload_sketch⟩

end Catalog

end ModelSchema
