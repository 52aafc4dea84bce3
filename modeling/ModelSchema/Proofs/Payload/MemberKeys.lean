import ModelSchema.Proofs.Payload.Parts

/-!
Members of enumerations as the keys of mappings.

A key is written as the text of its payload. The payload of a member is that of its value, so that it
is written as a key like everywhere else. A member that is a text itself is its own payload: as a key
it is written with the name of its class, and everywhere else as its value.

* `Catalog.Places`: which value stands where in another one, with members seen through.
* `Catalog.WritesLast`: what stands under a text where entries are written.
* `Catalog.keyText?_member`: the text that a member is written as where it is a key.
* `Catalog.payload_memberKeys`: under this text stands the payload of the last entry with it.
* `not_payload_memberKeys`: the text is not always that of the payload of the value.
-/

namespace ModelSchema

/-! ### Paths -/

/-- A path is gone along in two stretches. -/
theorem Value.part?_append {rest : List PayloadStep} :
    ∀ {steps : List PayloadStep} {value : Value},
      value.part? (steps ++ rest) = (value.part? steps).bind (·.part? rest)
  | [], _ => rfl
  | step :: steps, value => by
    rw [List.cons_append, part?, part?]
    cases value.child? step with
    | none => rfl
    | some child => exact part?_append

/-- Under a key that some element of a list has, one of them is the last. -/
theorem exists_isLastUnder {α : Type} {key : String} {list : List (String × α)}
    (member : key ∈ list.map (·.1)) : ∃ a, Catalog.IsLastUnder key a list := by
  induction list with
  | nil => cases member
  | cons first rest ih =>
    by_cases later : key ∈ rest.map (·.1)
    · obtain ⟨a, before, after, rfl, absent⟩ := ih later
      exact ⟨a, first :: before, after, rfl, absent⟩
    · obtain rfl := (List.mem_cons.mp member).resolve_right later
      exact ⟨first.2, [], rest, rfl, later⟩

namespace Catalog

variable {catalog : Catalog} {excludeNull n m : Bool} {value inner payload : Value}
  {path : List PayloadStep} {entries : List (Value × Value)} {owner : ClassRef} {mixin : Mixin}
  {name : String} {content : Value}

/-! ### Members -/

/-- A member that is no text itself is written as its value. -/
theorem payload_plainMember (notText : mixin ≠ .str) :
    catalog.payloadWithin excludeNull n (.member owner mixin name content)
      = catalog.payloadWithin excludeNull n content := by
  cases mixin with
  | str => exact absurd rfl notText
  | _ => rfl

/-- A member that is a text itself is its own payload. -/
theorem payload_textMember :
    catalog.payloadWithin excludeNull n (.member owner .str name content)
      = .ok (.member owner .str name content) := rfl

/-- The text that a member is written as where it is a key. -/
theorem keyText?_member :
    catalog.keyText? excludeNull n (.member owner mixin name content)
      = if mixin = .str then some (catalog.table.name owner ++ "." ++ name)
        else catalog.keyText? excludeNull n content := by
  unfold keyText?
  split
  next isText =>
    subst isText
    rw [payload_textMember]
    rfl
  next notText => rw [payload_plainMember notText]

/-- `Places excludeNull n value path m inner`: like `Holds`, and what stands in the value of a member
that is no text itself stands in the member. -/
inductive Places (catalog : Catalog) (excludeNull : Bool) :
    Bool → Value → List PayloadStep → Bool → Value → Prop where
  | holds {n m : Bool} {value inner : Value} {path : List PayloadStep} :
      catalog.Holds excludeNull n value path m inner →
      Places catalog excludeNull n value path m inner
  | member {n m within : Bool} {value content inner : Value} {path rest : List PayloadStep}
      {owner : ClassRef} {mixin : Mixin} {name : String} :
      catalog.Holds excludeNull n value path m (.member owner mixin name content) → mixin ≠ .str →
      Places catalog excludeNull m content rest within inner →
      Places catalog excludeNull n value (path ++ rest) within inner

/-- Where a value stands in another one, its payload stands in the payload. -/
theorem Places.exists_payload (places : catalog.Places excludeNull n value path m inner)
    (written : catalog.payloadWithin excludeNull n value = .ok payload) :
    ∃ part, catalog.payloadWithin excludeNull m inner = .ok part
      ∧ payload.part? path = some part := by
  induction places generalizing payload with
  | holds holds => exact holds.payload written
  | member holds notText _ ih =>
    obtain ⟨whole, own, at?⟩ := holds.payload written
    rw [payload_plainMember notText] at own
    obtain ⟨part, ofInner, below⟩ := ih own
    exact ⟨part, ofInner, by rw [Value.part?_append, at?, Option.bind_some, below]⟩

/-! ### Keys -/

/-- What stands under a text where entries were written: the payload of the last one of those whose
key is written as the text. -/
def WritesLast (catalog : Catalog) (excludeNull n : Bool) (entries : List (Value × Value))
    (result : Node) (text : String) : Prop :=
  ∃ last payload, IsLastUnder text last (entries.filterMap (catalog.entryPart? excludeNull n))
    ∧ catalog.IsPayload excludeNull n last payload ∧ result.get? text = some payload

/-- Every key of a mapping that was written has a payload, and under its text stands the payload of
the last entry with this text. -/
theorem writesLast_of_mem (isMapping : value.entries? = some entries)
    (written : catalog.payloadWithin excludeNull n value = .ok payload) :
    ∃ result : Node, payload = .dict result
      ∧ ∀ entry ∈ entries, ∃ key, catalog.IsPayload excludeNull n entry.1 key
        ∧ catalog.WritesLast excludeNull n entries result (key.shown catalog.table) := by
  have isMapping : value = .dict entries ∨ value = .mapping entries := by
    cases value <;> simp_all [Value.entries?]
  obtain ⟨forms, rfl, each⟩ := payload_mapping isMapping written
  refine ⟨_, rfl, fun entry member => ?_⟩
  obtain ⟨key, own⟩ : ∃ key, catalog.IsPayload excludeNull n entry.1 key :=
    ((List.forall₂_and_left _ _).mp (each.imp fun _ _ isEntry =>
      ⟨isEntry.1.imp fun _ => And.left, isEntry⟩)).1 entry member
  have isKey : key.shown catalog.table
      ∈ (entries.filterMap (catalog.entryPart? excludeNull n)).map (·.1) := by
    refine List.mem_map.mpr ⟨(_, entry.2), List.mem_filterMap.mpr ⟨entry, member, ?_⟩, rfl⟩
    have own : catalog.payloadWithin excludeNull n entry.1 = .ok key := own
    rw [entryPart?, keyText?, own]
    rfl
  obtain ⟨last, isLast⟩ := exists_isLastUnder isKey
  obtain ⟨part, ofLast, found⟩ := get?_update_of_isLast (forms_of_entries each) isLast []
  exact ⟨key, own, last, part, isLast, ofLast, found⟩

/-! ### Main result -/

/-- Wherever a mapping stands, it is written as a dictionary. For a member that is no text itself,
the payload of its value, which is also its own, gives the key under which the last such entry is
written. A member that is a text is written under the name of its class with its own name. -/
theorem payload_memberKeys (places : catalog.Places excludeNull n value path m inner)
    (isMapping : inner.entries? = some entries)
    (written : catalog.payloadWithin excludeNull n value = .ok payload) :
    ∃ result : Node, payload.part? path = some (.dict result)
      ∧ ∀ owner mixin name content item, (.member owner mixin name content, item) ∈ entries →
        (mixin ≠ .str → ∃ converted, catalog.IsPayload excludeNull m content converted
          ∧ catalog.IsPayload excludeNull m (.member owner mixin name content) converted
          ∧ catalog.WritesLast excludeNull m entries result (converted.shown catalog.table))
        ∧ (mixin = .str → catalog.WritesLast excludeNull m entries result
          (catalog.table.name owner ++ "." ++ name)) := by
  obtain ⟨part, own, at?⟩ := places.exists_payload written
  obtain ⟨result, rfl, each⟩ := writesLast_of_mem isMapping own
  refine ⟨result, at?, fun owner mixin name content item member => ?_⟩
  obtain ⟨key, isKey, last⟩ := each _ member
  have isKey : catalog.payloadWithin excludeNull m (.member owner mixin name content) = .ok key :=
    isKey
  refine ⟨fun notText => ⟨key, ?_, isKey, last⟩, fun isText => ?_⟩
  · exact (payload_plainMember notText).symm.trans isKey
  · subst isText
    cases isKey
    exact last

end Catalog

/-! ### Examples -/

section

open Example

/-- The first term, as a key before the number one. -/
def numberedTerms : List (Value × Value) :=
  [(.member term .none "first" (.int 1), .str "term"), (.int 1, .str "number")]

/-- A term with the number one and the number one are the same key. -/
theorem payload_memberKeys_term :
    ∃ payload, courses.payloadWithin false false (.list [.dict numberedTerms]) = .ok payload
      ∧ ∃ result : Node, payload.part? [.item 0] = some (.dict result)
        ∧ courses.WritesLast false false numberedTerms result "1" := by
  obtain ⟨payload, written⟩ :
      ∃ payload, courses.payloadWithin false false (.list [.dict numberedTerms]) = .ok payload :=
    ⟨_, rfl⟩
  have places : courses.Places false false (.list [.dict numberedTerms]) [.item 0] false
      (.dict numberedTerms) := .holds (.item (by decide) rfl .here)
  obtain ⟨result, at?, each⟩ := Catalog.payload_memberKeys places rfl written
  obtain ⟨converted, isPayload, -, last⟩ :=
    (each term .none "first" (.int 1) _ List.mem_cons_self).1 (by decide)
  cases isPayload
  exact ⟨payload, written, result, at?, last⟩

/-- A colour is written as a key with the name of its class, although its value is another text. -/
theorem not_payload_memberKeys :
    ¬ ∀ (catalog : Catalog) (excludeNull n : Bool) (entries : List (Value × Value)) (result : Node),
      catalog.payloadWithin excludeNull n (.dict entries) = .ok (.dict result) →
      ∀ owner mixin name content item, (.member owner mixin name content, item) ∈ entries →
        ∃ converted, catalog.IsPayload excludeNull n content converted
          ∧ catalog.WritesLast excludeNull n entries result (converted.shown catalog.table) := by
  intro same
  obtain ⟨converted, isPayload, last, payload, -, -, found⟩ := same colours false false
    [(.member colour .str "red" (.str "r"), .int 1)] [(.str "Colour.red", .int 1)] rfl
    colour .str "red" (.str "r") _ List.mem_cons_self
  cases isPayload
  simp [Value.shown] at found

end

end ModelSchema
