import ModelSchema.Payload.Basic
import ModelSchema.Proofs.Class.Members
import ModelSchema.Proofs.Payload.Parts
import ModelSchema.Shape
import ModelSchema.Validation.Assertion

/-!
Members of enumerations: what they are written as, and what is listed for them.

For a member that is no text, number or truth value its plain text is listed, whatever it is written
as.

* `Value.writtenText?`: the text that a value is written as, if it is written as one.
* `Value.isWrittenAsListed`: whether a value is written as what is listed for it, read off its kind.
* `Value.IsListedAsIs`: the values that are listed as they are. For all others a text is listed.
* `Catalog.alike_listedForm`: that is what it says.
-/

namespace ModelSchema

namespace Value

/-- What a value is besides being a member. -/
def withoutName : Value → Value
  | .member _ _ _ value => value
  | value => value

/-- The text that a value is written as, if it is written as one. -/
def writtenText? (numericDurations : Bool) : Value → Option String
  | .str s => some s
  | .bytes data => (bytesText data).toOption
  | .complex re im => some (plainComplex re im)
  | .uuid text | .url text | .ipv4 text | .ipv6 text => some text
  | .date d => some d.iso
  | .datetime t => some t.zulu
  | .time c => some c.zulu
  | .duration d => if numericDurations then none else some d.iso
  | .member _ _ _ value => value.writtenText? numericDurations
  | _ => none

/-- Whether a value is written as what is listed for it. A not-a-number is listed and yet not equal
to itself. -/
def isWrittenAsListed (table : ClassTable) (numericDurations : Bool) : Value → Bool
  | .float .nan | .member _ .float _ (.float .nan) => false
  | .null | .bool _ | .int _ | .float _ | .str _ => true
  | .member _ .str _ _ | .member _ .int _ _ | .member _ .float _ _ | .member _ .intFlag _ _ => true
  | value => value.writtenText? numericDurations = some (value.shown table)

end Value

/-- What is listed for the value of a member. -/
def ClassTable.listedForm (table : ClassTable) (value : Value) : Value :=
  match value with
  | .null | .bool _ | .int _ | .float _ | .str _ => value
  | .member _ .str _ _ | .member _ .int _ _ | .member _ .float _ _ | .member _ .intFlag _ _ => value
  | value => .str (value.shown table)

theorem ClassTable.enumeratedValue_eq {table : ClassTable} {value : Value} :
    table.enumeratedValue value = table.listedForm value.withoutName := by
  cases value <;> rfl

/-- The values that are listed as they are: null, truth values, numbers and texts, and members that
are a number or a text by their mixin. -/
inductive Value.IsListedAsIs : Value → Prop where
  | null : IsListedAsIs .null
  | bool (b : Bool) : IsListedAsIs (.bool b)
  | int (n : Int) : IsListedAsIs (.int n)
  | float (x : Binary64) : IsListedAsIs (.float x)
  | str (s : String) : IsListedAsIs (.str s)
  | strMember (owner : ClassRef) (name s : String) :
      IsListedAsIs (.member owner .str name (.str s))
  | intMember (owner : ClassRef) (name : String) (n : Int) :
      IsListedAsIs (.member owner .int name (.int n))
  | flagMember (owner : ClassRef) (name : String) (n : Int) :
      IsListedAsIs (.member owner .intFlag name (.int n))
  | floatMember (owner : ClassRef) (name : String) (x : Binary64) :
      IsListedAsIs (.member owner .float name (.float x))

/-- For all others their text is listed, so that they have to be written as this text. -/
theorem Value.isListedAsIs_or_text {value : Value} (isMade : value.isMade = true)
    (table : ClassTable) (numericDurations : Bool) :
    value.IsListedAsIs ∨ table.listedForm value = .str (value.shown table)
      ∧ value.isWrittenAsListed table numericDurations
        = decide (value.writtenText? numericDurations = some (value.shown table)) := by
  cases value with
  | null => exact .inl .null
  | bool b => exact .inl (.bool b)
  | int n => exact .inl (.int n)
  | float x => exact .inl (.float x)
  | str s => exact .inl (.str s)
  | member owner mixin name value =>
    obtain ⟨fits, -⟩ := Bool.and_eq_true_iff.mp isMade
    cases mixin with
    | none | flag => exact .inr ⟨rfl, rfl⟩
    | str =>
      cases value <;> cases fits
      exact .inl (.strMember owner name _)
    | int =>
      cases value <;> cases fits
      exact .inl (.intMember owner name _)
    | intFlag =>
      cases value <;> cases fits
      exact .inl (.flagMember owner name _)
    | float =>
      cases value <;> cases fits
      exact .inl (.floatMember owner name _)
  | _ => exact .inr ⟨rfl, rfl⟩

/-! ### Texts that are written -/

namespace Catalog

variable {catalog : Catalog} {excludeNull numericDurations : Bool} {value payload : Value}

theorem text?_plainNumber {x : Decimal}
    (written : plainNumber (.decimal x) = .ok payload) : payload.text? = none := by
  unfold plainNumber at written
  dsimp only at written
  split at written <;> cases written <;> rfl

/-- A payload is a text where a text is written. -/
theorem text?_payload : ∀ {value payload : Value}, value.isMade = true →
    catalog.payloadWithin excludeNull numericDurations value = .ok payload →
    payload.text? = value.writtenText? numericDurations
  | .null, _, _, written | .bool _, _, _, written | .int _, _, _, written
  | .float _, _, _, written | .str _, _, _, written | .complex .., _, _, written
  | .uuid _, _, _, written | .url _, _, _, written | .ipv4 _, _, _, written
  | .ipv6 _, _, _, written | .date _, _, _, written | .datetime _, _, _, written
  | .time _, _, _, written | .instant _, _, _, written => by
    cases written
    rfl
  | .duration _, _, _, written => by
    cases written
    cases numericDurations <;> rfl
  | .bytes data, _, _, written => by
    obtain ⟨text, decoded, rfl⟩ := exists_of_map_eq_ok written
    simp [Value.writtenText?, decoded, Value.text?, Except.toOption]
  | .decimal x, _, _, written => text?_plainNumber written
  | .modelInstance .., _, _, written => by
    obtain ⟨entries, -, rfl⟩ := exists_of_map_eq_ok written
    rfl
  | .dict _, _, _, written | .mapping _, _, _, written => by
    obtain ⟨entries, -, written⟩ := exists_of_bind_eq_ok written
    cases written
    rfl
  | .collection kind _, _, _, written => by
    cases kind <;>
      obtain ⟨items, -, rfl⟩ := exists_of_map_eq_ok written <;>
      rfl
  | .member _ .str _ value, _, isMade, written => by
    cases written
    obtain ⟨fits, -⟩ := Bool.and_eq_true_iff.mp isMade
    cases value <;> first
      | rfl
      | cases fits
  | .member _ .none _ value, _, isMade, written | .member _ .int _ value, _, isMade, written
  | .member _ .float _ value, _, isMade, written | .member _ .flag _ value, _, isMade, written
  | .member _ .intFlag _ value, _, isMade, written => by
    obtain ⟨-, isMade⟩ := Bool.and_eq_true_iff.mp isMade
    exact @text?_payload value _ isMade written
  | .path _, _, _, written | .classObject _, _, _, written | .plainObject _, _, _, written
  | .enclosing .., _, _, written => by cases written

/-- A text that is written is written without a fault. -/
theorem exists_payload_of_text {text : String} : ∀ {value : Value},
    value.writtenText? numericDurations = some text →
    ∃ payload, catalog.payloadWithin excludeNull numericDurations value = .ok payload
  | .str _, _ | .complex .., _ | .uuid _, _ | .url _, _ | .ipv4 _, _ | .ipv6 _, _ | .date _, _
  | .datetime _, _ | .time _, _ | .duration _, _ | .member _ .str _ _, _ => ⟨_, rfl⟩
  | .bytes data, written => by
    obtain ⟨text, decoded⟩ : ∃ text, bytesText data = .ok text := by
      rw [Value.writtenText?] at written
      cases decoded : bytesText data with
      | error reason => simp [decoded, Except.toOption] at written
      | ok text => exact ⟨text, rfl⟩
    exact ⟨.str text, congrArg (Except.map Value.str) decoded⟩
  | .member _ .none _ value, written | .member _ .int _ value, written
  | .member _ .float _ value, written | .member _ .flag _ value, written
  | .member _ .intFlag _ value, written =>
    @exists_payload_of_text _ value written

end Catalog

/-! ### Payloads beside what is listed -/

namespace Value

variable {likeness : Likeness} {value : Value}

/-- Values other than containers and bytes are compared as scalars. -/
theorem alike_eq_scalarAlike (value : Value) {other : Value}
    (isScalar : value matches .int _ | .float _ | .str _ | .member ..) :
    value.alike likeness other = value.scalarAlike likeness other := by
  cases value with
  | int | float | str | member => simp [alike, sequence?]
  | _ => cases isScalar

/-- What is alike to a text has that text. -/
theorem str_alike {text : String} (apart : likeness.truthApart = true) :
    (Value.str text).alike likeness value = (value.text? == some text) := by
  rw [alike_eq_scalarAlike (.str text) rfl]
  cases value with
  | bool b =>
    show (!likeness.truthApart && (Value.str text).same (.bool b)) = false
    rw [apart]
    rfl
  | _ => exact str_same

/-- Numbers of one magnitude are equal when the magnitude is equal to itself. -/
theorem same_of_magnitude {other : Value} {x : Magnitude}
    (isNumber : other matches .int _ | .float _) (here : value.magnitude? = some x)
    (there : other.magnitude? = some x) : value.same other = x.same x := by
  have content : sameByContent value other = x.same x := by
    unfold sameByContent
    rw [here, there]
  cases value with
  | bool | int | float | decimal => simp [same, content]
  | complex | member =>
    cases other with
    | int | float => simp [same, content]
    | _ => cases isNumber
  | _ => cases here

theorem alike_int {n : Int} : (Value.int n).alike likeness (.int n) = true := by
  have same : (Value.int n).same (.int n) = (Magnitude.ratio n 1).same (.ratio n 1) :=
    same_of_magnitude rfl rfl rfl
  rw [alike_eq_scalarAlike (.int n) rfl]
  exact same.trans (decide_eq_true rfl)

/-- A member that is an integer is equal to the integer. -/
theorem alike_intMember {n : Int} {owner : ClassRef} {name : String} {mixin : Mixin}
    (isInt : mixin = .int ∨ mixin = .intFlag) :
    (Value.member owner mixin name (.int n)).alike likeness (.int n) = true := by
  have same : (Value.member owner mixin name (.int n)).same (.int n)
      = (Magnitude.ratio n 1).same (.ratio n 1) := by
    rcases isInt with rfl | rfl <;> exact same_of_magnitude rfl rfl rfl
  rw [alike_eq_scalarAlike (.member owner mixin name (.int n)) rfl]
  exact same.trans (decide_eq_true rfl)

theorem same_doubleMagnitude {x : Binary64} :
    (doubleMagnitude x).same (doubleMagnitude x) = !x.isNaN := by
  cases x <;> simp [doubleMagnitude, Binary64.toRatio?, Magnitude.same, Binary64.isNaN]

/-- A double is equal to itself unless it is a not-a-number. -/
theorem alike_float {x : Binary64} :
    (Value.float x).alike Assertion.listedLikeness (.float x) = !x.isNaN := by
  have same : (Value.float x).same (.float x) = (doubleMagnitude x).same (doubleMagnitude x) :=
    same_of_magnitude rfl rfl rfl
  rw [alike_eq_scalarAlike (.float x) rfl]
  exact same.trans same_doubleMagnitude

theorem alike_floatMember {x : Binary64} {owner : ClassRef} {name : String} :
    (Value.member owner .float name (.float x)).alike likeness (.float x) = !x.isNaN := by
  have same : (Value.member owner .float name (.float x)).same (.float x)
      = (doubleMagnitude x).same (doubleMagnitude x) := same_of_magnitude rfl rfl rfl
  rw [alike_eq_scalarAlike (.member owner .float name (.float x)) rfl]
  exact same.trans same_doubleMagnitude

/-- A member is equal to itself. -/
theorem alike_member {owner : ClassRef} {mixin : Mixin} {name : String} :
    (Value.member owner mixin name value).alike likeness (.member owner mixin name value)
      = true := by
  rw [alike_eq_scalarAlike (.member owner mixin name value) rfl]
  show (Value.member owner mixin name value).same (.member owner mixin name value) = true
  simp [same]

theorem isWrittenAsListed_float {table : ClassTable} {numericDurations : Bool} {x : Binary64} :
    (Value.float x).isWrittenAsListed table numericDurations = !x.isNaN := by
  cases x <;> rfl

theorem isWrittenAsListed_floatMember {table : ClassTable} {numericDurations : Bool}
    {x : Binary64} {owner : ClassRef} {name : String} :
    (Value.member owner .float name (.float x)).isWrittenAsListed table numericDurations
      = !x.isNaN := by
  cases x <;> rfl

/-- A moment is listed with a blank behind its date, and written with a letter there. -/
theorem isWrittenAsListed_datetime {table : ClassTable} {numericDurations : Bool} {t : DateTime} :
    (Value.datetime t).isWrittenAsListed table numericDurations = false := by
  have apart : t.zulu ≠ t.iso ' ' := by
    intro same
    have texts := congrArg String.toList same
    simp [DateTime.zulu, DateTime.iso] at texts
  exact decide_eq_false fun same => apart (Option.some.inj same)

/-- The offset zero is listed as a number, and written as a letter. -/
theorem isWrittenAsListed_time {table : ClassTable} {numericDurations : Bool} {c : Clock} :
    (Value.time c).isWrittenAsListed table numericDurations = true ↔ c.offset ≠ some 0 := by
  show decide (some c.zulu = some c.iso) = true ↔ c.offset ≠ some 0
  rw [decide_eq_true_iff, Option.some.injEq]
  obtain ⟨hour, minute, second, microsecond, offset⟩ := c
  match offset with
  | none => simp [Clock.zulu, Clock.iso]
  | some offset =>
    by_cases zero : offset = 0
    · subst zero
      have apart : "Z" ≠ Clock.offsetText 0 := by decide
      simpa [Clock.zulu, Clock.iso] using apart
    · simp [Clock.zulu, Clock.iso, zero]

end Value

namespace Catalog

variable {catalog : Catalog} {excludeNull numericDurations : Bool} {value payload : Value}

/-- What is written is equal to what is listed as far as `isWrittenAsListed` says. -/
theorem alike_listedForm (isMade : value.isMade = true)
    (written : catalog.payloadWithin excludeNull numericDurations value = .ok payload) :
    (catalog.table.listedForm value).alike Assertion.listedLikeness payload
      = value.isWrittenAsListed catalog.table numericDurations := by
  rcases Value.isListedAsIs_or_text isMade catalog.table numericDurations with
    asIs | ⟨listed, asListed⟩
  · cases asIs with
    | null =>
      cases written
      simp [ClassTable.listedForm, Value.alike, Value.sequence?, Value.scalarAlike, Value.same,
        Value.isWrittenAsListed]
    | bool b =>
      cases written
      cases b <;> rfl
    | int =>
      cases written
      exact Value.alike_int
    | float =>
      cases written
      exact Value.alike_float.trans Value.isWrittenAsListed_float.symm
    | str s =>
      cases written
      exact (Value.str_alike rfl).trans (beq_self_eq_true _)
    | strMember =>
      cases written
      exact Value.alike_member
    | intMember =>
      cases written
      exact Value.alike_intMember (.inl rfl)
    | flagMember =>
      cases written
      exact Value.alike_intMember (.inr rfl)
    | floatMember =>
      cases written
      exact Value.alike_floatMember.trans Value.isWrittenAsListed_floatMember.symm
  · rw [listed, asListed, Value.str_alike rfl, text?_payload isMade written]
    exact Bool.beq_eq_decide_eq _ _

/-- What is written as listed is written. -/
theorem exists_payload_of_isWrittenAsListed (isMade : value.isMade = true)
    (asListed : value.isWrittenAsListed catalog.table numericDurations = true) :
    ∃ payload, catalog.payloadWithin excludeNull numericDurations value = .ok payload := by
  rcases Value.isListedAsIs_or_text isMade catalog.table numericDurations with asIs | ⟨-, same⟩
  · cases asIs <;> exact ⟨_, rfl⟩
  · exact exists_payload_of_text (of_decide_eq_true (same.symm.trans asListed))

/-- A member is written as its value, unless it is a text itself. -/
theorem payload_member {owner : ClassRef} {mixin : Mixin} {name : String}
    (isMade : (Value.member owner mixin name value).isMade = true) :
    (∃ text, mixin = .str ∧ value = .str text)
      ∨ catalog.payloadWithin excludeNull numericDurations (.member owner mixin name value)
        = catalog.payloadWithin excludeNull numericDurations value := by
  obtain ⟨fits, -⟩ := Bool.and_eq_true_iff.mp isMade
  cases mixin with
  | str =>
    cases value <;> cases fits
    exact .inl ⟨_, rfl, rfl⟩
  | _ => exact .inr rfl

theorem isMade_withoutName (isMade : value.isMade = true) : value.withoutName.isMade = true := by
  cases value with
  | member owner mixin name value => exact (Bool.and_eq_true_iff.mp isMade).2
  | _ => rfl

/-- What a member is written as is equal to what is listed for it exactly when its value is written
as listed. -/
theorem alike_enumeratedValue (isMade : value.isMade = true)
    (written : catalog.payloadWithin excludeNull numericDurations value = .ok payload) :
    (catalog.table.enumeratedValue value).alike Assertion.listedLikeness payload
      = value.withoutName.isWrittenAsListed catalog.table numericDurations := by
  rw [ClassTable.enumeratedValue_eq]
  cases value with
  | member owner mixin name value =>
    rcases payload_member isMade with ⟨text, rfl, rfl⟩ | same
    · cases written
      exact (Value.str_alike rfl).trans (beq_self_eq_true _)
    · exact alike_listedForm (isMade_withoutName isMade) (same.symm.trans written)
  | _ => exact alike_listedForm rfl written

end Catalog

end ModelSchema
