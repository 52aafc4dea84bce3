import Mathlib
import ModelSchema.Naming

/-!
Default discriminator values.

The default value of a class is its name in snake case, without the name of the base behind it. Snake case
loses nothing of a name of ASCII letters and digits that starts with a capital: an underscore stands in front
of every other capital and nowhere else, so that the name can be read back. So only the suffix is lost.

* `readName_snakeCase`: a name is read back from its snake case.
* `dropSuffix_cases`: a name keeps all of it, or all but the suffix.
* `eq_or_append_of_subtypeName_eq`: two classes with the same default value have the same name, or the name
  of one is that of the other with that of the base behind it.
-/

namespace ModelSchema

/-! ### Simple names -/

/-- Whether a name is a capital and then letters and digits, all of ASCII. -/
def IsSimpleName : List Char → Prop
  | [] => False
  | c :: rest => c.isUpper = true ∧ ∀ d ∈ rest, d.isAlphanum = true

/-- What a simple name begins with is a simple name, unless it is empty. -/
theorem IsSimpleName.of_append {front behind : List Char} (isSimple : IsSimpleName (front ++ behind))
    (notEmpty : front ≠ []) : IsSimpleName front := by
  cases front with
  | nil => exact absurd rfl notEmpty
  | cons c rest => exact ⟨isSimple.1, fun d member => isSimple.2 d (List.mem_append_left _ member)⟩

theorem isAlphanum_of_isUpper {c : Char} (isCapital : c.isUpper = true) : c.isAlphanum = true := by
  rw [Char.isAlphanum, Char.isAlpha, isCapital]
  rfl

theorem toUpper_of_isUpper {c : Char} (isCapital : c.isUpper = true) : c.toUpper = c :=
  Char.toUpper_eq_of_not_isLower (Char.not_isLower_of_isUpper isCapital)

/-! ### Lower case of ASCII -/

/-- Ranges that begin behind a code do not shift it. -/
theorem shiftBy_append {ranges others : List (Nat × Nat × Nat × Int)} {code : Nat}
    (behind : ∀ range ∈ others, code < range.1) :
    shiftBy (ranges ++ others) code = shiftBy ranges code := by
  unfold shiftBy
  rw [List.find?_append, (List.find?_eq_none (l := others)).mpr, Option.or_none]
  intro range member
  simp [Nat.not_le_of_lt (behind range member)]

/-- Of the ranges with other lower-case forms, the first one is that of the capitals of ASCII. -/
theorem lowerChar_ascii {c : Char} (isAscii : c.toNat < 128) : lowerChar c = [c.toLower] := by
  have capitals : lowerShifts = [(65, 90, 1, 32)] ++ lowerShifts.tail := rfl
  have others : ∀ range ∈ lowerShifts.tail, 128 ≤ range.1 := by decide +kernel
  have each : ∀ n < 128, Char.ofNat (shiftBy [(65, 90, 1, 32)] n) = (Char.ofNat n).toLower := by
    decide +kernel
  have notDotted : c.toNat ≠ 0x130 := Nat.ne_of_lt (Nat.lt_trans isAscii (by decide))
  rw [lowerChar, if_neg notDotted, capitals,
    shiftBy_append fun range member => Nat.lt_of_lt_of_le isAscii (others range member),
    each _ isAscii, Char.ofNat_toNat]

/-- Lower case changes the characters of an ASCII text one by one. -/
theorem lowerFrom_ascii {text before : List Char} (ascii : ∀ c ∈ text, c.toNat < 128) :
    lowerFrom before text = text.map Char.toLower := by
  induction text generalizing before with
  | nil => rfl
  | cons c rest ih =>
    have here := ascii c List.mem_cons_self
    have notSigma : c ≠ capitalSigma := by
      rintro rfl
      exact absurd here (by decide)
    rw [lowerFrom, if_neg notSigma, lowerChar_ascii here,
      ih fun d member => ascii d (List.mem_cons_of_mem _ member), List.map_cons]
    rfl

/-! ### Snake case -/

/-- A name in snake case. -/
def snakeCase (name : List Char) : List Char := lowerFrom [] (breakAtCapitals name)

/-- Reads what follows the first character of a snake-case text: an underscore makes a capital. -/
def readTail : List Char → List Char
  | '_' :: c :: rest => c.toUpper :: readTail rest
  | c :: rest => c :: readTail rest
  | [] => []

/-- Reads a name from its snake case. -/
def readName : List Char → List Char
  | [] => []
  | c :: rest => c.toUpper :: readTail rest

theorem isAscii_breakAtCapitals {name : List Char} (plain : ∀ c ∈ name, c.isAlphanum = true) :
    ∀ c ∈ breakAtCapitals name, c.toNat < 128 := by
  cases name with
  | nil => exact fun _ member => absurd member List.not_mem_nil
  | cons first rest =>
    intro c member
    rcases List.mem_cons.mp member with rfl | inTail
    · exact isAscii_of_isAlphanum (plain c List.mem_cons_self)
    · obtain ⟨d, inRest, written⟩ := List.mem_flatMap.mp inTail
      have here := isAscii_of_isAlphanum (plain d (List.mem_cons_of_mem _ inRest))
      split at written
      · rcases List.mem_cons.mp written with rfl | same
        · decide
        · rwa [List.mem_singleton.mp same]
      · rwa [List.mem_singleton.mp written]

/-- A letter or digit that is no capital is read as it is. -/
theorem readTail_plain {c : Char} (plain : c.isAlphanum = true) (rest : List Char) :
    readTail (c :: rest) = c :: readTail rest := by
  have notUnderscore : c ≠ '_' := by
    rintro rfl
    exact absurd plain (by decide)
  rw [readTail]
  exact fun _ _ same _ => notUnderscore same

theorem readTail_lower {rest : List Char} (plain : ∀ c ∈ rest, c.isAlphanum = true) :
    readTail ((rest.flatMap fun d => if d.isUpper then ['_', d] else [d]).map Char.toLower) = rest := by
  induction rest with
  | nil => rfl
  | cons c rest ih =>
    have behind := ih fun d member => plain d (List.mem_cons_of_mem _ member)
    have underscore : '_'.toLower = '_' := by decide
    rw [List.flatMap_cons, List.map_append]
    by_cases isCapital : c.isUpper = true
    · rw [if_pos isCapital]
      simp only [List.map_cons, List.map_nil, List.cons_append, List.nil_append]
      rw [underscore, readTail, behind, Char.toUpper_toLower_eq_toUpper, toUpper_of_isUpper isCapital]
    · rw [if_neg isCapital]
      simp only [List.map_cons, List.map_nil, List.cons_append, List.nil_append]
      rw [Char.toLower_eq_of_not_isUpper isCapital, readTail_plain (plain c List.mem_cons_self), behind]

/-- A simple name is read back from its snake case. -/
theorem readName_snakeCase {name : List Char} (isSimple : IsSimpleName name) :
    readName (snakeCase name) = name := by
  cases name with
  | nil => exact isSimple.elim
  | cons c rest =>
    obtain ⟨isCapital, plain⟩ := isSimple
    have all : ∀ d ∈ c :: rest, d.isAlphanum = true :=
      List.forall_mem_cons.mpr ⟨isAlphanum_of_isUpper isCapital, plain⟩
    rw [snakeCase, lowerFrom_ascii (isAscii_breakAtCapitals all), breakAtCapitals, List.map_cons, readName,
      readTail_lower plain, Char.toUpper_toLower_eq_toUpper, toUpper_of_isUpper isCapital]

example : readName (snakeCase "HTTPServer2Page".toList) = "HTTPServer2Page".toList := by decide +kernel

/-- Simple names with the same snake case are the same. -/
theorem snakeCase_injective {name other : List Char} (isSimple : IsSimpleName name)
    (isSimpleToo : IsSimpleName other) (same : snakeCase name = snakeCase other) : name = other := by
  rw [← readName_snakeCase isSimple, same, readName_snakeCase isSimpleToo]

/-! ### The suffix -/

/-- A name stays as it is, or loses the suffix and keeps something in front of it. -/
theorem dropSuffix_cases (name : List Char) {suffix : List Char} (notEmpty : suffix ≠ []) :
    dropSuffix name suffix = name
      ∨ (dropSuffix name suffix ≠ [] ∧ name = dropSuffix name suffix ++ suffix) := by
  unfold dropSuffix
  split
  next drops =>
    obtain ⟨differs, isSuffix⟩ := drops
    obtain ⟨front, rfl⟩ := List.isSuffixOf_iff_suffix.mp isSuffix
    have kept : (front ++ suffix).take ((front ++ suffix).length - suffix.length) = front := by
      rw [List.length_append, Nat.add_sub_cancel, List.take_left]
    rw [if_neg (by rwa [List.isEmpty_iff]), kept]
    refine .inr ⟨?_, rfl⟩
    rintro rfl
    exact differs rfl
  next => exact .inl rfl

theorem IsSimpleName.dropSuffix {name suffix : List Char} (isSimple : IsSimpleName name)
    (notEmpty : suffix ≠ []) : IsSimpleName (dropSuffix name suffix) := by
  rcases dropSuffix_cases name notEmpty with same | ⟨kept, whole⟩
  · rwa [same]
  · rw [whole] at isSimple
    exact isSimple.of_append kept

/-! ### Main result -/

/-- Two classes with simple names that have the same default value relative to a base have the same name,
or the name of one is that of the other with that of the base behind it. -/
theorem eq_or_append_of_subtypeName_eq {x y base : String} (isSimple : IsSimpleName x.toList)
    (isSimpleToo : IsSimpleName y.toList) (named : base ≠ "")
    (same : subtypeName x base = subtypeName y base) : x = y ∨ x = y ++ base ∨ y = x ++ base := by
  have notEmpty : base.toList ≠ [] := fun isNil => named (String.toList_eq_nil_iff.mp isNil)
  have kept : dropSuffix x.toList base.toList = dropSuffix y.toList base.toList := by
    refine snakeCase_injective (isSimple.dropSuffix notEmpty) (isSimpleToo.dropSuffix notEmpty) ?_
    have same := String.ofList_inj.mp same
    rwa [String.toList_ofList, String.toList_ofList] at same
  simp only [← String.toList_inj, String.toList_append]
  rcases dropSuffix_cases x.toList notEmpty with whole | ⟨-, whole⟩ <;>
    rcases dropSuffix_cases y.toList notEmpty with wholeToo | ⟨-, wholeToo⟩
  · exact .inl (by rw [← whole, kept, wholeToo])
  · exact .inr (.inr (by rw [wholeToo, ← kept, whole]))
  · exact .inr (.inl (by rw [whole, kept, wholeToo]))
  · exact .inl (by rw [whole, kept, ← wholeToo])

theorem eq_or_append_of_subtypeName_eq_shape :
    subtypeName "CircleShape" "Shape" = subtypeName "Circle" "Shape"
      ∧ ("CircleShape" = "Circle" ∨ "CircleShape" = "Circle" ++ "Shape"
        ∨ "Circle" = "CircleShape" ++ "Shape") := by
  have isSimple : IsSimpleName "CircleShape".toList := by simp [IsSimpleName]
  have isSimpleToo : IsSimpleName "Circle".toList := by simp [IsSimpleName]
  have same : subtypeName "CircleShape" "Shape" = subtypeName "Circle" "Shape" := by decide +kernel
  exact ⟨same, eq_or_append_of_subtypeName_eq isSimple isSimpleToo (by decide) same⟩

end ModelSchema
