import ModelSchema.Proofs.Yaml.Scalars
import ModelSchema.Yaml.Printer
import ModelSchema.Yaml.Scalar

/-!
Integers are read back from their digits.

* `IsNumeral`: the digits of natural numbers.
* `ofPlain_numeral`, `choose_toString`: the text of an integer is one, and is written plain.
* `integer_toString`: its value is the integer, unless it has too many digits.
-/

namespace ModelSchema

/-! ### Digits -/

theorem exists_digitChar {c : Char} (isDigit : c.isDigit = true) : ∃ n < 10, c = Nat.digitChar n := by
  simp only [Char.isDigit, ge_iff_le, Bool.and_eq_true, decide_eq_true_eq, UInt32.le_iff_toNat_le]
    at isDigit
  have low : 48 ≤ c.toNat := isDigit.1
  have high : c.toNat ≤ 57 := isDigit.2
  have digits : ∀ n < 10, Char.ofNat (48 + n) = Nat.digitChar n := by decide
  refine ⟨c.toNat - 48, by omega, ?_⟩
  rw [← digits _ (by omega), Nat.add_sub_cancel' low, Char.ofNat_toNat]

/-- Decimal digits without a zero in front, unless they are nothing else. -/
inductive IsNumeral : List Char → Prop where
  | zero : IsNumeral ['0']
  | positive {c : Char} {rest : List Char} : c.isDigit = true → c ≠ '0' →
      (∀ d ∈ rest, d.isDigit = true) → IsNumeral (c :: rest)

theorem isNumeral_toDigits (n : Nat) : IsNumeral (Nat.toDigits 10 n) := by
  have digit : ∀ n < 10, (Nat.digitChar n).isDigit = true := by decide
  have nonzero : ∀ n < 10, 0 < n → Nat.digitChar n ≠ '0' := by decide
  have positive : ∀ n, 0 < n → ∃ c rest, Nat.toDigits 10 n = c :: rest ∧ c.isDigit = true
      ∧ c ≠ '0' ∧ ∀ d ∈ rest, d.isDigit = true := by
    intro n
    induction n using Nat.strongRecOn with
    | ind n ih =>
      intro some
      rw [Nat.toDigits_eq_if (by omega)]
      split
      next small => exact ⟨_, [], rfl, digit n small, nonzero n small some, by simp⟩
      next large =>
        obtain ⟨c, rest, split, isDigit, notZero, others⟩ := ih (n / 10) (by omega) (by omega)
        refine ⟨c, rest ++ [Nat.digitChar (n % 10)], by rw [split, List.cons_append], isDigit, notZero, ?_⟩
        intro d member
        rcases List.mem_append.mp member with front | back
        · exact others d front
        · exact List.mem_singleton.mp back ▸ digit (n % 10) (by omega)
  rcases Nat.eq_zero_or_pos n with rfl | some
  · exact .zero
  · obtain ⟨c, rest, split, isDigit, notZero, others⟩ := positive n some
    exact split ▸ .positive isDigit notZero others

namespace IsNumeral

variable {digits : List Char} (isNumeral : IsNumeral digits)
include isNumeral

theorem isDigit : ∀ c ∈ digits, c.isDigit = true := by
  cases isNumeral with
  | zero => simp
  | positive first _ others => exact List.forall_mem_cons.mpr ⟨first, others⟩

theorem exists_cons : ∃ c rest, digits = c :: rest ∧ c.isDigit = true := by
  cases isNumeral with
  | zero => exact ⟨'0', [], rfl, rfl⟩
  | positive first => exact ⟨_, _, rfl, first⟩

theorem ne_of_not_isDigit {c : Char} (other : c.isDigit = false) : c ∉ digits := by
  intro member
  rw [isNumeral.isDigit c member] at other
  cases other

end IsNumeral

/-- The text of an integer: its digits behind its sign. -/
theorem toList_toString (n : Int) : ∃ sign, (sign = [] ∧ 0 ≤ n ∨ sign = ['-'] ∧ n < 0)
    ∧ (toString n).toList = sign ++ Nat.toDigits 10 n.natAbs := by
  have natural : ∀ n : Nat, (toString n).toList = Nat.toDigits 10 n := fun n => by
    rw [Nat.toString_eq_ofList_toDigits, String.toList_ofList]
  cases n with
  | ofNat n => exact ⟨[], .inl ⟨rfl, Int.natCast_nonneg n⟩, natural n⟩
  | negSucc n =>
    refine ⟨['-'], .inr ⟨rfl, Int.negSucc_lt_zero n⟩, ?_⟩
    have split : (toString (Int.negSucc n)).toList = ("-" ++ toString (n + 1)).toList := rfl
    rw [split, String.toList_append, natural]
    rfl

/-! ### Kinds -/

theorem parts_of_not_mem {separator : Char} {text : List Char} (absent : separator ∉ text) :
    PlainScalar.parts separator text = [text] := by
  induction text with
  | nil => rfl
  | cons c text ih =>
    rw [List.mem_cons, not_or] at absent
    rw [PlainScalar.parts, if_neg (Ne.symm absent.1), ih absent.2]

theorem IsNumeral.isUnsignedInteger {digits : List Char} (isNumeral : IsNumeral digits) :
    PlainScalar.isUnsignedInteger digits = true := by
  have noColon := isNumeral.ne_of_not_isDigit (c := ':') rfl
  cases isNumeral with
  | zero => rfl
  | @positive c rest isDigit notZero others =>
    have nonzero : ('1' ≤ c && c ≤ '9') = true := by
      have digits : ∀ n < 10, Nat.digitChar n ≠ '0' →
          ('1' ≤ Nat.digitChar n && Nat.digitChar n ≤ '9') = true := by decide
      obtain ⟨n, small, rfl⟩ := exists_digitChar isDigit
      exact digits n small notZero
    have digits : rest.all PlainScalar.isDigitOrUnderscore = true :=
      List.all_eq_true.mpr fun d member => by simp [PlainScalar.isDigitOrUnderscore, others d member]
    unfold PlainScalar.isUnsignedInteger
    split
    case h_5 => simp [parts_of_not_mem noColon, PlainScalar.isNonzeroDigits, nonzero, digits]
    all_goals
      next same => exact absurd (List.cons.inj same).1 notZero

section

variable {sign digits : List Char} (isSign : sign = [] ∨ sign = ['-']) (isNumeral : IsNumeral digits)
include isSign isNumeral

/-- The first character of an integer is its sign or a digit. -/
theorem exists_cons_numeral : ∃ c rest, sign ++ digits = c :: rest ∧ (c = '-' ∨ c.isDigit = true) := by
  obtain ⟨c, rest, rfl, isDigit⟩ := isNumeral.exists_cons
  rcases isSign with rfl | rfl
  · exact ⟨c, rest, rfl, .inr isDigit⟩
  · exact ⟨'-', c :: rest, rfl, .inl rfl⟩

theorem not_mem_numeral {c : Char} (noSign : c ≠ '-') (noDigit : c.isDigit = false) :
    c ∉ sign ++ digits := by
  have inDigits := isNumeral.ne_of_not_isDigit noDigit
  rcases isSign with rfl | rfl
  · exact inDigits
  · simp [noSign, inDigits]

theorem unsigned_numeral : PlainScalar.unsigned (sign ++ digits) = digits := by
  obtain ⟨c, rest, rfl, isDigit⟩ := isNumeral.exists_cons
  rcases isSign with rfl | rfl
  · have notMinus : c ≠ '-' := by rintro rfl; cases isDigit
    have notPlus : c ≠ '+' := by rintro rfl; cases isDigit
    unfold PlainScalar.unsigned
    split <;> simp_all
  · rfl

/-- The text of an integer is no float. -/
theorem isFloat_numeral : PlainScalar.isFloat (sign ++ digits) = false := by
  have noPoint : '.' ∉ sign ++ digits := not_mem_numeral isSign isNumeral (by decide) rfl
  have noPoint' : '.' ∉ digits := isNumeral.ne_of_not_isDigit rfl
  have words : ∀ word ∈ PlainScalar.infinityWords ++ PlainScalar.nanWords, '.' ∈ word.toList := by decide
  have pointed : PlainScalar.isPointed digits = false := by
    have none : digits.dropWhile (· != '.') = [] := by
      rw [List.dropWhile_eq_nil_iff]
      intro c member
      have notPoint : c ≠ '.' := ne_of_mem_of_not_mem member noPoint'
      simpa using notPoint
    rw [PlainScalar.isPointed, none]
  have fraction : PlainScalar.isFraction (sign ++ digits) = false := by
    unfold PlainScalar.isFraction
    split
    next split => simp [split] at noPoint
    next => rfl
  have infinite : PlainScalar.infinityWords.contains (String.ofList digits) = false := by
    rw [Bool.eq_false_iff]
    intro member
    have inside := words _ (List.mem_append_left _ (List.contains_iff_mem.mp member))
    exact noPoint' (by simpa using inside)
  have nan : PlainScalar.nanWords.contains (String.ofList (sign ++ digits)) = false := by
    rw [Bool.eq_false_iff]
    intro member
    have inside := words _ (List.mem_append_right _ (List.contains_iff_mem.mp member))
    exact noPoint (by rwa [String.toList_ofList] at inside)
  rw [PlainScalar.isFloat, unsigned_numeral isSign isNumeral, pointed, fraction, infinite, nan]
  rfl

/-- The text of an integer is the text of an integer. -/
theorem ofPlain_numeral : YamlTag.ofPlain (String.ofList (sign ++ digits)) = .int := by
  have words : ∀ word ∈ PlainScalar.trueWords ++ PlainScalar.falseWords,
      word.toList.head?.all (fun c => c = '-' || c.isDigit) = false := by decide
  obtain ⟨c, rest, split, first⟩ := exists_cons_numeral isSign isNumeral
  have noBreak : '\n' ∉ sign ++ digits := not_mem_numeral isSign isNumeral (by decide) rfl
  have noWord : ∀ word ∈ PlainScalar.trueWords ++ PlainScalar.falseWords,
      word ≠ String.ofList (sign ++ digits) := by
    rintro word member rfl
    have other := words _ member
    rw [String.toList_ofList, split] at other
    rcases first with rfl | isDigit
    · cases other
    · simp [isDigit] at other
  have noWords : ∀ words ⊆ PlainScalar.trueWords ++ PlainScalar.falseWords,
      words.contains (String.ofList (sign ++ digits)) = false := by
    intro words inside
    rw [Bool.eq_false_iff]
    exact fun member => noWord _ (inside (List.contains_iff_mem.mp member)) rfl
  have noLine : String.ofList (sign ++ digits) ≠ "\n" := by
    intro same
    have same : sign ++ digits = ['\n'] := by simpa using congrArg String.toList same
    simp [same] at noBreak
  have whole : YamlMoment.withoutLineBreak (sign ++ digits) = sign ++ digits := by
    refine if_neg fun last => noBreak ?_
    exact List.mem_of_getLast? last
  unfold YamlTag.ofPlain
  simp only [if_neg noLine, String.toList_ofList, whole, noWords _ (List.subset_append_left _ _),
    noWords _ (List.subset_append_right _ _), isFloat_numeral isSign isNumeral,
    PlainScalar.isIntegerText, unsigned_numeral isSign isNumeral, isNumeral.isUnsignedInteger,
    Bool.or_self, Bool.false_eq_true, if_false, if_true]

end

/-! ### Style -/

/-- A digit means nothing special, wherever it stands. -/
theorem step_of_isDigit {c : Char} (isDigit : c.isDigit = true) (scan : ScalarScan)
    (before after : Option Char) : scan.step before c after = scan := by
  obtain ⟨n, small, rfl⟩ := exists_digitChar isDigit
  have quiet : ∀ n < 10, Nat.digitChar n ∉ leadingIndicators
      ∧ isLineBreak (Nat.digitChar n) = false ∧ isWritable (Nat.digitChar n) = true := by decide
  have other : ∀ n < 10, Nat.digitChar n ≠ '?' ∧ Nat.digitChar n ≠ ':' ∧ Nat.digitChar n ≠ '-'
      ∧ Nat.digitChar n ≠ '#' ∧ Nat.digitChar n ≠ ' ' := by decide
  obtain ⟨noIndicator, noBreak, writable⟩ := quiet n small
  obtain ⟨noQuestion, noColon, noDash, noHash, noSpace⟩ := other n small
  have silent : ScalarScan.isIndicator before (Nat.digitChar n) after = false := by
    cases before <;> simp [ScalarScan.isIndicator, noIndicator, noQuestion, noColon, noDash, noHash]
  simp [ScalarScan.step, silent, noBreak, writable, noSpace]

theorem scanFrom_of_isDigit {digits : List Char} (areDigits : ∀ c ∈ digits, c.isDigit = true)
    (scan : ScalarScan) (before : Option Char) : scan.scanFrom before digits = scan := by
  induction digits generalizing before with
  | nil => rfl
  | cons c digits ih =>
    rw [ScalarScan.scanFrom, step_of_isDigit (areDigits c List.mem_cons_self)]
    exact ih (fun d member => areDigits d (List.mem_cons_of_mem _ member)) _

section

variable {sign digits : List Char} (isSign : sign = [] ∨ sign = ['-']) (isNumeral : IsNumeral digits)
include isSign isNumeral

/-- The text of an integer is written plain. -/
theorem blockPlain_numeral : (ScalarTraits.of (sign ++ digits)).blockPlain = true := by
  have quiet : ScalarScan.start.scanFrom none (sign ++ digits) = .start := by
    rcases isSign with rfl | rfl
    · exact scanFrom_of_isDigit isNumeral.isDigit _ _
    · obtain ⟨c, rest, rfl, isDigit⟩ := isNumeral.exists_cons
      have first : ∀ n < 10, ScalarScan.start.step none '-' (some (Nat.digitChar n)) = .start := by
        decide
      obtain ⟨n, small, rfl⟩ := exists_digitChar isDigit
      rw [List.singleton_append, ScalarScan.scanFrom, List.head?_cons, first n small]
      exact scanFrom_of_isDigit isNumeral.isDigit _ _
  have noMark : ScalarTraits.isDocumentMark (sign ++ digits) = false := by
    have noDash : '-' ∉ digits := isNumeral.ne_of_not_isDigit rfl
    have noPoint : '.' ∉ sign ++ digits := not_mem_numeral isSign isNumeral (by decide) rfl
    unfold ScalarTraits.isDocumentMark
    split
    next split =>
      rcases isSign with rfl | rfl
      · rw [List.nil_append] at split
        simp [split] at noDash
      · have same : digits = '-' :: '-' :: _ := (List.cons.inj split).2
        simp [same] at noDash
    next split => simp [split] at noPoint
    next => rfl
  obtain ⟨c, rest, split, -⟩ := exists_cons_numeral isSign isNumeral
  have some : (sign ++ digits).isEmpty = false := by rw [split, List.isEmpty_cons]
  rw [ScalarTraits.of, some, quiet, noMark]
  rfl

theorem choose_numeral : ScalarStyle.choose .int (String.ofList (sign ++ digits)) false = .plain := by
  unfold ScalarStyle.choose
  dsimp only
  rw [String.toList_ofList, ofPlain_numeral isSign isNumeral, blockPlain_numeral isSign isNumeral]
  rfl

end

theorem choose_toString (n : Int) :
    toString n ≠ "" ∧ ScalarStyle.choose .int (toString n) false = .plain := by
  obtain ⟨sign, isSign, digits⟩ := toList_toString n
  have isSign := isSign.imp And.left And.left
  have isNumeral := isNumeral_toDigits n.natAbs
  have text : toString n = String.ofList (sign ++ Nat.toDigits 10 n.natAbs) := by
    rw [← digits, String.ofList_toList]
  rw [text]
  refine ⟨fun empty => ?_, choose_numeral isSign isNumeral⟩
  obtain ⟨c, rest, split, -⟩ := exists_cons_numeral isSign isNumeral
  simp [split] at empty

/-! ### Values -/

/-- Digits without underscores are their own group. -/
theorem groupedDigits?_of_isDigit {c : Char} {rest : List Char}
    (areDigits : ∀ d ∈ c :: rest, d.isDigit = true) :
    Numeral.groupedDigits? (Numeral.isDigitOf 10) (c :: rest) = some (c :: rest) := by
  have decimal : ∀ n < 10, Numeral.isDigitOf 10 (Nat.digitChar n) = true := by decide
  have each : ∀ d ∈ c :: rest, Numeral.isDigitOf 10 d = true := by
    intro d member
    obtain ⟨n, small, rfl⟩ := exists_digitChar (areDigits d member)
    exact decimal n small
  induction rest generalizing c with
  | nil => simp [Numeral.groupedDigits?, each c List.mem_cons_self]
  | cons d rest ih =>
    have noUnderscore : d ≠ '_' := by
      rintro rfl
      cases areDigits '_' (by simp)
    have later := ih (fun e member => areDigits e (List.mem_cons_of_mem _ member))
      (fun e member => each e (List.mem_cons_of_mem _ member))
    rw [Numeral.groupedDigits?]
    · simp [each c List.mem_cons_self, later]
    · simp
    · simpa using noUnderscore

/-- The digits of a number have its value. -/
theorem foldl_digits {digits : List Char} (areDigits : ∀ c ∈ digits, c.isDigit = true) (start : Nat) :
    digits.foldl (fun (n : Int) c => n * 10 + (hexDigit? c).getD 0) start
      = Nat.ofDigitChars 10 digits start := by
  induction digits generalizing start with
  | nil => rfl
  | cons c digits ih =>
    have value : hexDigit? c = some (c.toNat - '0'.toNat) :=
      if_pos (areDigits c List.mem_cons_self)
    have step : (start : Int) * 10 + ((some (c.toNat - '0'.toNat)).getD 0 : Nat)
        = ((10 * start + (c.toNat - '0'.toNat) : Nat) : Int) := by
      rw [Option.getD_some]
      omega
    rw [List.foldl_cons, value, step, Nat.ofDigitChars, List.foldl_cons]
    have later := ih (fun d member => areDigits d (List.mem_cons_of_mem _ member))
      (10 * start + (c.toNat - '0'.toNat))
    rw [Nat.ofDigitChars] at later
    exact later

/-- Blanks and signs are looked for in vain. -/
theorem plainChars_of_isDigit {digits : List Char} (areDigits : ∀ c ∈ digits, c.isDigit = true) :
    Numeral.plainChars (String.ofList digits) = digits := by
  have each : ∀ n < 10, Numeral.plainChar (Nat.digitChar n) = Nat.digitChar n
      ∧ Numeral.isPlainBlank (Nat.digitChar n) = false := by decide
  have known : ∀ c ∈ digits, Numeral.plainChar c = c ∧ Numeral.isPlainBlank c = false := by
    intro c member
    obtain ⟨n, small, rfl⟩ := exists_digitChar (areDigits c member)
    exact each n small
  have untrimmed : ∀ text : List Char, (∀ c ∈ text, Numeral.isPlainBlank c = false) →
      text.dropWhile Numeral.isPlainBlank = text := by
    intro text noBlank
    cases text with
    | nil => rfl
    | cons c text => simp [noBlank c List.mem_cons_self]
  have plain : digits.map Numeral.plainChar = digits :=
    (List.map_congr_left fun c member => (known c member).1).trans (List.map_id' digits)
  rw [Numeral.plainChars, String.toList_ofList, plain, Numeral.trimmed,
    untrimmed digits fun c member => (known c member).2,
    untrimmed digits.reverse fun c member => (known c (List.mem_reverse.mp member)).2,
    List.reverse_reverse]

theorem IsNumeral.splitSign {digits : List Char} (isNumeral : IsNumeral digits) :
    Numeral.splitSign digits = (false, digits) := by
  obtain ⟨c, rest, rfl, isDigit⟩ := isNumeral.exists_cons
  unfold Numeral.splitSign
  split
  next same => rw [(List.cons.inj same).1] at isDigit; cases isDigit
  next same => rw [(List.cons.inj same).1] at isDigit; cases isDigit
  next => rfl

/-- Decimal digits have no mark of their base. -/
theorem withoutBaseMark_ten (text : List Char) : Numeral.withoutBaseMark 10 text = text := by
  unfold Numeral.withoutBaseMark
  split
  · exact if_neg (by simp [Numeral.baseLetter?])
  · rfl

/-- Digits are read as a number, if there are not too many. -/
theorem IsNumeral.integer {digits : List Char} (isNumeral : IsNumeral digits)
    (short : digits.length ≤ Numeral.digitLimit) :
    Numeral.integer 10 (String.ofList digits) = .ok (Nat.ofDigitChars 10 digits 0) := by
  have areDigits := isNumeral.isDigit
  obtain ⟨c, rest, split, -⟩ := isNumeral.exists_cons
  have grouped : Numeral.groupedDigits? (Numeral.isDigitOf 10) digits = some digits := by
    rw [split] at areDigits ⊢
    exact groupedDigits?_of_isDigit areDigits
  have value := foldl_digits areDigits 0
  have notLong : ¬Numeral.digitLimit < digits.length := Nat.not_lt.mpr short
  rw [Numeral.integer, plainChars_of_isDigit areDigits, isNumeral.splitSign]
  simp only [withoutBaseMark_ten, grouped, notLong, decide_false, Bool.and_false, Bool.false_eq_true,
    if_false]
  exact congrArg Except.ok value

theorem IsNumeral.unsignedInteger {digits : List Char} (isNumeral : IsNumeral digits) {n : Int}
    (value : Numeral.integer 10 (String.ofList digits) = .ok n) :
    YamlScalar.unsignedInteger digits = .ok n := by
  have noColon := isNumeral.ne_of_not_isDigit (c := ':') rfl
  cases isNumeral with
  | zero =>
    have zero : Numeral.integer 10 (String.ofList ['0']) = .ok 0 := by rfl
    rw [zero] at value
    exact congrArg Except.ok (Except.ok.inj value)
  | @positive c rest isDigit notZero others =>
    unfold YamlScalar.unsignedInteger
    split
    case h_6 =>
      rw [parts_of_not_mem noColon, List.foldlM_cons, YamlScalar.numeral, value]
      exact congrArg Except.ok (by omega)
    case h_1 same => cases same
    all_goals
      next same => exact absurd (List.cons.inj same).1 notZero

theorem splitSign_numeral {sign digits : List Char} (isSign : sign = [] ∨ sign = ['-'])
    (isNumeral : IsNumeral digits) :
    YamlScalar.splitSign (sign ++ digits) = .ok (!sign.isEmpty, digits) := by
  rcases isSign with rfl | rfl
  · obtain ⟨c, rest, rfl, isDigit⟩ := isNumeral.exists_cons
    unfold YamlScalar.splitSign
    split
    next same => cases same
    next same => rw [(List.cons.inj same).1] at isDigit; cases isDigit
    next same => rw [(List.cons.inj same).1] at isDigit; cases isDigit
    next => rfl
  · rfl

/-- An integer is read back from its text, if it has not too many digits. -/
theorem integer_toString {n : Int} (short : n.natAbs < 10 ^ Numeral.digitLimit) :
    YamlScalar.integer (toString n) = .ok (.int n) := by
  obtain ⟨sign, isSign, text⟩ := toList_toString n
  have isNumeral := isNumeral_toDigits n.natAbs
  have value : YamlScalar.unsignedInteger (Nat.toDigits 10 n.natAbs) = .ok (n.natAbs : Int) := by
    refine isNumeral.unsignedInteger ?_
    rw [isNumeral.integer ((Nat.length_toDigits_le_iff (by omega) (by decide)).mpr short),
      Nat.ofDigitChars_toDigits (by omega) (by omega)]
  have noUnderscore : '_' ∉ sign ++ Nat.toDigits 10 n.natAbs :=
    not_mem_numeral (isSign.imp And.left And.left) isNumeral (by decide) rfl
  have whole : (sign ++ Nat.toDigits 10 n.natAbs).filter (· != '_')
      = sign ++ Nat.toDigits 10 n.natAbs := by
    refine List.filter_eq_self.mpr fun c member => ?_
    simpa using ne_of_mem_of_not_mem member noUnderscore
  have signed : (if (!sign.isEmpty) = true then -(n.natAbs : Int) else n.natAbs) = n := by
    rcases isSign with ⟨rfl, positive⟩ | ⟨rfl, negative⟩
    · exact Int.natAbs_of_nonneg positive
    · have flipped : -(n.natAbs : Int) = n := by omega
      exact flipped
  rw [YamlScalar.integer, text, whole, splitSign_numeral (isSign.imp And.left And.left) isNumeral]
  simp only [bind, Except.bind, value, pure, Except.pure, signed]

end ModelSchema
