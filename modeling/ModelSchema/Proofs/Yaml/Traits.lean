import ModelSchema.Proofs.Yaml.Cursor

/-!
What the traits of a text say about its characters.

* `Everywhere`: a condition on every character of a text and on those next to it.
* `everywhere_of_scanFrom`: a scan that has not met something anywhere.
* `PlainText`, `InlineText`, `SingleText`: what is known of texts that are written plain, as a key, or
  in single quotes.
-/

namespace ModelSchema

/-- Whether a condition holds of every character of a text, with those before and behind it. -/
def Everywhere (holds : Option Char → Char → Option Char → Prop) (text : List Char) : Prop :=
  ∀ front c rest, text = front ++ c :: rest → holds front.getLast? c rest.head?

variable {text : List Char}

/-- What a scan notes of each character on its own is false when it is false at every one. -/
theorem everywhere_of_scanFrom (trait : ScalarScan → Bool)
    (meets : Option Char → Char → Option Char → Bool)
    (each : ∀ scan before c after,
      trait (scan.step before c after) = (trait scan || meets before c after))
    (none : trait (ScalarScan.start.scanFrom none text) = false) :
    Everywhere (fun before c after => meets before c after = false) text := by
  -- The characters in front are part of the scan already.
  have later : ∀ (text front : List Char) (scan : ScalarScan),
      trait (scan.scanFrom front.getLast? text) = false → trait scan = false
        ∧ ∀ more c rest, text = more ++ c :: rest →
          meets (front ++ more).getLast? c rest.head? = false := by
    intro text
    induction text with
    | nil =>
      intro front scan scanned
      refine ⟨scanned, fun more c rest split => ?_⟩
      cases more <;> cases split
    | cons d text ih =>
      intro front scan scanned
      obtain ⟨here, there⟩ := ih (front ++ [d]) _ (by simpa [ScalarScan.scanFrom] using scanned)
      rw [each, Bool.or_eq_false_iff] at here
      refine ⟨here.1, fun more c rest split => ?_⟩
      cases more with
      | nil =>
        obtain ⟨rfl, rfl⟩ := List.cons.inj split
        simpa using here.2
      | cons e more =>
        obtain ⟨rfl, rfl⟩ := List.cons.inj split
        simpa using there more c rest rfl
  exact fun front c rest split => by simpa using (later text [] _ none).2 front c rest split

theorem writable_of_scan (none : (ScalarScan.start.scanFrom none text).special = false) :
    ∀ c ∈ text, isWritable c = true := by
  intro c member
  obtain ⟨front, rest, split⟩ := List.append_of_mem member
  simpa using everywhere_of_scanFrom (·.special) (fun _ c _ => !isWritable c)
    (fun _ _ _ _ => rfl) none front c rest split

theorem noBreak_of_scan (none : (ScalarScan.start.scanFrom none text).lineBreak = false) :
    ∀ c ∈ text, isLineBreak c = false := by
  intro c member
  obtain ⟨front, rest, split⟩ := List.append_of_mem member
  exact everywhere_of_scanFrom (·.lineBreak) (fun _ c _ => isLineBreak c)
    (fun _ _ _ _ => rfl) none front c rest split

/-! ### Separators -/

/-- The only separator that can be written and breaks no line is the space. -/
theorem eq_space_of_isSeparator {c : Char} (writable : isWritable c = true)
    (noBreak : isLineBreak c = false) (separator : isSeparator c = true) : c = ' ' := by
  unfold isSeparator at separator
  rw [noBreak] at separator
  simp only [Bool.or_false, Bool.or_eq_true, decide_eq_true_eq] at separator
  rcases separator with ((rfl | rfl) | rfl) | rfl
  · cases writable
  · rfl
  · cases writable
  · cases writable

namespace ScalarScan

theorem colon_of_not_isIndicator {before after : Option Char}
    (no : isIndicator before ':' after = false) : after.all isSeparator = false := by
  unfold isIndicator at no
  cases before with
  | none => simpa using (Bool.or_eq_false_iff.mp no).2
  | some b => simpa using (Bool.or_eq_false_iff.mp no).1

theorem first_of_not_isIndicator {c : Char} {after : Option Char}
    (no : isIndicator none c after = false) : leadingIndicators.contains c = false
      ∧ (c = '?' ∨ c = ':' ∨ c = '-' → after.all isSeparator = false) := by
  unfold isIndicator at no
  obtain ⟨noIndicator, special⟩ := Bool.or_eq_false_iff.mp no
  refine ⟨noIndicator, fun mark => ?_⟩
  rcases mark with rfl | rfl | rfl <;> simpa using special

end ScalarScan

/-! ### Texts that are written on a line -/

/-- A character that can be written and breaks no line takes a column. -/
theorem isInline_of_isWritable {c : Char} (writable : isWritable c = true)
    (noBreak : isLineBreak c = false) : YamlCursor.isInline c = true := by
  have noMark : c ≠ Char.ofNat 0xfeff := by
    rintro rfl
    cases writable
  simp [YamlCursor.isInline, noBreak, noMark]

/-- What is known of a text in which every character takes a column and can be written. -/
structure InlineText (text : List Char) : Prop where
  writable : ∀ c ∈ text, isWritable c = true
  noBreak : ∀ c ∈ text, isLineBreak c = false

/-- What is known of a text that is written plain. -/
structure PlainText (text : List Char) : Prop where
  inline : InlineText text
  colon : ∀ front rest, text = front ++ ':' :: rest → rest.head?.all isSeparator = false
  hash : ∀ front rest, text ≠ front ++ ' ' :: '#' :: rest

theorem PlainText.suffix {front : List Char} (plain : PlainText (front ++ text)) :
    PlainText text where
  inline := ⟨fun c member => plain.inline.writable c (List.mem_append_right _ member),
    fun c member => plain.inline.noBreak c (List.mem_append_right _ member)⟩
  colon more rest split := plain.colon (front ++ more) rest (by simp [split])
  hash more rest split := plain.hash (front ++ more) rest (by simp [split])

/-- The beginning and the end of a text that is written plain. -/
structure PlainEnds (text : List Char) : Prop where
  mark : ScalarTraits.isDocumentMark text = false
  first : ∀ c rest, text = c :: rest → leadingIndicators.contains c = false ∧ c ≠ ' '
    ∧ (c = '?' ∨ c = ':' ∨ c = '-' → rest.head?.all isSeparator = false)
  last : ∀ front, text ≠ front ++ [' ']

/-- What is known of a text that is written in single quotes: no space stands next to a line break.
-/
structure SingleText (text : List Char) : Prop where
  writable : ∀ c ∈ text, isWritable c = true
  spaceBreak : ∀ front c rest, text = front ++ ' ' :: c :: rest → isLineBreak c = false
  breakSpace : ∀ front c rest, text = front ++ c :: ' ' :: rest → isLineBreak c = false

theorem SingleText.suffix {front : List Char} (single : SingleText (front ++ text)) :
    SingleText text where
  writable c member := single.writable c (List.mem_append_right _ member)
  spaceBreak more c rest split := single.spaceBreak (front ++ more) c rest (by simp [split])
  breakSpace more c rest split := single.breakSpace (front ++ more) c rest (by simp [split])

theorem SingleText.tail {c : Char} (single : SingleText (c :: text)) : SingleText text :=
  @SingleText.suffix text [c] single

theorem SingleText.noSpace_behindBreak {c : Char} (single : SingleText (c :: text))
    (isBreak : isLineBreak c = true) : text.head? ≠ some ' ' := by
  intro same
  obtain ⟨rest, rfl⟩ := List.head?_eq_some_iff.mp same
  have noBreak := single.breakSpace [] c rest rfl
  simp [isBreak] at noBreak

namespace ScalarTraits

theorem plain_of_blockPlain (something : text ≠ []) (plain : (of text).blockPlain = true) :
    PlainText text ∧ PlainEnds text := by
  have something : text.isEmpty = false := by simpa using something
  simp only [of, something, Bool.false_eq_true, if_false, Bool.not_eq_true', Bool.or_eq_false_iff]
    at plain
  obtain ⟨⟨⟨⟨⟨⟨⟨mark, indicator⟩, lineBreak⟩, leading⟩, trailing⟩, -⟩, -⟩, special⟩ := plain
  have indicator := everywhere_of_scanFrom (·.indicator) ScalarScan.isIndicator
    (fun _ _ _ _ => rfl) indicator
  have leading := everywhere_of_scanFrom (·.leadingGap)
    (fun before c _ => before.isNone && (c = ' ' || isLineBreak c)) (fun _ _ _ _ => rfl) leading
  have trailing := everywhere_of_scanFrom (·.trailingGap)
    (fun _ c after => after.isNone && (c = ' ' || isLineBreak c)) (fun _ _ _ _ => rfl) trailing
  have colon : ∀ front rest, text = front ++ ':' :: rest → rest.head?.all isSeparator = false := by
    intro front rest split
    exact ScalarScan.colon_of_not_isIndicator (indicator front ':' rest split)
  refine ⟨⟨⟨writable_of_scan special, noBreak_of_scan lineBreak⟩, colon, ?_⟩, mark, ?_, ?_⟩
  · intro front rest split
    have here := indicator (front ++ [' ']) '#' rest (by simp [split])
    simp [ScalarScan.isIndicator, isSeparator] at here
  · intro c rest split
    obtain ⟨noIndicator, special⟩ :=
      ScalarScan.first_of_not_isIndicator (indicator [] c rest split)
    refine ⟨noIndicator, ?_, special⟩
    rintro rfl
    cases leading [] ' ' rest split
  · intro front split
    have here := trailing front ' ' [] split
    simp at here

/-- A text without line breaks. -/
theorem noBreak_of_multiline (single : (of text).multiline = false) :
    ∀ c ∈ text, isLineBreak c = false := by
  by_cases nothing : text = []
  · simp [nothing]
  · have something : text.isEmpty = false := by simpa using nothing
    simp only [of, something, Bool.false_eq_true, if_false] at single
    exact noBreak_of_scan single

theorem single_of_singleQuoted (single : (of text).singleQuoted = true) : SingleText text := by
  by_cases nothing : text = []
  · subst nothing
    exact ⟨by simp, by simp, by simp⟩
  · have something : text.isEmpty = false := by simpa using nothing
    simp only [of, something, Bool.false_eq_true, if_false, Bool.not_eq_true',
      Bool.or_eq_false_iff] at single
    obtain ⟨⟨breakSpace, spaceBreak⟩, special⟩ := single
    refine ⟨writable_of_scan special, fun front c rest split => ?_, fun front c rest split => ?_⟩
    · have here := everywhere_of_scanFrom (·.spaceBreak)
        (fun before c _ => isLineBreak c && before = some ' ') (fun _ _ _ _ => rfl) spaceBreak
        (front ++ [' ']) c rest (by simp [split])
      simpa using here
    · have here := everywhere_of_scanFrom (·.breakSpace)
        (fun before c _ => c = ' ' && before.any isLineBreak) (fun _ _ _ _ => rfl) breakSpace
        (front ++ [c]) ' ' rest (by simp [split])
      simpa using here

end ScalarTraits

end ModelSchema
