import Mathlib
import ModelSchema.Proofs.Yaml.Quoted

/-!
Texts in double quotes are read back as they were written.

* `QuotedScalar.escape_escapeOf`: the escape of a character stands for it.
* `QuotedScalar.escapesBeforeSpace`: where a fold behind an escape meets a space.
* `QuotedScalar.content_double`: what stands between the quotes.
* `YamlCursor.quotedScalar_double`: a whole scalar.

A line that is folded behind an escape escapes the space that may follow. Where the indentation alone
fills the line, that space is folded once more, and its escape is read as a backslash; such texts are
left out.
-/

namespace ModelSchema

/-! ### Hexadecimal numbers -/

theorem hexDigit?_toUpper : ∀ d < 16, hexDigit? (Nat.digitChar d).toUpper = some d := by decide

/-- The digits of a number are digits with its value. -/
theorem upperDigits_spec (n : Nat) :
    (∀ c ∈ (Nat.toDigits 16 n).map Char.toUpper, (hexDigit? c).isSome = true)
      ∧ hexValue ((Nat.toDigits 16 n).map Char.toUpper) = n := by
  induction n using Nat.strongRecOn with
  | ind n ih =>
    rw [Nat.toDigits_eq_if (by omega)]
    split
    next small => simp [hexValue, hexDigit?_toUpper n small]
    next large =>
      obtain ⟨digits, value⟩ := ih (n / 16) (by omega)
      have last := hexDigit?_toUpper (n % 16) (by omega)
      rw [List.map_append]
      refine ⟨?_, ?_⟩
      · intro c member
        rcases List.mem_append.mp member with front | back
        · exact digits c front
        · obtain rfl : c = (Nat.digitChar (n % 16)).toUpper := by simpa using back
          simp [last]
      · rw [hexValue] at value
        rw [hexValue, List.foldl_append, value]
        simp only [List.map_cons, List.map_nil, List.foldl_cons, List.foldl_nil, last,
          Option.getD_some]
        omega

/-- A number that fits is written in as many digits as are asked for. -/
theorem hexUpper_spec {width n : Nat} (positive : 0 < width) (fits : n < 16 ^ width) :
    (hexUpper width n).length = width ∧ (∀ c ∈ hexUpper width n, (hexDigit? c).isSome = true)
      ∧ hexValue (hexUpper width n) = n := by
  obtain ⟨digits, value⟩ := upperDigits_spec n
  have short := (Nat.length_toDigits_le_iff (by omega) positive).mpr fits
  have split : hexUpper width n = List.replicate (width - (Nat.toDigits 16 n).length) '0'
      ++ (Nat.toDigits 16 n).map Char.toUpper := by
    simp [hexUpper, hexPadded]
  have zeros : ∀ k, (List.replicate k '0').foldl (fun n c => n * 16 + (hexDigit? c).getD 0) 0 = 0 := by
    intro k
    induction k with
    | zero => rfl
    | succ k ih =>
      rw [List.replicate_succ, List.foldl_cons]
      exact ih
  rw [split]
  refine ⟨by simp; omega, fun c member => ?_, ?_⟩
  · rcases List.mem_append.mp member with front | back
    · rw [List.eq_of_mem_replicate front]
      rfl
    · exact digits c back
  · rw [hexValue, List.foldl_append, zeros]
    exact value

/-- Every character is found by its code. -/
theorem charOfCode?_toNat (c : Char) : charOfCode? c.toNat = some c := by
  have valid : c.toNat < 0xd800 ∨ (0xdfff < c.toNat ∧ c.toNat < 0x110000) := c.valid
  have noHalf : Surrogate.isHalf c.toNat = false := by
    simp only [Surrogate.isHalf, Bool.and_eq_false_iff, decide_eq_false_iff_not]
    omega
  have inRange : c.toNat < 0x110000 := by omega
  simp [charOfCode?, noHalf, inRange]

namespace QuotedScalar

variable {start : YamlMark} {cursor after behind : YamlCursor} {out rest tail : List Char} {c : Char}

/-! ### Escapes -/

/-- Every escape of one letter is known by the letter. -/
theorem letters_letterEscapes : ∀ escape ∈ letterEscapes,
    letters.find? (·.1 = escape.2) = some (escape.2, Char.ofNat escape.1) := by
  decide

/-- A character is read from the digits of its code. -/
theorem escape_digits {letter : Char} {width : Nat} (known : codeLength? letter = some width)
    (noLetter : letters.find? (·.1 = letter) = none) (positive : 0 < width)
    (fits : c.toNat < 16 ^ width)
    (split : cursor.rest = letter :: (hexUpper width c.toNat ++ rest)) :
    ∃ after, cursor.Reads (letter :: hexUpper width c.toNat) after ∧ after.rest = rest
      ∧ escape start cursor = .ok ([c], after) := by
  obtain ⟨length, digits, value⟩ := hexUpper_spec positive fits
  obtain ⟨toNext, there⟩ := YamlCursor.reads_next split
  obtain ⟨after, reads, atRest⟩ := YamlCursor.exists_reads there
  refine ⟨after, toNext.trans reads, atRest, ?_⟩
  have taken : (cursor.next.rest.take width).takeWhile (fun d => (hexDigit? d).isSome)
      = hexUpper width c.toNat := by
    rw [there, List.take_left' length]
    exact List.takeWhile_eq_self_iff.mpr digits
  have peek : cursor.peek = some letter := by simp [YamlCursor.peek, split]
  have skip : cursor.next.skip width = after := by
    rw [← length]
    exact reads.skip_eq
  simp only [escape, peek, noLetter, known, Option.map_none, taken, length, value, charOfCode?_toNat,
    skip, Nat.lt_irrefl, if_false]

/-- The escape of a character is read as the character. -/
theorem escape_escapeOf (start : YamlMark) (c : Char) (split : cursor.rest = escapeOf c ++ rest) :
    ∃ next after, cursor.Reads ['\\'] next ∧ cursor.Reads (escapeOf c) after ∧ after.rest = rest
      ∧ escape start next = .ok ([c], after) := by
  have inRange : c.toNat < 0x110000 := by
    have valid : c.toNat < 0xd800 ∨ (0xdfff < c.toNat ∧ c.toNat < 0x110000) := c.valid
    omega
  unfold escapeOf at split ⊢
  cases found : letterEscapes.find? (·.1 = c.toNat) with
  | some pair =>
    obtain ⟨code, letter⟩ := pair
    have isCode : code = c.toNat := by simpa using List.find?_some found
    have known := letters_letterEscapes _ (List.mem_of_find?_eq_some found)
    simp only [found] at split ⊢
    obtain ⟨toNext, there⟩ := YamlCursor.reads_next split
    obtain ⟨toAfter, atRest⟩ := YamlCursor.reads_next there
    refine ⟨_, _, toNext, toNext.trans toAfter, atRest, ?_⟩
    have peek : cursor.next.peek = some letter := by simp [YamlCursor.peek, there]
    simp [escape, peek, known, isCode]
  | none =>
    simp only [found] at split ⊢
    -- The three widths differ in their letter alone.
    have wide : ∀ (letter : Char) (width : Nat), codeLength? letter = some width →
        letters.find? (·.1 = letter) = none → 0 < width → c.toNat < 16 ^ width →
        cursor.rest = ['\\', letter] ++ hexUpper width c.toNat ++ rest →
        ∃ next after, cursor.Reads ['\\'] next
          ∧ cursor.Reads (['\\', letter] ++ hexUpper width c.toNat) after ∧ after.rest = rest
          ∧ escape start next = .ok ([c], after) := by
      intro letter width known noLetter positive fits split
      obtain ⟨toNext, there⟩ := YamlCursor.reads_next split
      obtain ⟨after, reads, atRest, read⟩ := escape_digits known noLetter positive fits there
      exact ⟨_, after, toNext, toNext.trans reads, atRest, read⟩
    by_cases narrow : c.toNat ≤ 0xff
    · simp only [narrow, if_true] at split ⊢
      exact wide 'x' 2 rfl rfl (by omega) (by omega) split
    · by_cases middle : c.toNat ≤ 0xffff
      · simp only [narrow, middle, if_true, if_false] at split ⊢
        exact wide 'u' 4 rfl rfl (by omega) (by omega) split
      · simp only [narrow, middle, if_false] at split ⊢
        exact wide 'U' 8 rfl rfl (by omega) (by omega) split

/-- An escape is read, and what follows it. -/
theorem Content.escape {read chars : List Char} {next : YamlCursor} (toNext : cursor.Reads ['\\'] next)
    (reads : cursor.Reads read after) (some : read ≠ [])
    (escape : escape start next = .ok (chars, after)) (content : Content true start after out behind) :
    Content true start cursor (chars ++ out) behind := by
  refine .step reads some (fun fuel done => ?_) content
  rw [contentWithin_cons toNext.rest, toNext.next_eq, escape]
  simp [isBlankChar, isLineBreak]

/-- An escaped line break stands for nothing. -/
theorem Content.escapedBreak {n : Nat} (split : cursor.rest = '\\' :: newline (n + 1) ++ rest)
    (solid : Solid rest) (reads : cursor.Reads ('\\' :: newline (n + 1)) after)
    (content : Content true start after out behind) : Content true start cursor out behind := by
  obtain ⟨toNext, there⟩ := YamlCursor.reads_next split
  obtain ⟨line, toLine, atLine, broken⟩ := YamlCursor.lineBreak?_newline there
  have atLine : line.rest = List.replicate (n + 1) ' ' ++ rest := atLine
  obtain ⟨next, toEnd, -, read⟩ := breaksWithin_spaces start atLine solid
  have same := (toNext.trans (toLine.trans toEnd)).unique reads
  subst same
  have length : line.rest.length = (n + rest.length) + 1 := by
    rw [atLine, List.length_append, List.length_replicate]
    omega
  have peek : cursor.next.peek = some '\n' := by
    rw [YamlCursor.peek, there]
    rfl
  have noLetter : letters.find? (·.1 = '\n') = none := rfl
  have escaped : QuotedScalar.escape start cursor.next = .ok ([], next) := by
    simp [QuotedScalar.escape, peek, noLetter, codeLength?, broken, length, read]
  exact .escape toNext reads (by simp) escaped content

/-! ### Double quotes -/

/-- Whether a text has an escaped character with a space behind it and more behind the space. -/
def escapesBeforeSpace : List Char → Bool
  | [] => false
  | c :: rest =>
    (isEscaped c && rest.head? = some ' ' && rest.length != 1) || escapesBeforeSpace rest

/-- Whether the fold behind an escape is folded once more: where the indentation fills the line. The
first character does not fold. -/
def foldsTwice (fold : Nat) (text : List Char) : Bool :=
  lineWidth ≤ fold && escapesBeforeSpace text.tail

variable {fold column run : Nat} {isSplit first : Bool} {text : List Char}

/-- What is written without an escape can be read without one. -/
theorem solid_of_not_isEscaped (noEscape : isEscaped c = false) :
    isLineBreak c = false ∧ c ≠ '\t' ∧ c ≠ '"' ∧ c ≠ '\\' := by
  refine ⟨?_, ?_, ?_, ?_⟩
  · refine Bool.eq_false_iff.mpr fun isBreak => ?_
    simp only [isLineBreak, Bool.or_eq_true, decide_eq_true_eq] at isBreak
    rcases isBreak with ((rfl | rfl) | rfl) | rfl <;> cases noEscape
  all_goals
    rintro rfl
    cases noEscape

theorem not_isBlankChar (noSpace : c ≠ ' ') (noTab : c ≠ '\t') : isBlankChar c = false := by
  simp [isBlankChar, noSpace, noTab]

/-- What is written begins solidly, unless it begins with a space. -/
theorem solid_escape (rest : List Char) : Solid ('\\' :: rest) := ⟨_, _, rfl, rfl, rfl⟩

theorem escapeOf_head (c : Char) : ∃ rest, escapeOf c = '\\' :: rest := by
  dsimp only [escapeOf]
  split
  · exact ⟨_, rfl⟩
  · split
    · exact ⟨_, rfl⟩
    · split <;> exact ⟨_, rfl⟩

theorem escapeOf_ne_nil (c : Char) : escapeOf c ≠ [] := by
  obtain ⟨rest, same⟩ := escapeOf_head c
  simp [same]

theorem solid_doubleQuotedFrom (noSpace : text.head? ≠ some ' ') :
    Solid (doubleQuotedFrom fold isSplit first column run text ++ tail) := by
  cases text with
  | nil => exact ⟨_, _, rfl, rfl, rfl⟩
  | cons c text =>
    rw [doubleQuotedFrom]
    by_cases escaped : isEscaped c = true
    · obtain ⟨more, head⟩ := escapeOf_head c
      simp only [escaped, if_true, head]
      split <;> exact solid_escape _
    · have noEscape : isEscaped c = false := Bool.eq_false_iff.mpr escaped
      obtain ⟨noBreak, noTab, -⟩ := solid_of_not_isEscaped noEscape
      simp only [noEscape, Bool.false_eq_true, if_false]
      split
      · exact solid_escape _
      · exact ⟨c, _, rfl, not_isBlankChar (by simpa using noSpace) noTab, noBreak⟩

/-- What is written is some blanks and then no gap. -/
theorem exists_blanks_double (fold : Nat) (isSplit : Bool) (text tail : List Char) (first : Bool)
    (column run : Nat) :
    ∃ blanks rest, doubleQuotedFrom fold isSplit first column run text ++ tail = blanks ++ rest
      ∧ (∀ c ∈ blanks, isBlankChar c = true) ∧ Solid rest := by
  induction text generalizing first column run with
  | nil => exact ⟨[], '"' :: tail, rfl, by simp, _, _, rfl, rfl, rfl⟩
  | cons c text ih =>
    by_cases space : c = ' '
    · subst space
      have noEscape : isEscaped ' ' = false := rfl
      simp only [doubleQuotedFrom, noEscape, Bool.false_eq_true, if_false]
      split
      next => exact ⟨[], _, rfl, by simp, solid_escape _⟩
      next =>
        obtain ⟨blanks, rest, split, all, solid⟩ := ih false column (run + 1)
        exact ⟨' ' :: blanks, rest, by rw [List.cons_append, split, List.cons_append],
          by simpa [isBlankChar] using all, solid⟩
    · exact ⟨[], _, rfl, by simp, solid_doubleQuotedFrom (by simpa using space)⟩

/-- A character that is written as it is is read as it is. -/
theorem content_char (noEscape : isEscaped c = false) (toNext : cursor.Reads [c] after)
    (there : after.rest = doubleQuotedFrom fold isSplit first column run text ++ tail)
    (content : Content true start after out behind) : Content true start cursor (c :: out) behind := by
  obtain ⟨noBreak, noTab, noQuote, noSlash⟩ := solid_of_not_isEscaped noEscape
  by_cases space : c = ' '
  · subst space
    obtain ⟨blanks, rest, split, all, solid⟩ :=
      exists_blanks_double fold isSplit text tail first column run
    refine .blank ?_ all solid toNext content
    rw [toNext.rest, there, split]
    rfl
  · exact .char toNext.rest (not_isBlankChar space noTab) noBreak noQuote (fun _ => noSlash) toNext
      content

/-- A line is folded in front of a character that is written as it is, or behind an escape. -/
theorem content_fold (start : YamlMark) (foldSome : 1 ≤ fold) (noEscape : isEscaped c = false)
    (written : cursor.rest = escapedNewline fold (some c)
      ++ c :: (doubleQuotedFrom fold isSplit first column run text ++ tail)) :
    ∃ after, cursor.Reads (escapedNewline fold (some c) ++ [c]) after
      ∧ after.rest = doubleQuotedFrom fold isSplit first column run text ++ tail
      ∧ ∀ {out : List Char} {behind : YamlCursor}, Content true start after out behind →
        Content true start cursor (c :: out) behind := by
  obtain ⟨n, rfl⟩ := Nat.exists_eq_add_of_le' foldSome
  by_cases space : c = ' '
  · subst space
    have written : cursor.rest = ('\\' :: newline (n + 1)) ++ (['\\', ' ']
        ++ (doubleQuotedFrom (n + 1) isSplit first column run text ++ tail)) := by
      simpa [escapedNewline] using written
    obtain ⟨line, toLine, atLine⟩ := YamlCursor.exists_reads written
    obtain ⟨toNext, atNext⟩ := YamlCursor.reads_next atLine
    obtain ⟨toAfter, there⟩ := YamlCursor.reads_next atNext
    have space : escape start line.next = .ok ([' '], line.next.next) := by
      have peek : line.next.peek = some ' ' := by
        rw [YamlCursor.peek, atNext]
        rfl
      have letter : letters.find? (·.1 = ' ') = some (' ', ' ') := rfl
      simp [escape, peek, letter]
    refine ⟨_, by simpa [escapedNewline] using toLine.trans (toNext.trans toAfter), there,
      fun content => ?_⟩
    refine .escapedBreak written (solid_escape _) toLine ?_
    exact .escape toNext (toNext.trans toAfter) (by simp) space content
  · have written : cursor.rest = ('\\' :: newline (n + 1)) ++ ([c]
        ++ (doubleQuotedFrom (n + 1) isSplit first column run text ++ tail)) := by
      simpa [escapedNewline, space] using written
    obtain ⟨noBreak, noTab, -⟩ := solid_of_not_isEscaped noEscape
    obtain ⟨line, toLine, atLine⟩ := YamlCursor.exists_reads written
    obtain ⟨toNext, atNext⟩ := YamlCursor.reads_next atLine
    refine ⟨_, by simpa [escapedNewline, space] using toLine.trans toNext, atNext,
      fun content => ?_⟩
    refine .escapedBreak written ⟨c, _, rfl, not_isBlankChar space noTab, noBreak⟩ toLine ?_
    exact content_char noEscape toNext atNext content

/-- A line is folded behind an escape, with the space that may follow. -/
theorem content_behindEscape (start : YamlMark) (foldSome : 1 ≤ fold)
    (once : text.head? = some ' ' → text.length ≠ 1 → fold < lineWidth)
    (written : cursor.rest = escapedNewline fold text.head?
      ++ (doubleQuotedFrom fold isSplit false (columnBehind fold text.head?) 0 text ++ tail)) :
    ∃ front rest column' run' read after, text = front ++ rest
      ∧ escapedNewline fold text.head?
          ++ doubleQuotedFrom fold isSplit false (columnBehind fold text.head?) 0 text
        = read ++ doubleQuotedFrom fold isSplit false column' run' rest
      ∧ cursor.Reads read after
      ∧ after.rest = doubleQuotedFrom fold isSplit false column' run' rest ++ tail
      ∧ ∀ {out : List Char} {behind : YamlCursor}, Content true start after out behind →
        Content true start cursor (front ++ out) behind := by
  by_cases space : text.head? = some ' '
  · obtain ⟨rest, rfl⟩ := List.head?_eq_some_iff.mp space
    have same : doubleQuotedFrom fold isSplit false (columnBehind fold (some ' ')) 0 (' ' :: rest)
        = ' ' :: doubleQuotedFrom fold isSplit false (fold + 1) 1 rest := by
      have noEscape : isEscaped ' ' = false := rfl
      cases rest with
      | nil => simp [doubleQuotedFrom, noEscape]
      | cons d rest =>
        have narrow : ¬lineWidth < fold + 1 + 0 := by
          have := once space (by simp)
          omega
        rw [doubleQuotedFrom]
        simp [noEscape, narrow, columnBehind]
    rw [List.head?_cons, same] at written ⊢
    obtain ⟨after, reads, there, content⟩ :=
      content_fold start foldSome (c := ' ') rfl (by simpa using written)
    exact ⟨[' '], rest, _, _, _, after, rfl, by simp, reads, there, content⟩
  · obtain ⟨n, rfl⟩ := Nat.exists_eq_add_of_le' foldSome
    have same : escapedNewline (n + 1) text.head? = '\\' :: newline (n + 1) := by
      simp [escapedNewline, space]
    rw [same] at written ⊢
    obtain ⟨after, reads, there⟩ := YamlCursor.exists_reads written
    exact ⟨[], text, _, _, _, after, rfl, rfl, reads, there,
      .escapedBreak written (solid_doubleQuotedFrom space) reads⟩

theorem escapesBeforeSpace_suffix {front : List Char}
    (none : escapesBeforeSpace (front ++ text) = false) : escapesBeforeSpace text = false := by
  induction front with
  | nil => exact none
  | cons c front ih => exact ih (Bool.or_eq_false_iff.mp none).2

/-- What a text in double quotes is written as is read as the text. -/
theorem content_double (start : YamlMark) (foldSome : 1 ≤ fold) (text : List Char)
    (first : Bool) (column run : Nat)
    (foldsOnce : isSplit = true → lineWidth ≤ fold →
      escapesBeforeSpace (if first then text.tail else text) = false)
    (cursor : YamlCursor)
    (written : cursor.rest = doubleQuotedFrom fold isSplit first column run text ++ tail) :
    ∃ behind, cursor.Reads (doubleQuotedFrom fold isSplit first column run text) behind
      ∧ behind.rest = tail ∧ Content true start cursor text behind := by
  match text with
  | [] =>
    obtain ⟨behind, reads, there⟩ := YamlCursor.exists_reads written
    have split : cursor.rest = '"' :: tail := written
    exact ⟨behind, reads, there, .closed split (by simp) reads⟩
  | c :: text =>
    have foldsOnce' : isSplit = true → lineWidth ≤ fold → escapesBeforeSpace text = false := by
      intro splits wide
      have := foldsOnce splits wide
      cases first with
      | true => exact this
      | false => exact (Bool.or_eq_false_iff.mp this).2
    have later := fun column run => content_double start foldSome text false column run foldsOnce'
    rw [doubleQuotedFrom] at written ⊢
    by_cases escaped : isEscaped c = true
    · simp only [escaped, if_true] at written ⊢
      split at written
      next folds =>
        rw [if_pos folds]
        simp only [Bool.and_eq_true, Bool.not_eq_true'] at folds
        obtain ⟨⟨⟨splits, notFirst⟩, -⟩, -⟩ := folds
        rw [List.append_assoc, List.append_assoc] at written
        obtain ⟨next, after, toNext, toAfter, there, read⟩ := escape_escapeOf start c written
        have once : text.head? = some ' ' → text.length ≠ 1 → fold < lineWidth := by
          intro space more
          by_contra wide
          have := foldsOnce splits (Nat.le_of_not_lt wide)
          simp [notFirst, escapesBeforeSpace, escaped, space, more] at this
        obtain ⟨front, rest, column', run', toFold, after', rfl, same, reads, there', content⟩ :=
          content_behindEscape start foldSome once there
        have foldsOnce'' : isSplit = true → lineWidth ≤ fold → escapesBeforeSpace rest = false :=
          fun splits wide => escapesBeforeSpace_suffix (foldsOnce' splits wide)
        obtain ⟨behind, toBehind, atTail, more⟩ :=
          content_double start foldSome rest false column' run' foldsOnce'' after' there'
        refine ⟨behind, ?_, atTail, .escape toNext toAfter (escapeOf_ne_nil c) read (content more)⟩
        rw [List.append_assoc, same]
        exact toAfter.trans (reads.trans toBehind)
      next noFold =>
        rw [if_neg noFold]
        rw [List.append_assoc] at written
        obtain ⟨next, after, toNext, toAfter, there, read⟩ := escape_escapeOf start c written
        obtain ⟨behind, reads, atTail, content⟩ := later _ _ after there
        exact ⟨behind, toAfter.trans reads, atTail,
          .escape toNext toAfter (escapeOf_ne_nil c) read content⟩
    · have noEscape : isEscaped c = false := Bool.eq_false_iff.mpr escaped
      simp only [noEscape, Bool.false_eq_true, if_false] at written ⊢
      split at written
      next folds =>
        rw [if_pos folds]
        have written : cursor.rest = escapedNewline fold (some c) ++ c ::
            (doubleQuotedFrom fold isSplit false (columnBehind fold (some c)) 1 text ++ tail) := by
          simpa using written
        obtain ⟨after, toAfter, there, read⟩ := content_fold start foldSome noEscape written
        obtain ⟨behind, reads, atTail, content⟩ := later _ _ after there
        exact ⟨behind, by simpa using toAfter.trans reads, atTail, read content⟩
      next noFold =>
        rw [if_neg noFold]
        obtain ⟨toNext, there⟩ := YamlCursor.reads_next written
        obtain ⟨behind, reads, atTail, content⟩ := later column (run + 1) cursor.next there
        exact ⟨behind, toNext.trans reads, atTail, content_char noEscape toNext there content⟩
  termination_by text.length

/-! ### Characters that are written -/

/-- Digits of a number can be written. -/
theorem isEscaped_of_mem_hexUpper {width n : Nat} : ∀ c ∈ hexUpper width n, isEscaped c = false := by
  have digit : ∀ d < 16, isEscaped (Nat.digitChar d).toUpper = false := by decide
  have digits : ∀ n, ∀ c ∈ (Nat.toDigits 16 n).map Char.toUpper, isEscaped c = false := by
    intro n
    induction n using Nat.strongRecOn with
    | ind n ih =>
      rw [Nat.toDigits_eq_if (by omega)]
      split
      next small => simpa using digit n small
      next large =>
        intro c member
        rw [List.map_append] at member
        rcases List.mem_append.mp member with front | back
        · exact ih (n / 16) (by omega) c front
        · obtain rfl : c = (Nat.digitChar (n % 16)).toUpper := by simpa using back
          exact digit (n % 16) (by omega)
  intro c member
  have member : c ∈ List.replicate (width - (Nat.toDigits 16 n).length) '0'
      ++ (Nat.toDigits 16 n).map Char.toUpper := by
    simpa [hexUpper, hexPadded] using member
  rcases List.mem_append.mp member with front | back
  · rw [List.eq_of_mem_replicate front]
    rfl
  · exact digits n c back

section

variable {holds : Char → Prop} (plain : ∀ c, isEscaped c = false → holds c) (quote : holds '"')
  (slash : holds '\\')
include plain quote slash

theorem forall_escapeOf (c : Char) : ∀ d ∈ escapeOf c, holds d := by
  have letters : ∀ escape ∈ letterEscapes,
      escape.2 = '"' ∨ escape.2 = '\\' ∨ isEscaped escape.2 = false := by decide
  have wide : ∀ (letter : Char) (width : Nat), isEscaped letter = false →
      ∀ d ∈ ['\\', letter] ++ hexUpper width c.toNat, holds d := by
    intro letter width known d member
    rcases List.mem_append.mp member with front | back
    · rcases List.mem_cons.mp front with rfl | letter
      · exact slash
      · exact List.mem_singleton.mp letter ▸ plain _ known
    · exact plain d (isEscaped_of_mem_hexUpper d back)
  dsimp only [escapeOf]
  split
  next code letter found =>
    intro d member
    rcases List.mem_cons.mp member with rfl | same
    · exact slash
    · obtain rfl := List.mem_singleton.mp same
      rcases letters _ (List.mem_of_find?_eq_some found) with rfl | rfl | known
      · exact quote
      · exact slash
      · exact plain _ known
  next =>
    split
    · exact wide 'x' 2 rfl
    · split
      · exact wide 'u' 4 rfl
      · exact wide 'U' 8 rfl

/-- Every character between double quotes can be written without an escape, or belongs to an escape or
a fold. -/
theorem forall_doubleQuotedFrom (newline : isSplit = true → holds '\n') (text : List Char)
    (first : Bool) (column run : Nat) :
    ∀ c ∈ doubleQuotedFrom fold isSplit first column run text, holds c := by
  have space : holds ' ' := plain ' ' rfl
  have fold : isSplit = true → ∀ (next : Option Char), ∀ d ∈ escapedNewline fold next, holds d := by
    intro splits next d member
    simp only [escapedNewline, ModelSchema.newline, List.cons_append, List.mem_cons, List.mem_append]
      at member
    rcases member with rfl | rfl | blank | escape
    · exact slash
    · exact newline splits
    · rw [List.eq_of_mem_replicate blank]
      exact space
    · split at escape
      · rw [List.mem_singleton.mp escape]
        exact slash
      · cases escape
  induction text generalizing first column run with
  | nil => simpa [doubleQuotedFrom] using quote
  | cons c text ih =>
    have escape := forall_escapeOf plain quote slash c
    rw [doubleQuotedFrom]
    by_cases escaped : isEscaped c = true
    · simp only [escaped, if_true]
      split
      next folds =>
        simp only [Bool.and_eq_true] at folds
        intro d member
        rcases List.mem_append.mp member with front | back
        · rcases List.mem_append.mp front with inside | behind
          · exact escape d inside
          · exact fold folds.1.1.1 _ d behind
        · exact ih _ _ _ d back
      next =>
        intro d member
        rcases List.mem_append.mp member with front | back
        · exact escape d front
        · exact ih _ _ _ d back
    · have noEscape : isEscaped c = false := Bool.eq_false_iff.mpr escaped
      have here : holds c := plain c noEscape
      simp only [noEscape, Bool.false_eq_true, if_false]
      split
      next folds =>
        simp only [Bool.and_eq_true] at folds
        intro d member
        rcases List.mem_append.mp member with front | back
        · exact fold folds.1.1.1.1 _ d front
        · rcases List.mem_cons.mp back with rfl | later
          · exact here
          · exact ih _ _ _ d later
      next =>
        intro d member
        rcases List.mem_cons.mp member with rfl | later
        · exact here
        · exact ih _ _ _ d later

end

/-! ### Lengths -/

/-- No escape is longer than one of eight digits. -/
theorem length_escapeOf_le (c : Char) : (escapeOf c).length ≤ 10 := by
  have wide : ∀ {width : Nat} (letter : Char), 0 < width → c.toNat < 16 ^ width →
      (['\\', letter] ++ hexUpper width c.toNat).length = width + 2 := by
    intro width letter positive fits
    rw [List.length_append, (hexUpper_spec positive fits).1]
    exact Nat.add_comm 2 width
  have valid : c.toNat < 0xd800 ∨ (0xdfff < c.toNat ∧ c.toNat < 0x110000) := c.valid
  unfold escapeOf
  dsimp only
  split
  · simp
  · split
    · rw [wide 'x' (by decide) (by omega)]
      decide
    · split
      · rw [wide 'u' (by decide) (by omega)]
        decide
      · rw [wide 'U' (by decide) (by omega)]

theorem length_doubleQuotedFrom_le (text : List Char) (first : Bool) (column run : Nat) :
    (doubleQuotedFrom fold false first column run text).length ≤ 10 * text.length + 1 := by
  induction text generalizing first column run with
  | nil => simp [doubleQuotedFrom]
  | cons c text ih =>
    have escape := length_escapeOf_le c
    rw [doubleQuotedFrom]
    simp only [Bool.false_and, Bool.false_eq_true, if_false]
    split
    · have later := ih false (column + run + (escapeOf c).length) 0
      simp only [List.length_append, List.length_cons]
      omega
    · have later := ih false column (run + 1)
      simp only [List.length_cons]
      omega

end QuotedScalar

open QuotedScalar in
/-- A scalar in double quotes is read back. -/
theorem YamlCursor.quotedScalar_double {cursor : YamlCursor} {fold column : Nat} {isSplit : Bool}
    {text tail : List Char} (foldSome : 1 ≤ fold)
    (foldsOnce : isSplit = true → foldsTwice fold text = false)
    (written : cursor.rest = doubleQuotedText fold isSplit column text ++ tail) :
    ∃ behind, cursor.Reads (doubleQuotedText fold isSplit column text) behind ∧ behind.rest = tail
      ∧ cursor.quotedScalar = .ok (String.ofList text, behind) := by
  rw [doubleQuotedText, List.cons_append] at written
  obtain ⟨toNext, there⟩ := reads_next written
  obtain ⟨behind, reads, atTail, content⟩ := content_double cursor.mark foldSome text true (column + 1) 0
    (fun splits wide => by simpa [foldsTwice, wide] using foldsOnce splits) cursor.next there
  exact ⟨behind, toNext.trans reads, atTail, @quotedScalar_eq _ _ true _ _ written content⟩

end ModelSchema
