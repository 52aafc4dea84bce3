import ModelSchema.Proofs.Yaml.DoubleQuoted
import ModelSchema.Proofs.Yaml.Plain
import ModelSchema.Proofs.Yaml.SingleQuoted
import ModelSchema.Proofs.Yaml.Tokens
import ModelSchema.Yaml.Printer

/-!
Scalars are scanned as they were written.

* `ScalarStyle.written`: a text in one of the styles, and `ScalarStyle.Fits`, when it may be written so.
* `YamlNode.scalarKept`: whether a scalar is read back.
* `YamlScan.Ready.scalar`: a scalar that ends its line, and `YamlScan.Ready.simpleKey`: a key with its
  colon.
-/

namespace ModelSchema

/-! ### Styles -/

/-- A text as it is written in a style. -/
def ScalarStyle.written (style : ScalarStyle) (fold : Nat) (split : Bool) (column : Nat)
    (text : List Char) : List Char :=
  match style with
  | .plain => plainText fold split column text
  | .singleQuoted => singleQuotedText fold split column text
  | .doubleQuoted => doubleQuotedText fold split column text
  | .literal => literalText fold text

/-- Whether a scalar is read back: a next line character between single quotes is not, and an escaped
space is not where it is folded once more. -/
def YamlNode.scalarKept (fold : Nat) (asKey : Bool) (tag : YamlTag) (text : String) : Bool :=
  match ScalarStyle.choose tag text asKey with
  | .singleQuoted => !text.toList.contains '\u0085'
  | .doubleQuoted => asKey || !QuotedScalar.foldsTwice fold text.toList
  | _ => true

/-- When a text in a style is read back. -/
def ScalarStyle.Fits (style : ScalarStyle) (fold : Nat) (split : Bool) (text : List Char) : Prop :=
  match style with
  | .plain => text ≠ [] ∧ PlainText text ∧ PlainEnds text
  | .singleQuoted => SingleText text ∧ '\u0085' ∉ text
  | .doubleQuoted => split = true → QuotedScalar.foldsTwice fold text = false
  | .literal => False

/-- The scalars of a tree: texts, and words and numbers that are written plain. -/
def YamlNode.IsTreeScalar (tag : YamlTag) (text : String) : Prop :=
  tag = .str ∨ (text ≠ "" ∧ ScalarStyle.choose tag text false = .plain)

section

variable {fold : Nat} {asKey : Bool} {tag : YamlTag} {text : String}

theorem YamlTag.ofPlain_empty : YamlTag.ofPlain "" = .null := by decide

/-- A text that is written plain says what it is. -/
theorem ScalarStyle.plain_of_choose (plain : choose tag text asKey = .plain) :
    YamlTag.ofPlain text = tag ∧ (ScalarTraits.of text.toList).blockPlain = true := by
  unfold choose at plain
  dsimp only at plain
  split at plain
  · split at plain <;> cases plain
  · split at plain
    next chosen =>
      simp only [Bool.and_eq_true, decide_eq_true_eq] at chosen
      exact chosen.1
    next => split at plain <;> cases plain

theorem ScalarStyle.single_of_choose (single : choose tag text asKey = .singleQuoted) :
    (ScalarTraits.of text.toList).singleQuoted = true := by
  unfold choose at single
  dsimp only at single
  split at single
  · split at single <;> cases single
  · split at single
    next => cases single
    next =>
      split at single
      next chosen => exact (Bool.and_eq_true_iff.mp chosen).1
      next => cases single

/-- Only bytes are written literally. -/
theorem ScalarStyle.choose_str_ne_literal : choose .str text asKey ≠ .literal := by
  unfold choose
  dsimp only
  split
  next binary => cases binary
  next =>
    split
    · simp
    · split <;> simp

theorem ScalarStyle.fits_of_plain (plain : choose tag text asKey = .plain) (some : text ≠ "")
    (split : Bool) : Fits .plain fold split text.toList := by
  have some : text.toList ≠ [] := by simpa using some
  exact ⟨some, ScalarTraits.plain_of_blockPlain some (plain_of_choose plain).2⟩

/-- A text that is kept fits its style, which tells that it is a text. -/
theorem YamlNode.fits_of_str (kept : YamlNode.scalarKept fold asKey .str text = true) :
    (ScalarStyle.choose .str text asKey).Fits fold (!asKey) text.toList
      ∧ (ScalarStyle.choose .str text asKey).impliesTag .str text = true := by
  unfold scalarKept at kept
  cases chosen : ScalarStyle.choose .str text asKey with
  | plain =>
    have isStr := (ScalarStyle.plain_of_choose chosen).1
    refine ⟨ScalarStyle.fits_of_plain chosen ?_ _, by simpa [ScalarStyle.impliesTag] using isStr⟩
    rintro rfl
    cases YamlTag.ofPlain_empty.symm.trans isStr
  | singleQuoted =>
    rw [chosen] at kept
    exact ⟨⟨ScalarTraits.single_of_singleQuoted (ScalarStyle.single_of_choose chosen),
      by simpa using kept⟩, rfl⟩
  | doubleQuoted =>
    rw [chosen] at kept
    refine ⟨fun splits => ?_, rfl⟩
    have noKey : asKey = false := by simpa using splits
    simpa [noKey] using kept
  | literal => exact absurd chosen ScalarStyle.choose_str_ne_literal

theorem YamlNode.fits_of_kept (isTree : YamlNode.IsTreeScalar tag text)
    (kept : YamlNode.scalarKept fold false tag text = true) :
    (ScalarStyle.choose tag text false).Fits fold true text.toList
      ∧ (ScalarStyle.choose tag text false).impliesTag tag text = true := by
  rcases isTree with rfl | ⟨some, plain⟩
  · exact YamlNode.fits_of_str kept
  · rw [plain]
    exact ⟨ScalarStyle.fits_of_plain plain some true,
      by simpa [ScalarStyle.impliesTag] using (ScalarStyle.plain_of_choose plain).1⟩

end

/-- A scalar that says what it is is written without a mark of its kind. -/
theorem YamlNode.scalarText_eq {place : YamlPlace} {asKey : Bool} {tag : YamlTag} {text : String}
    (implied : (ScalarStyle.choose tag text asKey).impliesTag tag text = true) :
    YamlNode.scalarText place asKey tag text = place.gap
      ++ (ScalarStyle.choose tag text asKey).written place.fold (!asKey)
        (place.column + place.gap.length) text.toList := by
  simp only [YamlNode.scalarText, implied, if_true, List.length_nil, Nat.add_zero, List.append_nil]
  cases ScalarStyle.choose tag text asKey <;> rfl

/-! ### Values -/

namespace YamlScan

variable {scan : YamlScan} {stack : List Int} {kinds : List YamlToken} {text tail rest : List Char}
  {column indent next : Int} {allowKey split : Bool} {fold writtenColumn : Nat} {c : Char}

/-- A scalar in quotes ends its line. -/
theorem At.quotedLine {written : List Char} {behind : YamlCursor}
    (at_ : scan.At (written ++ '\n' :: tail) column allowKey (indent :: stack) kinds)
    (lt : indent < column) (follows : Follows tail next rest)
    (quote : written.head? = some '\'' ∨ written.head? = some '"')
    (toBehind : scan.cursor.Reads written behind) (there : behind.rest = '\n' :: tail)
    (reads : scan.cursor.quotedScalar = .ok (String.ofList text, behind)) :
    ∃ after, scan.Fetches after ∧ after.Ready rest next true (openAt next (indent :: stack))
        (endsAt next (indent :: stack) ++ .scalar (String.ofList text) false :: kinds) := by
  obtain ⟨c, more, rfl, isQuote⟩ : ∃ c more, written = c :: more ∧ (c = '\'' ∨ c = '"') := by
    rcases quote with single | double
    · obtain ⟨more, rfl⟩ := List.head?_eq_some_iff.mp single
      exact ⟨_, more, rfl, .inl rfl⟩
    · obtain ⟨more, rfl⟩ := List.head?_eq_some_iff.mp double
      exact ⟨_, more, rfl, .inr rfl⟩
  obtain ⟨gap, after, skips, atRest, isNext, line⟩ := follows.skips there
  refine ⟨_, ⟨c, _, at_.rest, at_.fetchAt_quoted isQuote reads, toBehind.length_lt (by simp)⟩, ?_⟩
  have ready := at_.ready_behindNode (by simp) lt (.scalar (String.ofList text) false) false skips
    (Nat.lt_of_le_of_lt toBehind.line_le line)
  rw [isNext, atRest] at ready
  exact ready

/-! ### Plain scalars -/

/-- A character of a plain scalar that is no gap comes from the text. -/
theorem exists_of_plainFrom {before : Option Char} {more : List Char} (noSpace : c ≠ ' ')
    (noBreak : c ≠ '\n') (behind : tail.head? ≠ some c)
    (written : plainFrom fold split writtenColumn before text ++ tail = c :: more) :
    ∃ later, text = c :: later
      ∧ more = plainFrom fold split (writtenColumn + 1) (some c) later ++ tail := by
  cases text with
  | nil =>
    have written : tail = c :: more := written
    simp [written] at behind
  | cons d later =>
    rw [plainFrom_cons] at written
    split at written
    next =>
      rw [newline, List.cons_append, List.cons_append] at written
      exact absurd (List.cons.inj written).1.symm noBreak
    next =>
      obtain ⟨rfl, rfl⟩ := List.cons.inj written
      exact ⟨later, rfl, rfl⟩

/-- No plain scalar begins like a mark between documents. -/
theorem isDocumentMark_plainText (noMark : ScalarTraits.isDocumentMark text = false)
    (noDash : tail.head? ≠ some '-') (noDot : tail.head? ≠ some '.') :
    ScalarTraits.isDocumentMark (plainText fold split writtenColumn text ++ tail) = false := by
  have each : ∀ {c : Char} {more : List Char}, c ≠ ' ' → c ≠ '\n' → tail.head? ≠ some c →
      plainText fold split writtenColumn text ++ tail = c :: c :: c :: more →
      ∃ later, text = c :: c :: c :: later := by
    intro c more noSpace noBreak behind written
    obtain ⟨one, first, written⟩ := exists_of_plainFrom noSpace noBreak behind written
    obtain ⟨two, second, written⟩ := exists_of_plainFrom noSpace noBreak behind written.symm
    obtain ⟨three, third, -⟩ := exists_of_plainFrom noSpace noBreak behind written.symm
    exact ⟨three, by rw [first, second, third]⟩
  unfold ScalarTraits.isDocumentMark
  split
  next written =>
    obtain ⟨later, rfl⟩ := each (by decide) (by decide) noDash written
    cases noMark
  next written =>
    obtain ⟨later, rfl⟩ := each (by decide) (by decide) noDot written
    cases noMark
  next => rfl

/-- A plain scalar is scanned when it is read, with what stands behind it. -/
theorem At.fetches_plain {behind : YamlCursor} {lineBroken : Bool}
    (at_ : scan.At (plainText fold split writtenColumn text ++ tail) column allowKey
      (indent :: stack) kinds)
    (fits : ScalarStyle.plain.Fits fold split text) (noDash : tail.head? ≠ some '-')
    (noDot : tail.head? ≠ some '.')
    (shorter : behind.rest.length < scan.cursor.rest.length)
    (reads : scan.cursor.plainScalar false (indent + 1) = (⟨text, lineBroken⟩, behind)) :
    scan.Fetches (scan.withNode (.scalar (String.ofList text) true) behind lineBroken) := by
  obtain ⟨some, plain, ends⟩ := fits
  have noMark : scan.cursor.isAtDocumentMark = false := by
    rw [YamlCursor.isAtDocumentMark, at_.rest, isDocumentMark_plainText ends.mark noDash noDot,
      Bool.false_and]
  cases text with
  | nil => exact absurd rfl some
  | cons c text =>
    obtain ⟨noIndicator, noSpace, solid⟩ := ends.first c text rfl
    have noBreak := plain.inline.noBreak c List.mem_cons_self
    have noSeparator : isSeparator c = false := Bool.eq_false_iff.mpr fun separator =>
      noSpace (eq_space_of_isSeparator (plain.inline.writable c List.mem_cons_self) noBreak separator)
    have first : plainText fold split writtenColumn (c :: text)
        = c :: plainFrom fold split (writtenColumn + 1) (Option.some c) text := by
      rw [plainText, plainFrom_cons, if_neg (by simp [noSpace])]
    rw [first, List.cons_append] at at_
    refine ⟨c, _, at_.rest, at_.fetchAt_plain noMark noIndicator noSeparator (fun special => ?_) reads,
      shorter⟩
    have solid := solid special
    cases text with
    | nil => cases solid
    | cons d text =>
      have solid : isSeparator d = false := solid
      have noSpace : d ≠ ' ' := by
        rintro rfl
        cases solid
      rw [plainFrom_cons, if_neg (by simp [noSpace])] at at_
      simp [YamlCursor.isSeparated, YamlCursor.peekAt, at_.rest, solid]

/-- A plain scalar ends its line. -/
theorem At.plainLine
    (at_ : scan.At (plainText fold split writtenColumn text ++ '\n' :: tail) column allowKey
      (indent :: stack) kinds)
    (lt : indent < column) (follows : Follows tail next rest) (le : next ≤ indent)
    (fits : ScalarStyle.plain.Fits fold split text) (nested : 0 ≤ indent) (wide : indent < fold) :
    ∃ after, scan.Fetches after ∧ after.Ready rest next true (openAt next (indent :: stack))
      (endsAt next (indent :: stack) ++ .scalar (String.ofList text) true :: kinds) := by
  obtain ⟨n, rfl, starts, small, isNext⟩ := follows.exists_spaces le
  have some : plainText fold split writtenColumn text ++ '\n' :: (List.replicate n ' ' ++ rest) ≠ [] := by
    simp
  have here := at_.column_eq some
  have small := small nested
  obtain ⟨behind, toBehind, there, reads⟩ := @YamlCursor.plainScalar_value fold writtenColumn split
    (indent + 1) text rest scan.cursor fits.1 fits.2.1 fits.2.2 n (fun _ => by omega) at_.rest
    (by omega) ⟨starts.noSpace, starts.noBreak⟩ (by omega)
  have spaces : ∀ d ∈ List.replicate n ' ', YamlCursor.isInline d = true := by
    simp [YamlCursor.isInline, isLineBreak]
  obtain ⟨line, column⟩ := toBehind.newLine rfl spaces
  rw [List.length_replicate] at column
  refine ⟨_, at_.fetches_plain fits (by simp) (by simp) (toBehind.length_lt (by simp)) reads, ?_⟩
  have ready := at_.ready_behindNode some lt (.scalar (String.ofList text) true) true
    (skips_spaces (n := 0) (.refl behind) (there ▸ starts)) line
  rw [isNext behind there column, there] at ready
  exact ready

/-! ### Lines and keys -/

/-- A scalar begins with no gap. -/
theorem startsToken_written {style : ScalarStyle} (fits : style.Fits fold split text) :
    StartsToken (style.written fold split writtenColumn text ++ tail) := by
  cases style with
  | plain =>
    obtain ⟨some, plain, ends⟩ := fits
    cases text with
    | nil => exact absurd rfl some
    | cons c text =>
      obtain ⟨noIndicator, noSpace, -⟩ := ends.first c text rfl
      have inline := isInline_of_isWritable (plain.inline.writable c List.mem_cons_self)
        (plain.inline.noBreak c List.mem_cons_self)
      have noComment : c ≠ '#' := by
        rintro rfl
        revert noIndicator
        decide
      rw [ScalarStyle.written, plainText, plainFrom_cons, if_neg (by simp [noSpace])]
      exact .cons noSpace noComment inline
  | singleQuoted => exact .cons (by decide) (by decide) rfl
  | doubleQuoted => exact .cons (by decide) (by decide) rfl
  | literal => exact fits.elim

/-- A scalar that ends its line is scanned, and the blocks that end there are closed. Only a scalar in
quotes can be a document on its own. -/
theorem Ready.scalar {style : ScalarStyle}
    (ready : scan.Ready (style.written fold split writtenColumn text ++ '\n' :: tail) column allowKey
      (indent :: stack) kinds)
    (lt : indent < column) (follows : Follows tail next rest) (le : next ≤ indent)
    (fits : style.Fits fold split text) (foldSome : 1 ≤ fold) (wide : indent < fold)
    (nested : style = .plain → 0 ≤ indent) :
    ∃ after, scan.Runs after ∧ after.Ready rest next true (openAt next (indent :: stack))
      (endsAt next (indent :: stack)
        ++ .scalar (String.ofList text) (style = .plain) :: kinds) := by
  obtain ⟨settled, settles, at_⟩ := ready
  suffices found : ∃ after, settled.Fetches after ∧ after.Ready rest next true
      (openAt next (indent :: stack)) (endsAt next (indent :: stack)
        ++ .scalar (String.ofList text) (style = .plain) :: kinds) by
    obtain ⟨after, fetches, there⟩ := found
    exact ⟨after, settles.runs fetches, there⟩
  cases style with
  | plain => exact at_.plainLine lt follows le fits (nested rfl) wide
  | singleQuoted =>
    obtain ⟨behind, toBehind, there, reads⟩ :=
      YamlCursor.quotedScalar_single foldSome fits.1 fits.2 (by simp) at_.rest
    exact at_.quotedLine lt follows (.inl rfl) toBehind there reads
  | doubleQuoted =>
    obtain ⟨behind, toBehind, there, reads⟩ :=
      YamlCursor.quotedScalar_double foldSome fits at_.rest
    exact at_.quotedLine lt follows (.inr rfl) toBehind there reads
  | literal => exact fits.elim

/-- A text of one line is written on one line as a key. -/
theorem isInline_written {style : ScalarStyle} (fits : style.Fits fold false text)
    (oneLine : ∀ c ∈ text, isLineBreak c = false) :
    ∀ c ∈ style.written fold false writtenColumn text, YamlCursor.isInline c = true := by
  cases style with
  | plain =>
    intro c member
    rw [ScalarStyle.written, plainText_noSplit] at member
    exact isInline_of_isWritable (fits.2.1.inline.writable c member) (oneLine c member)
  | singleQuoted =>
    have chars : ∀ c ∈ text, YamlCursor.isInline c = true := fun c member =>
      isInline_of_isWritable (fits.1.writable c member) (oneLine c member)
    have noLines : (false = true ∨ ∃ c ∈ text, isLineBreak c = true) →
        YamlCursor.isInline '\n' = true ∧ YamlCursor.isInline ' ' = true := by
      rintro (impossible | ⟨c, member, isBreak⟩)
      · cases impossible
      · rw [oneLine c member] at isBreak
        cases isBreak
    intro c member
    rcases List.mem_cons.mp member with rfl | inside
    · rfl
    · have quote : YamlCursor.isInline '\'' = true := rfl
      exact QuotedScalar.forall_singleQuotedFrom quote chars noLines _ _ c inside
  | doubleQuoted =>
    have plain : ∀ c, isEscaped c = false → YamlCursor.isInline c = true := by
      intro c noEscape
      have noMark : c ≠ Char.ofNat 0xfeff := by
        rintro rfl
        cases noEscape
      simp [YamlCursor.isInline, (QuotedScalar.solid_of_not_isEscaped noEscape).1, noMark]
    intro c member
    rcases List.mem_cons.mp member with rfl | inside
    · rfl
    · exact QuotedScalar.forall_doubleQuotedFrom plain rfl rfl (by simp) _ _ _ _ c inside
  | literal => exact fits.elim

/-- A text on one line is not written much longer than it is. -/
theorem length_written_le {style : ScalarStyle} (fits : style.Fits fold false text)
    (oneLine : ∀ c ∈ text, isLineBreak c = false) :
    (style.written fold false writtenColumn text).length ≤ 10 * text.length + 2 := by
  cases style with
  | plain =>
    rw [ScalarStyle.written, plainText_noSplit]
    omega
  | singleQuoted =>
    have within := @QuotedScalar.length_singleQuotedFrom_le fold _ oneLine (writtenColumn + 1) none
    simp only [ScalarStyle.written, singleQuotedText, List.length_cons]
    omega
  | doubleQuoted =>
    have within := @QuotedScalar.length_doubleQuotedFrom_le fold text true (writtenColumn + 1) 0
    simp only [ScalarStyle.written, doubleQuotedText, List.length_cons]
    omega
  | literal => exact fits.elim

/-- A text is read as a key up to its colon. -/
theorem At.fetches_key {style : ScalarStyle}
    (at_ : scan.At (style.written fold false writtenColumn text ++ ':' :: c :: rest) column true
      (indent :: stack) kinds)
    (separator : isSeparator c = true) (fits : style.Fits fold false text) (foldSome : 1 ≤ fold)
    (le : indent ≤ column) :
    ∃ behind, scan.cursor.Reads (style.written fold false writtenColumn text) behind
      ∧ behind.rest = ':' :: c :: rest
      ∧ scan.Fetches (scan.withNode (.scalar (String.ofList text) (style = .plain)) behind false) := by
  cases style with
  | plain =>
    have here := at_.column_eq (by simp)
    have written := at_.rest
    rw [ScalarStyle.written, plainText_noSplit] at written ⊢
    obtain ⟨behind, toBehind, there, reads⟩ := @YamlCursor.plainScalar_key (indent + 1) text
      (c :: rest) scan.cursor fits.1 fits.2.1 fits.2.2 (by simpa using separator) written (by omega)
    exact ⟨behind, toBehind, there,
      at_.fetches_plain fits (by simp) (by simp) (toBehind.length_lt fits.1) reads⟩
  | singleQuoted =>
    obtain ⟨behind, toBehind, there, reads⟩ :=
      YamlCursor.quotedScalar_single foldSome fits.1 fits.2 (by simp) at_.rest
    exact ⟨behind, toBehind, there, '\'', _, at_.rest, at_.fetchAt_quoted (.inl rfl) reads,
      toBehind.length_lt (by simp [singleQuotedText])⟩
  | doubleQuoted =>
    obtain ⟨behind, toBehind, there, reads⟩ :=
      YamlCursor.quotedScalar_double foldSome fits at_.rest
    exact ⟨behind, toBehind, there, '"', _, at_.rest, at_.fetchAt_quoted (.inr rfl) reads,
      toBehind.length_lt (by simp [doubleQuotedText])⟩
  | literal => exact fits.elim

/-- A key with its colon opens a mapping or begins its next entry. -/
theorem Ready.simpleKey {style : ScalarStyle}
    (ready : scan.Ready (style.written fold false writtenColumn text ++ ':' :: c :: rest) column true
      (indent :: stack) kinds)
    (separator : isSeparator c = true) (fits : style.Fits fold false text) (foldSome : 1 ≤ fold)
    (oneLine : ∀ c ∈ text, isLineBreak c = false)
    (short : (style.written fold false writtenColumn text).length ≤ keyLimit) (le : indent ≤ column) :
    ∃ after, scan.Runs after
      ∧ after.At (c :: rest) (column + (style.written fold false writtenColumn text).length + 1) false
        (opened column indent stack) (.value :: .scalar (String.ofList text) (style = .plain) :: .key
          :: (opening .blockMappingStart column indent ++ kinds)) := by
  obtain ⟨settled, settles, at_⟩ := ready
  obtain ⟨behind, toBehind, there, fetches⟩ := at_.fetches_key separator fits foldSome le
  have here := at_.column_eq (by simp)
  obtain ⟨line, inLine⟩ := toBehind.inline (isInline_written fits oneLine)
  have near : behind.mark.index ≤ settled.cursor.mark.index + keyLimit := by
    rw [toBehind.index]
    omega
  let token : YamlToken := .scalar (String.ofList text) (style = .plain)
  have waits : (settled.withNode token behind false).Settles (settled.withNode token behind false) := by
    refine settles_self ?_ (by simp [withNode, there]) (isStale_keysBehind line near) ?_
    · exact there ▸ .cons (by decide) (by decide) rfl
    · obtain ⟨rfl, -⟩ : settled.indent = indent ∧ settled.indents = stack := List.cons.inj at_.levels
      show settled.indent ≤ behind.column
      omega
  have fetches' := at_.fetches_colon token there separator
  have found := at_.behindKey (by simp) token there
  refine ⟨_, (settles.runs fetches).trans (waits.runs fetches'), ?_⟩
  have same : (behind.column : Int) + 1
      = column + (style.written fold false writtenColumn text).length + 1 := by omega
  exact same ▸ found

end YamlScan

end ModelSchema
