import ModelSchema.Proofs.Yaml.Traits
import ModelSchema.Yaml.Token.Scalar

/-!
Plain scalars are read back as they were written.

A text is taken apart into words with spaces between them. The writer may fold a line at a single
space; the reader joins such lines by a space again.

* `Words`: a text as words with spaces between them.
* `plainFrom_word`, `exists_plainFrom_spaces`: how words and the spaces behind them are written.
* `PlainScalar.readWithin_words`: the words are read up to the end of the text.
* `YamlCursor.plainScalar_key`, `YamlCursor.plainScalar_value`: what ends the scalar is a colon or a
  line that is indented less.
-/

namespace ModelSchema

/-! ### Words -/

/-- Whether a text is words with spaces between them. -/
inductive Words : List Char → Prop where
  | last {word : List Char} : word ≠ [] → (∀ c ∈ word, c ≠ ' ') → Words word
  | more {word rest : List Char} {n : Nat} : word ≠ [] → (∀ c ∈ word, c ≠ ' ') →
      rest.head? ≠ some ' ' → Words rest → Words (word ++ (List.replicate (n + 1) ' ' ++ rest))

theorem Words.ne_nil {text : List Char} (words : Words text) : text ≠ [] := by
  cases words with
  | last something => exact something
  | more something => simp [something]

/-- A run of a character, and what follows. -/
theorem exists_run (c : Char) (text : List Char) :
    ∃ n rest, text = List.replicate n c ++ rest ∧ rest.head? ≠ some c := by
  induction text with
  | nil => exact ⟨0, [], rfl, by simp⟩
  | cons d text ih =>
    by_cases same : d = c
    · obtain ⟨n, rest, rfl, stop⟩ := ih
      exact ⟨n + 1, rest, by simp [same, List.replicate_succ], stop⟩
    · exact ⟨0, d :: text, rfl, by simpa using same⟩

/-- A word, and what follows. -/
theorem exists_word (text : List Char) :
    ∃ word rest, text = word ++ rest ∧ (∀ c ∈ word, c ≠ ' ')
      ∧ (rest = [] ∨ rest.head? = some ' ') := by
  induction text with
  | nil => exact ⟨[], [], rfl, by simp, .inl rfl⟩
  | cons c text ih =>
    by_cases space : c = ' '
    · exact ⟨[], c :: text, rfl, by simp, .inr (by simp [space])⟩
    · obtain ⟨word, rest, rfl, noSpace, stop⟩ := ih
      exact ⟨c :: word, rest, rfl, by simpa [space] using noSpace, stop⟩

theorem words_of_ends (text : List Char) (something : text ≠ []) (first : text.head? ≠ some ' ')
    (last : ∀ front, text ≠ front ++ [' ']) : Words text := by
  obtain ⟨word, behind, split, noSpace, stop⟩ := exists_word text
  have wordSome : word ≠ [] := by
    rintro rfl
    rcases stop with nothing | space
    · exact something (by simp [split, nothing])
    · exact first (by simpa [split] using space)
  rcases stop with rfl | space
  · rw [List.append_nil] at split
    exact split ▸ .last wordSome noSpace
  · obtain ⟨n, rest, split', stop⟩ := exists_run ' ' behind
    cases n with
    | zero =>
      rw [List.replicate_zero, List.nil_append] at split'
      exact absurd (split' ▸ space) stop
    | succ n =>
      have restSome : rest ≠ [] := by
        rintro rfl
        refine last (word ++ List.replicate n ' ') ?_
        rw [split, split', List.append_nil, List.replicate_succ', List.append_assoc]
      have shorter : rest.length < text.length := by
        rw [split, split']
        simp only [List.length_append, List.length_replicate]
        omega
      have words := words_of_ends rest restSome stop fun front same =>
        last (word ++ (List.replicate (n + 1) ' ' ++ front)) (by simp [split, split', same])
      rw [split, split']
      exact .more wordSome noSpace stop words
  termination_by text.length

/-! ### Writing -/

section

variable {fold column : Nat} {split : Bool} {before : Option Char} {word rest : List Char}

theorem plainFrom_cons (c : Char) (rest : List Char) :
    plainFrom fold split column before (c :: rest)
      = if c = ' ' && split && before != some ' ' && rest.head? != some ' ' && lineWidth < column then
          newline fold ++ plainFrom fold split fold (some c) rest
        else c :: plainFrom fold split (column + 1) (some c) rest := rfl

/-- A word is written as it is. -/
theorem plainFrom_word (noSpace : ∀ c ∈ word, c ≠ ' ') :
    plainFrom fold split column before (word ++ rest)
      = word ++ plainFrom fold split (column + word.length) (word.getLast?.or before) rest := by
  induction word generalizing column before with
  | nil => simp
  | cons c word ih =>
    have here : c ≠ ' ' := noSpace c List.mem_cons_self
    have last : word.getLast?.or (some c) = (c :: word).getLast?.or before := by
      rw [List.getLast?_cons]
      cases word.getLast? <;> rfl
    rw [List.cons_append, plainFrom_cons, if_neg (by simp [here]),
      ih fun d later => noSpace d (List.mem_cons_of_mem _ later), last, List.length_cons,
      Nat.add_assoc, Nat.add_comm 1]
    rfl

/-- Spaces behind a space are written as they are. -/
theorem plainFrom_replicate (n : Nat) :
    plainFrom fold split column (some ' ') (List.replicate n ' ' ++ rest)
      = List.replicate n ' ' ++ plainFrom fold split (column + n) (some ' ') rest := by
  induction n generalizing column with
  | zero => simp
  | succ n ih =>
    rw [List.replicate_succ, List.cons_append, plainFrom_cons, if_neg (by simp), ih]
    simp [Nat.add_assoc, Nat.add_comm 1]

/-- Spaces behind a word are written as they are, or a single one as a line break. -/
theorem exists_plainFrom_spaces (n : Nat) :
    ∃ gap column', plainFrom fold split column before (List.replicate (n + 1) ' ' ++ rest)
        = gap ++ plainFrom fold split column' (some ' ') rest
      ∧ (gap = List.replicate (n + 1) ' '
        ∨ (n = 0 ∧ split = true ∧ gap = newline fold)) := by
  rw [List.replicate_succ, List.cons_append, plainFrom_cons]
  split
  next folds =>
    simp only [Bool.and_eq_true, decide_eq_true_eq, bne_iff_ne, ne_eq] at folds
    obtain ⟨⟨⟨⟨-, isSplit⟩, -⟩, single⟩, -⟩ := folds
    cases n with
    | zero => exact ⟨_, _, rfl, .inr ⟨rfl, isSplit, rfl⟩⟩
    | succ n => simp [List.replicate_succ] at single
  next =>
    rw [plainFrom_replicate]
    exact ⟨' ' :: List.replicate n ' ', _, rfl, .inl rfl⟩

end

/-- Every character of a plain scalar is one of the text or belongs to a fold. -/
theorem forall_plainFrom {holds : Char → Prop} {fold : Nat} {split : Bool} {text : List Char}
    (chars : ∀ c ∈ text, holds c) (folds : split = true → holds '\n' ∧ holds ' ') (column : Nat)
    (before : Option Char) : ∀ c ∈ plainFrom fold split column before text, holds c := by
  induction text generalizing column before with
  | nil => exact fun c inside => absurd inside List.not_mem_nil
  | cons c text ih =>
    have here : holds c := chars c List.mem_cons_self
    have later := ih fun d inside => chars d (List.mem_cons_of_mem _ inside)
    rw [plainFrom_cons]
    split
    next folded =>
      simp only [Bool.and_eq_true] at folded
      obtain ⟨newline, blank⟩ := folds folded.1.1.1.2
      intro d member
      simp only [ModelSchema.newline, List.cons_append, List.mem_cons, List.mem_append] at member
      rcases member with rfl | blanks | rest
      · exact newline
      · rw [List.eq_of_mem_replicate blanks]
        exact blank
      · exact later _ _ d rest
    next => exact fun d member => (List.mem_cons.mp member).elim (· ▸ here) (later _ _ d)

/-! ### Reading -/

namespace PlainScalar

/-- In a block a chunk ends at a separator, or at a colon in front of one. -/
theorem chunk_cons (c : Char) (rest : List Char) :
    chunk false (c :: rest)
      = if isSeparator c || (c = ':' && rest.head?.all isSeparator) then []
        else c :: chunk false rest := by
  show (if isSeparator c then []
    else if c = ':' && (rest.head?.all isSeparator || false) then []
    else c :: chunk false rest) = _
  rw [Bool.or_false]
  cases isSeparator c <;> rfl

/-- The characters of a word are read up to where the next chunk would be empty. -/
theorem chunk_word {word tail : List Char} (noSeparator : ∀ c ∈ word, isSeparator c = false)
    (colon : ∀ front rest, word = front ++ ':' :: rest →
      (rest ++ tail).head?.all isSeparator = false)
    (stop : chunk false tail = []) : chunk false (word ++ tail) = word := by
  induction word with
  | nil => exact stop
  | cons c word ih =>
    have here := noSeparator c List.mem_cons_self
    have later := ih (fun d inside => noSeparator d (List.mem_cons_of_mem _ inside))
      fun front rest same => colon (c :: front) rest (by simp [same])
    have notColon : (c = ':' && (word ++ tail).head?.all isSeparator) = false := by
      by_cases same : c = ':'
      · subst same
        simpa using colon [] word rfl
      · simp [same]
    rw [List.cons_append, chunk_cons, later, here, notColon]
    rfl

theorem chunk_space {rest : List Char} : chunk false (' ' :: rest) = [] := rfl

theorem chunk_newline {rest : List Char} : chunk false ('\n' :: rest) = [] := rfl

/-- A colon with a gap behind it ends a chunk. -/
theorem chunk_colon {rest : List Char} (open_ : rest.head?.all isSeparator = true) :
    chunk false (':' :: rest) = [] := by
  rw [chunk_cons, open_]
  rfl

/-- Whether a text does not begin with a space or a line break. -/
def StartsSolid (text : List Char) : Prop :=
  text.head?.any (· = ' ') = false ∧ text.head?.any isLineBreak = false

section

variable {cursor : YamlCursor} {rest : List Char}

/-- Spaces on a line stand for themselves. -/
theorem gap_spaces {n : Nat} (split : cursor.rest = List.replicate n ' ' ++ rest)
    (solid : StartsSolid rest) :
    ∃ behind, cursor.Reads (List.replicate n ' ') behind ∧ behind.rest = rest
      ∧ gap cursor = (List.replicate n ' ', false, behind) := by
  obtain ⟨behind, reads, there, taken⟩ := YamlCursor.takeWhile_eq (· = ' ') split
    (by simp) (by simpa using solid.1)
  refine ⟨behind, reads, there, ?_⟩
  have noBreak := YamlCursor.lineBreak?_eq_none (there ▸ solid.2)
  rw [gap, taken]
  simp [noBreak]

/-- No further line breaks come where the next line begins. -/
theorem breaksWithin_spaces {n : Nat} (split : cursor.rest = List.replicate (n + 1) ' ' ++ rest)
    (solid : StartsSolid rest) :
    ∃ behind, cursor.Reads (List.replicate (n + 1) ' ') behind ∧ behind.rest = rest
      ∧ ∀ fuel, breaksWithin (fuel + 1) cursor = (some [], behind) := by
  obtain ⟨behind, reads, there, dropped⟩ := YamlCursor.dropWhile_eq (· = ' ') split
    (by simp) (by simpa using solid.1)
  refine ⟨behind, reads, there, ?_⟩
  have noMark : cursor.isAtDocumentMark = false := YamlCursor.isAtDocumentMark_space split
  have noBreak := YamlCursor.lineBreak?_eq_none (there ▸ solid.2)
  intro fuel
  rw [breaksWithin, if_neg (by simp [noMark]), dropped]
  simp [noBreak]

/-- A folded line stands for a space. -/
theorem gap_folded {n : Nat} (split : cursor.rest = newline (n + 1) ++ rest)
    (solid : StartsSolid rest) :
    ∃ behind, cursor.Reads (newline (n + 1)) behind ∧ behind.rest = rest
      ∧ gap cursor = ([' '], true, behind) := by
  have split : cursor.rest = '\n' :: (List.replicate (n + 1) ' ' ++ rest) := split
  obtain ⟨line, toLine, there, broken⟩ := YamlCursor.lineBreak?_newline split
  obtain ⟨behind, reads, there', read⟩ := breaksWithin_spaces there solid
  refine ⟨behind, toLine.trans reads, there', ?_⟩
  have fuel : line.rest.length = (n + rest.length) + 1 := by simp [there]; omega
  rw [gap, YamlCursor.takeWhile_eq_nil (by simp [split])]
  simp [broken, fuel, read]

/-- Where the next line is indented less the scalar ends, with what stands in front of that line or
in front of a mark between documents. -/
theorem gap_newline {n : Nat} (split : cursor.rest = '\n' :: (List.replicate n ' ' ++ rest))
    (solid : StartsSolid rest) :
    ∃ behind after, cursor.Reads ('\n' :: List.replicate n ' ') behind ∧ behind.rest = rest
      ∧ gap cursor = (after, true, behind) := by
  cases n with
  | succ n =>
    obtain ⟨behind, reads, there, read⟩ := gap_folded split solid
    exact ⟨behind, _, reads, there, read⟩
  | zero =>
    obtain ⟨line, toLine, there, broken⟩ := YamlCursor.lineBreak?_newline split
    have there : line.rest = rest := there
    have noBreak := YamlCursor.lineBreak?_eq_none (there ▸ solid.2)
    have stays : ∀ fuel, ∃ breaks, breaksWithin fuel line = (breaks, line) := by
      intro fuel
      cases fuel with
      | zero => exact ⟨_, rfl⟩
      | succ fuel =>
        rw [breaksWithin]
        split
        next => exact ⟨none, rfl⟩
        next =>
          rw [YamlCursor.dropWhile_eq_self (by simpa [there] using solid.1)]
          simp [noBreak]
    obtain ⟨breaks, stays⟩ := stays line.rest.length
    rw [gap, YamlCursor.takeWhile_eq_nil (by simp [split])]
    cases breaks with
    | none => exact ⟨line, [], toLine, there, by simp [broken, stays]⟩
    | some breaks => exact ⟨line, _, toLine, there, by simp [broken, stays]; rfl⟩

end

/-! ### Words in a row -/

section

variable {fold column : Nat} {split : Bool} {indent : Int} {text word rest tail : List Char}
  {before : Option Char} {cursor : YamlCursor}

/-- What is left to do behind the last word: the scalar ends there. -/
def EndsAt (indent : Int) (cursor : YamlCursor) (lineBroken : Bool) (behind : YamlCursor) : Prop :=
  ∃ after, gap cursor = (after, lineBroken, behind)
    ∧ (after = [] ∨ behind.peek = some '#' ∨ behind.column < indent)

/-- A word of a text is read as one chunk. -/
theorem chunk_of_plain (plain : PlainText (word ++ rest)) (noSpace : ∀ c ∈ word, c ≠ ' ')
    (gap : rest = [] ∨ rest.head? = some ' ') (stop : chunk false tail = []) :
    chunk false (word ++ tail) = word := by
  have noSeparator : ∀ c ∈ word, isSeparator c = false := by
    intro c member
    refine Bool.eq_false_iff.mpr fun separator => noSpace c member ?_
    exact eq_space_of_isSeparator (plain.inline.writable c (List.mem_append_left _ member))
      (plain.inline.noBreak c (List.mem_append_left _ member)) separator
  refine chunk_word noSeparator (fun front more same => ?_) stop
  have colon := plain.colon front (more ++ rest) (by simp [same])
  cases more with
  | cons c more => exact colon
  | nil =>
    -- Then the colon stands at the end of the text or in front of a space.
    rcases gap with nothing | space
    · simp [nothing] at colon
    · simp [space, isSeparator] at colon

/-- A word of a text is read, and what follows when the scalar goes on behind the gap. -/
theorem readWithin_word {last behind : YamlCursor} {after : List Char} {lineBroken : Bool}
    (something : word ≠ []) (noComment : word.head? ≠ some '#')
    (split : cursor.rest = word ++ tail) (chunks : chunk false cursor.rest = word)
    (reads : cursor.Reads word last) (gap : gap last = (after, lineBroken, behind)) (fuel : Nat)
    (read : PlainScalarRead) (gapChars : List Char) :
    readWithin false indent (fuel + 1) read gapChars cursor
      = if after = [] ∨ behind.peek = some '#' ∨ behind.column < indent then
          (⟨read.text ++ gapChars ++ word, lineBroken⟩, behind)
        else readWithin false indent fuel ⟨read.text ++ gapChars ++ word, lineBroken⟩ after behind := by
  have first : cursor.peek ≠ some '#' := by
    rw [YamlCursor.peek, split]
    cases word with
    | nil => exact absurd rfl something
    | cons c word => simpa using noComment
  rw [readWithin, chunks, if_neg (by simp [first, something]), reads.skip_eq, gap]
  simp [or_assoc]

/-- A text that begins with a word begins with its first character also when it is written. -/
theorem startsSolid_plainFrom (something : text ≠ []) (plain : PlainText text)
    (noSpace : text.head? ≠ some ' ') :
    StartsSolid (plainFrom fold split column before text ++ tail)
      ∧ (plainFrom fold split column before text ++ tail).head? = text.head? := by
  cases text with
  | nil => exact absurd rfl something
  | cons c text =>
    have here : c ≠ ' ' := by simpa using noSpace
    have noBreak := plain.inline.noBreak c List.mem_cons_self
    rw [plainFrom_cons, if_neg (by simp [here])]
    exact ⟨⟨by simpa using here, by simpa using noBreak⟩, rfl⟩

/-- Whatever spaces between words are written as, they are read as a gap behind which the scalar can go
on. -/
theorem gap_written {gapText : List Char} {n : Nat}
    (isWritten : gapText = List.replicate (n + 1) ' ' ∨ n = 0 ∧ split = true ∧ gapText = newline fold)
    (folds : split = true → 1 ≤ fold ∧ indent ≤ fold) (atGap : cursor.rest = gapText ++ rest)
    (solid : StartsSolid rest) (indented : indent ≤ cursor.column) :
    chunk false (gapText ++ rest) = [] ∧ ∃ behind, cursor.Reads gapText behind ∧ behind.rest = rest
      ∧ ∃ lineBroken, gap cursor = (List.replicate (n + 1) ' ', lineBroken, behind)
        ∧ indent ≤ behind.column := by
  rcases isWritten with rfl | ⟨rfl, isSplit, rfl⟩
  · obtain ⟨behind, reads, there, gapIs⟩ := gap_spaces atGap solid
    have column := (reads.inline (by simp [YamlCursor.isInline, isLineBreak])).2
    exact ⟨chunk_space, behind, reads, there, false, gapIs, by omega⟩
  · obtain ⟨some, wide⟩ := folds isSplit
    obtain ⟨width, rfl⟩ : ∃ width, fold = width + 1 := Nat.exists_eq_add_of_le' some
    obtain ⟨behind, reads, there, gapIs⟩ := gap_folded atGap solid
    have toLine : cursor.Reads ([] ++ '\n' :: List.replicate (width + 1) ' ') behind := reads
    have column := (toLine.newLine rfl (by simp [YamlCursor.isInline, isLineBreak])).2
    rw [List.length_replicate] at column
    exact ⟨chunk_newline, behind, reads, there, true, gapIs, by omega⟩

/-- No comment begins behind spaces in a plain text. -/
theorem head?_ne_hash {n : Nat} (plain : PlainText (word ++ List.replicate (n + 1) ' ' ++ rest)) :
    rest.head? ≠ some '#' := by
  intro same
  obtain ⟨more, rfl⟩ : ∃ more, rest = '#' :: more := List.head?_eq_some_iff.mp same
  exact plain.hash (word ++ List.replicate n ' ') more (by simp [List.replicate_succ'])

/-- A text is read as it was written, up to where the scalar ends. -/
theorem readWithin_words (words : Words text) (plain : PlainText text)
    (noSpace : text.head? ≠ some ' ') (noComment : text.head? ≠ some '#')
    (stop : chunk false tail = []) (folds : split = true → 1 ≤ fold ∧ indent ≤ fold) :
    ∀ {column : Nat} {before : Option Char} {cursor : YamlCursor},
      cursor.rest = plainFrom fold split column before text ++ tail → indent ≤ cursor.column + 1 →
      ∃ last, cursor.Reads (plainFrom fold split column before text) last ∧ last.rest = tail
        ∧ ∀ {lineBroken : Bool} {behind : YamlCursor}, EndsAt indent last lineBroken behind →
          ∀ (fuel : Nat) (read : PlainScalarRead) (gapChars : List Char),
            cursor.rest.length ≤ fuel → readWithin false indent fuel read gapChars cursor
              = (⟨read.text ++ gapChars ++ text, lineBroken⟩, behind) := by
  induction words with
  | @last word something inWord =>
    intro column before cursor rest indented
    have written : plainFrom fold split column before word = word := by
      have := @plainFrom_word fold column split before word [] inWord
      rw [List.append_nil] at this
      exact this.trans (List.append_nil word)
    rw [written] at rest ⊢
    have chunks : chunk false cursor.rest = word := by
      rw [rest]
      exact chunk_of_plain (by simpa using plain) inWord (.inl rfl) stop
    obtain ⟨last, reads, there⟩ := YamlCursor.exists_reads rest
    refine ⟨last, reads, there, ?_⟩
    rintro lineBroken behind ⟨after, gap, ends⟩ fuel read gapChars enough
    cases fuel with
    | zero => simp [rest, something] at enough
    | succ fuel =>
      rw [readWithin_word something noComment rest chunks reads gap, if_pos ends]
  | @more word rest n something inWord single words ih =>
    intro column before cursor written indented
    have plainWords := plain
    rw [← List.append_assoc] at plainWords
    have noComment' := head?_ne_hash plainWords
    obtain ⟨gapText, column', spaces, isWritten⟩ :=
      @exists_plainFrom_spaces fold (column + word.length) split (word.getLast?.or before) rest n
    rw [plainFrom_word inWord, spaces] at written
    simp only [List.append_assoc] at written
    rw [plainFrom_word inWord, spaces]
    obtain ⟨solid, first⟩ := @startsSolid_plainFrom fold column' split rest tail (some ' ')
      words.ne_nil plainWords.suffix single
    obtain ⟨wordEnd, toEnd, there⟩ := YamlCursor.exists_reads written
    have wordColumn := (toEnd.inline fun c member =>
      isInline_of_isWritable (plain.inline.writable c (List.mem_append_left _ member))
        (plain.inline.noBreak c (List.mem_append_left _ member))).2
    have positive := List.length_pos_iff.mpr something
    obtain ⟨chunkStop, behind, toBehind, there, lineBroken', gapIs, indented'⟩ :=
      gap_written isWritten folds there solid (by omega)
    obtain ⟨last, toLast, atTail, goesOn⟩ := ih plainWords.suffix single noComment' there (by omega)
    refine ⟨last, ?_, atTail, ?_⟩
    · simpa [List.append_assoc] using (toEnd.trans toBehind).trans toLast
    · intro lineBroken final ends fuel read gapChars enough
      have chunks : chunk false cursor.rest = word := by
        rw [written]
        exact chunk_of_plain plain inWord (.inr (by simp [List.replicate_succ])) chunkStop
      have peek : behind.peek ≠ some '#' := by
        rw [YamlCursor.peek, there, first]
        exact noComment'
      cases fuel with
      | zero => simp [written, something] at enough
      | succ fuel =>
        have shorter : behind.rest.length ≤ fuel := by
          have length := congrArg List.length written
          rw [there]
          simp only [List.length_append] at length ⊢
          omega
        rw [readWithin_word something (by simpa [something] using noComment) written chunks toEnd
          gapIs, if_neg (by simp [peek]; omega), goesOn ends fuel _ _ shorter]
        simp [List.append_assoc]

end

end PlainScalar

/-! ### Whole scalars -/

/-- Without folds a plain text is written as it is. -/
theorem plainText_noSplit {fold column : Nat} (text : List Char) :
    plainText fold false column text = text := by
  have each : ∀ (text : List Char) (column : Nat) (before : Option Char),
      plainFrom fold false column before text = text := by
    intro text
    induction text with
    | nil => intros; rfl
    | cons c text ih =>
      intro column before
      rw [plainFrom_cons, if_neg (by simp), ih]
  exact each text column none

namespace YamlCursor

open PlainScalar

section

variable {fold column : Nat} {split : Bool} {indent : Int} {text rest : List Char}
  {cursor : YamlCursor} (something : text ≠ []) (plain : PlainText text) (ends : PlainEnds text)
include something plain ends

/-- The text is read up to where the scalar ends. -/
theorem plainScalar_eq {tail : List Char} (stop : chunk false tail = [])
    (folds : split = true → 1 ≤ fold ∧ indent ≤ fold)
    (written : cursor.rest = plainText fold split column text ++ tail)
    (indented : indent ≤ cursor.column + 1) :
    ∃ last, cursor.Reads (plainText fold split column text) last ∧ last.rest = tail
      ∧ ∀ {lineBroken : Bool} {behind : YamlCursor}, EndsAt indent last lineBroken behind →
        cursor.plainScalar false indent = (⟨text, lineBroken⟩, behind) := by
  have noSpace : text.head? ≠ some ' ' := by
    intro same
    obtain ⟨rest, rfl⟩ := List.head?_eq_some_iff.mp same
    exact (ends.first ' ' rest rfl).2.1 rfl
  have noComment : text.head? ≠ some '#' := by
    intro same
    obtain ⟨rest, rfl⟩ := List.head?_eq_some_iff.mp same
    have noIndicator := (ends.first '#' rest rfl).1
    revert noIndicator
    decide
  have words := words_of_ends text something noSpace ends.last
  obtain ⟨last, reads, there, goesOn⟩ :=
    readWithin_words words plain noSpace noComment stop folds written indented
  refine ⟨last, reads, there, fun ending => ?_⟩
  have whole := goesOn ending cursor.rest.length ⟨[], false⟩ [] (Nat.le_refl _)
  simpa [plainScalar] using whole

/-- A key is read up to its colon. -/
theorem plainScalar_key (open_ : rest.head?.all isSeparator = true)
    (written : cursor.rest = text ++ ':' :: rest) (indented : indent ≤ cursor.column + 1) :
    ∃ behind, cursor.Reads text behind ∧ behind.rest = ':' :: rest
      ∧ cursor.plainScalar false indent = (⟨text, false⟩, behind) := by
  have written' : cursor.rest = plainText 0 false 0 text ++ ':' :: rest := by
    rw [plainText_noSplit]
    exact written
  obtain ⟨last, reads, there, whole⟩ :=
    plainScalar_eq something plain ends (chunk_colon open_) (by simp) written' indented
  rw [plainText_noSplit] at reads
  have there' : last.rest = List.replicate 0 ' ' ++ ':' :: rest := there
  obtain ⟨behind, stays, -, gapIs⟩ := gap_spaces there' ⟨rfl, rfl⟩
  have same := (Reads.refl last).unique stays
  subst same
  exact ⟨last, reads, there, whole ⟨[], gapIs, .inl rfl⟩⟩

/-- A value is read up to a line that is indented less. -/
theorem plainScalar_value {n : Nat} (folds : split = true → 1 ≤ fold ∧ indent ≤ fold)
    (written : cursor.rest
      = plainText fold split column text ++ '\n' :: (List.replicate n ' ' ++ rest))
    (indented : indent ≤ cursor.column + 1) (solid : StartsSolid rest) (less : (n : Int) < indent) :
    ∃ behind, cursor.Reads (plainText fold split column text ++ '\n' :: List.replicate n ' ') behind
      ∧ behind.rest = rest ∧ cursor.plainScalar false indent = (⟨text, true⟩, behind) := by
  obtain ⟨last, reads, there, whole⟩ :=
    plainScalar_eq something plain ends chunk_newline folds written indented
  obtain ⟨behind, after, toBehind, atRest, gapIs⟩ := gap_newline there solid
  have toLine : last.Reads ([] ++ '\n' :: List.replicate n ' ') behind := toBehind
  have column := (toLine.newLine rfl (by simp [isInline, isLineBreak])).2
  rw [List.length_replicate] at column
  exact ⟨behind, reads.trans toBehind, atRest, whole ⟨after, gapIs, .inr (.inr (by omega))⟩⟩

/-- A text on its own is read up to the mark that ends the document. -/
theorem plainScalar_document (folds : split = true → 1 ≤ fold ∧ indent ≤ fold)
    (written : cursor.rest = plainText fold split column text ++ '\n' :: '.' :: '.' :: '.' :: rest)
    (indented : indent ≤ cursor.column + 1) (open_ : rest.head?.all isSeparator = true) :
    ∃ behind, cursor.Reads (plainText fold split column text ++ ['\n']) behind
      ∧ behind.rest = '.' :: '.' :: '.' :: rest
      ∧ cursor.plainScalar false indent = (⟨text, true⟩, behind) := by
  obtain ⟨last, reads, there, whole⟩ :=
    plainScalar_eq something plain ends chunk_newline folds written indented
  obtain ⟨line, toLine, atMark, broken⟩ := lineBreak?_newline there
  have mark : line.isAtDocumentMark = true := by
    have atEnd : ('.' :: '.' :: '.' :: rest)[3]? = rest.head? := by cases rest <;> rfl
    rw [isAtDocumentMark, isSeparated, peekAt, atMark, atEnd, open_]
    rfl
  have stops : ∀ fuel, breaksWithin (fuel + 1) line = (none, line) := fun fuel => by
    rw [breaksWithin, if_pos mark]
  have gapIs : gap last = ([], true, line) := by
    rw [gap, takeWhile_eq_nil (by simp [there])]
    have fuel : line.rest.length = (rest.length + 2) + 1 := by simp [atMark]
    simp only [broken, fuel, stops]
  exact ⟨line, reads.trans toLine, atMark, whole ⟨[], gapIs, .inl rfl⟩⟩

end

end YamlCursor

end ModelSchema
