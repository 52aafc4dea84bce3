import ModelSchema.Proofs.Yaml.Quoted

/-!
Texts in single quotes are read back as they were written.

A line break takes two, of which the reader drops one, and a quote takes two as well. A folded line
stands for a space.

* `QuotedScalar.exists_gap_breaks`: line breaks in a row, which are read at once.
* `QuotedScalar.content_single`: what stands between the quotes.
* `YamlCursor.quotedScalar_single`: a whole scalar.

A next line character is read as a line break, so texts with one are left out.
-/

namespace ModelSchema

namespace QuotedScalar

variable {start : YamlMark} {cursor after : YamlCursor} {rest tail : List Char} {c : Char}

variable {fold column : Nat} {isSplit : Bool} {before : Option Char} {text : List Char}

/-- How the line break that comes next is read, unless it is a next line character. -/
theorem lineBreak?_kept (split : cursor.rest = c :: rest) (isBreak : isLineBreak c = true)
    (noNext : c ≠ '\u0085') :
    ∃ after, cursor.Reads [c] after ∧ after.rest = rest
      ∧ cursor.lineBreak? = some (c, after) := by
  obtain ⟨reads, there⟩ := YamlCursor.reads_next split
  refine ⟨_, reads, there, ?_⟩
  by_cases newline : c = '\n'
  · simp [YamlCursor.lineBreak?, YamlCursor.peek, split, newline]
  · simp [YamlCursor.lineBreak?, YamlCursor.peek, split, newline, noNext, isBreak]

/-- The line breaks behind one, with the indentation of the next line. -/
def runFrom (fold : Nat) (isSplit : Bool) (before : Option Char) (text : List Char) : List Char :=
  (if text.head?.any isLineBreak then [] else List.replicate fold ' ')
    ++ singleQuotedFrom fold isSplit fold before text

/-- A line break behind another is written as it is. -/
theorem runFrom_cons (isBreak : isLineBreak c = true) (behindBreak : before.any isLineBreak = true) :
    runFrom fold isSplit before (c :: rest) = c :: runFrom fold isSplit (some c) rest := by
  have notSpace : c ≠ ' ' := by
    rintro rfl
    cases isBreak
  simp [runFrom, singleQuotedFrom, isBreak, notSpace, behindBreak]

/-- A text that begins with no gap begins solidly when it is written. -/
theorem solid_singleQuotedFrom (writable : ∀ c ∈ text, isWritable c = true)
    (noSpace : text.head? ≠ some ' ') (noBreak : text.head?.any isLineBreak = false) :
    Solid (singleQuotedFrom fold isSplit column before text ++ tail) := by
  cases text with
  | nil => exact ⟨_, _, rfl, rfl, rfl⟩
  | cons c text =>
    have here : c ≠ ' ' := by simpa using noSpace
    have noBreak : isLineBreak c = false := by simpa using noBreak
    have noTab : c ≠ '\t' := by
      rintro rfl
      cases writable '\t' List.mem_cons_self
    rw [singleQuotedFrom]
    by_cases quote : c = '\''
    · subst quote
      exact ⟨'\'', _, by simp [isLineBreak]; rfl, rfl, rfl⟩
    · refine ⟨c, _, by simp [here, noBreak, quote]; rfl, ?_, noBreak⟩
      simp [isBlankChar, here, noTab]

/-- A line break is neither a blank nor the beginning of a mark between documents. -/
theorem isBlankChar_of_isLineBreak (isBreak : isLineBreak c = true) : isBlankChar c = false := by
  refine Bool.eq_false_iff.mpr fun blank => ?_
  simp only [isBlankChar, Bool.or_eq_true, decide_eq_true_eq] at blank
  rcases blank with rfl | rfl <;> cases isBreak

theorem isAtDocumentMark_lineBreak (split : cursor.rest = c :: rest) (isBreak : isLineBreak c = true) :
    cursor.isAtDocumentMark = false := by
  have noMark : ScalarTraits.isDocumentMark (c :: rest) = false := by
    unfold ScalarTraits.isDocumentMark
    split
    next same =>
      cases same
      cases isBreak
    next same =>
      cases same
      cases isBreak
    next => rfl
  rw [YamlCursor.isAtDocumentMark, split, noMark, Bool.false_and]

/-- The line breaks behind one are read as they are, up to what follows them. -/
theorem breaksWithin_runFrom (start : YamlMark) (foldSome : 1 ≤ fold) (single : SingleText text)
    (noNext : '\u0085' ∉ text) (behindBreak : before.any isLineBreak = true)
    (noSpace : text.head? ≠ some ' ')
    (written : cursor.rest = runFrom fold isSplit before text ++ tail) :
    ∃ run rest before' after, text = run ++ rest ∧ rest.head?.any isLineBreak = false
      ∧ rest.head? ≠ some ' '
      ∧ runFrom fold isSplit before text
        = (run ++ List.replicate fold ' ') ++ singleQuotedFrom fold isSplit fold before' rest
      ∧ cursor.Reads (run ++ List.replicate fold ' ') after
      ∧ after.rest = singleQuotedFrom fold isSplit fold before' rest ++ tail
      ∧ ∀ fuel, cursor.rest.length ≤ fuel → breaksWithin start fuel cursor = .ok (run, after) := by
  induction text generalizing before cursor with
  | nil =>
    obtain ⟨n, rfl⟩ := Nat.exists_eq_add_of_le' foldSome
    have written : cursor.rest
        = List.replicate (n + 1) ' ' ++ (singleQuotedFrom (n + 1) isSplit (n + 1) before [] ++ tail) := by
      simpa [runFrom] using written
    obtain ⟨after, reads, there, read⟩ :=
      breaksWithin_spaces start written (solid_singleQuotedFrom (by simp) (by simp) rfl)
    refine ⟨[], [], before, after, rfl, rfl, by simp, by simp [runFrom], reads, there, ?_⟩
    intro fuel enough
    cases fuel with
    | zero => simp [written] at enough
    | succ fuel => exact read fuel
  | cons c text ih =>
    by_cases isBreak : isLineBreak c = true
    · have differs : c ≠ '\u0085' := fun same => noNext (same ▸ List.mem_cons_self)
      rw [runFrom_cons isBreak behindBreak, List.cons_append] at written
      obtain ⟨line, toLine, there, broken⟩ := lineBreak?_kept written isBreak differs
      obtain ⟨run, rest, before', after, parts, noBreak, noGap, same, reads, atRest, read⟩ :=
        @ih line (some c) single.tail (fun inside => noNext (List.mem_cons_of_mem _ inside)) isBreak
          (single.noSpace_behindBreak isBreak) there
      refine ⟨c :: run, rest, before', after, by simp [parts], noBreak, noGap, ?_,
        toLine.trans reads, atRest, ?_⟩
      · rw [runFrom_cons isBreak behindBreak, same]
        rfl
      · intro fuel enough
        have shorter := toLine.length_lt (by simp)
        cases fuel with
        | zero => omega
        | succ fuel =>
          rw [breaksWithin, if_neg (by simp [isAtDocumentMark_lineBreak written isBreak]),
            YamlCursor.dropWhile_eq_self (by simp [written, isBlankChar_of_isLineBreak isBreak])]
          simp [broken, read fuel (by omega), Except.map]
    · have noBreak : isLineBreak c = false := Bool.eq_false_iff.mpr isBreak
      obtain ⟨n, rfl⟩ := Nat.exists_eq_add_of_le' foldSome
      have same : runFrom (n + 1) isSplit before (c :: text) = List.replicate (n + 1) ' '
          ++ singleQuotedFrom (n + 1) isSplit (n + 1) before (c :: text) := by
        simp [runFrom, noBreak]
      rw [same, List.append_assoc] at written
      obtain ⟨after, reads, there, read⟩ := breaksWithin_spaces start written
        (solid_singleQuotedFrom single.writable noSpace (by simpa using noBreak))
      refine ⟨[], c :: text, before, after, rfl, by simpa using noBreak, noSpace, same, reads,
        there, ?_⟩
      intro fuel enough
      cases fuel with
      | zero => simp [written] at enough
      | succ fuel => exact read fuel

/-- A line break is read with those behind it. -/
theorem gap_break {line : YamlCursor} {run : List Char} (split : cursor.rest = c :: rest)
    (isBreak : isLineBreak c = true) (noNext : c ≠ '\u0085') (toLine : cursor.Reads [c] line)
    (read : breaksWithin start line.rest.length line = .ok (run, after)) :
    gap start cursor
      = .ok ((if c != '\n' then [c] else if run.isEmpty then [' '] else []) ++ run, after) := by
  obtain ⟨line', toLine', -, broken⟩ := lineBreak?_kept split isBreak noNext
  have same := toLine'.unique toLine
  subst same
  rw [gap, YamlCursor.takeWhile_eq_nil (by simp [split, isBlankChar_of_isLineBreak isBreak])]
  simp [broken, read, Except.map]

/-- Behind a space come further blanks, and then no line break. -/
theorem exists_blanks (single : SingleText (' ' :: text)) :
    ∃ blanks rest, singleQuotedFrom fold isSplit column (some ' ') text ++ tail = blanks ++ rest
      ∧ (∀ c ∈ blanks, isBlankChar c = true) ∧ Solid rest := by
  induction text generalizing column with
  | nil => exact ⟨[], _, rfl, by simp, _, _, rfl, rfl, rfl⟩
  | cons c text ih =>
    by_cases space : c = ' '
    · subst space
      obtain ⟨blanks, rest, split, all, solid⟩ := @ih (column + 1) single.tail
      refine ⟨' ' :: blanks, rest, ?_, by simpa [isBlankChar] using all, solid⟩
      rw [singleQuotedFrom, if_pos rfl, if_neg (by simp), List.cons_append, split, List.cons_append]
    · have noBreak : isLineBreak c = false := single.spaceBreak [] c text rfl
      exact ⟨[], _, rfl, by simp, solid_singleQuotedFrom single.tail.writable (by simpa using space)
        (by simpa using noBreak)⟩

/-- The line breaks that come next are read at once, up to a character that is no gap. -/
theorem exists_gap_breaks (start : YamlMark) (foldSome : 1 ≤ fold) (single : SingleText (c :: text))
    (noNext : '\u0085' ∉ c :: text) (isBreak : isLineBreak c = true)
    (first : before.any isLineBreak = false)
    (written : cursor.rest = singleQuotedFrom fold isSplit column before (c :: text) ++ tail) :
    ∃ run rest before' read after, c :: text = run ++ rest ∧ run ≠ []
      ∧ rest.head?.any isLineBreak = false
      ∧ singleQuotedFrom fold isSplit column before (c :: text)
        = (c :: read) ++ singleQuotedFrom fold isSplit fold before' rest
      ∧ cursor.Reads (c :: read) after
      ∧ after.rest = singleQuotedFrom fold isSplit fold before' rest ++ tail
      ∧ gap start cursor = .ok (run, after) := by
  have differs : c ≠ '\u0085' := fun same => noNext (same ▸ List.mem_cons_self)
  by_cases newline : c = '\n'
  · subst newline
    -- A line break is doubled, and the second one stands for it.
    have same : singleQuotedFrom fold isSplit column before ('\n' :: text)
        = '\n' :: runFrom fold isSplit (some '\n') ('\n' :: text) := by
      rw [runFrom_cons isBreak rfl]
      simp [singleQuotedFrom, isBreak, first, runFrom]
    rw [same, List.cons_append] at written
    rw [same]
    obtain ⟨toLine, there⟩ := YamlCursor.reads_next written
    obtain ⟨run, rest, before', after, parts, noBreak, -, sameRun, reads, atRest, read⟩ :=
      breaksWithin_runFrom start foldSome single noNext (by rfl) (by simp) there
    have runSome : run ≠ [] := by
      rintro rfl
      rw [List.nil_append] at parts
      simp [← parts, isBreak] at noBreak
    refine ⟨run, rest, before', _, after, parts, runSome, noBreak, ?_, toLine.trans reads, atRest, ?_⟩
    · rw [sameRun]
      rfl
    · rw [gap_break written isBreak differs toLine (read _ (Nat.le_refl _))]
      simp [runSome]
  · have same : singleQuotedFrom fold isSplit column before (c :: text)
        = c :: runFrom fold isSplit (some c) text := by
      have space : c ≠ ' ' := by
        rintro rfl
        cases isBreak
      simp [singleQuotedFrom, isBreak, space, newline, runFrom]
    rw [same, List.cons_append] at written
    rw [same]
    obtain ⟨toLine, there⟩ := YamlCursor.reads_next written
    obtain ⟨run, rest, before', after, rfl, noBreak, -, sameRun, reads, atRest, read⟩ :=
      breaksWithin_runFrom start foldSome single.tail
        (fun inside => noNext (List.mem_cons_of_mem _ inside)) (by simpa using isBreak)
        (single.noSpace_behindBreak isBreak) there
    refine ⟨c :: run, rest, before', _, after, rfl, by simp, noBreak, ?_, toLine.trans reads, atRest,
      ?_⟩
    · rw [sameRun]
      rfl
    · rw [gap_break written isBreak differs toLine (read _ (Nat.le_refl _)),
        if_pos (by simpa using newline)]
      rfl

/-- Behind a space a text in single quotes goes on as it began. -/
theorem content_single_space (single : SingleText (' ' :: text)) (foldSome : 1 ≤ fold)
    (written : cursor.rest = singleQuotedFrom fold isSplit column before (' ' :: text) ++ tail) :
    ∃ column' read after, singleQuotedFrom fold isSplit column before (' ' :: text)
        = read ++ singleQuotedFrom fold isSplit column' (some ' ') text
      ∧ cursor.Reads read after
      ∧ after.rest = singleQuotedFrom fold isSplit column' (some ' ') text ++ tail
      ∧ ∀ {out : List Char} {behind : YamlCursor}, Content false start after out behind →
        Content false start cursor (' ' :: out) behind := by
  rw [singleQuotedFrom, if_pos rfl] at written ⊢
  split at written
  next folds =>
    rw [if_pos folds]
    simp only [Bool.and_eq_true, bne_iff_ne, ne_eq] at folds
    have noBreak : text.head?.any isLineBreak = false := by
      cases text with
      | nil => rfl
      | cons d text => exact single.spaceBreak [] d text rfl
    rw [List.append_assoc] at written
    obtain ⟨line, toLine, there⟩ := YamlCursor.exists_reads written
    obtain ⟨n, rfl⟩ := Nat.exists_eq_add_of_le' foldSome
    refine ⟨_, _, line, rfl, toLine, there, fun content => .folded written ?_ toLine content⟩
    exact solid_singleQuotedFrom single.tail.writable folds.1.2 noBreak
  next noFold =>
    rw [if_neg noFold]
    obtain ⟨blanks, rest, parts, all, solid⟩ := exists_blanks single
    rw [List.cons_append] at written
    obtain ⟨toNext, there⟩ := YamlCursor.reads_next written
    rw [parts] at written
    exact ⟨_, _, cursor.next, rfl, toNext, there, .blank written all solid toNext⟩

/-- What a text in single quotes is written as is read as the text. -/
theorem content_single (start : YamlMark) (foldSome : 1 ≤ fold) (behindQuote : tail.head? ≠ some '\'')
    (text : List Char) (single : SingleText text) (noNext : '\u0085' ∉ text) (column : Nat)
    (before : Option Char)
    (behindBreak : before.any isLineBreak = true → text.head?.any isLineBreak = false)
    (cursor : YamlCursor)
    (written : cursor.rest = singleQuotedFrom fold isSplit column before text ++ tail) :
    ∃ behind, cursor.Reads (singleQuotedFrom fold isSplit column before text) behind
      ∧ behind.rest = tail ∧ Content false start cursor text behind := by
  match text with
  | [] =>
    obtain ⟨behind, reads, there⟩ := YamlCursor.exists_reads written
    have split : cursor.rest = '\'' :: tail := written
    exact ⟨behind, reads, there, .closed split (fun _ => behindQuote) reads⟩
  | c :: text =>
    have noNext' : '\u0085' ∉ text := fun inside => noNext (List.mem_cons_of_mem _ inside)
    by_cases space : c = ' '
    · subst space
      obtain ⟨column', read, after, same, reads, there, content⟩ :=
        content_single_space single foldSome written
      obtain ⟨behind, toBehind, atTail, later⟩ :=
        content_single start foldSome behindQuote text single.tail noNext' column' (some ' ')
          (by simp [isLineBreak]) after there
      exact ⟨behind, same ▸ reads.trans toBehind, atTail, content later⟩
    · by_cases isBreak : isLineBreak c = true
      · have first : before.any isLineBreak = false := by
          refine Bool.eq_false_iff.mpr fun behind => ?_
          have := behindBreak behind
          simp [isBreak] at this
        obtain ⟨run, rest, before', read, after, parts, runSome, noBreak, same, reads, atRest, gap⟩ :=
          exists_gap_breaks start foldSome single noNext isBreak first written
        have shorter : rest.length ≤ text.length := by
          have positive := List.length_pos_iff.mpr runSome
          have whole := congrArg List.length parts
          rw [List.length_cons, List.length_append] at whole
          omega
        obtain ⟨behind, toBehind, atTail, later⟩ :=
          content_single start foldSome behindQuote rest (parts ▸ single).suffix
            (fun inside => noNext (parts ▸ List.mem_append_right _ inside)) fold before'
            (fun _ => noBreak) after atRest
        refine ⟨behind, same ▸ reads.trans toBehind, atTail, ?_⟩
        rw [parts]
        exact .gap reads (by simp) (by simp [reads.rest, isBreak]) gap later
      · have noBreak : isLineBreak c = false := Bool.eq_false_iff.mpr isBreak
        by_cases quote : c = '\''
        · subst quote
          rw [singleQuotedFrom, if_neg space, if_neg isBreak, if_pos rfl] at written ⊢
          have written : cursor.rest = ['\'', '\'']
              ++ (singleQuotedFrom fold isSplit (column + 2) (some '\'') text ++ tail) := written
          obtain ⟨next, reads, there⟩ := YamlCursor.exists_reads written
          obtain ⟨behind, toBehind, atTail, later⟩ :=
            content_single start foldSome behindQuote text single.tail noNext' (column + 2) (some '\'')
              (by simp [noBreak]) next there
          exact ⟨behind, reads.trans toBehind, atTail, .quote reads later⟩
        · rw [singleQuotedFrom, if_neg space, if_neg isBreak, if_neg quote] at written ⊢
          obtain ⟨reads, there⟩ := YamlCursor.reads_next written
          obtain ⟨behind, toBehind, atTail, later⟩ :=
            content_single start foldSome behindQuote text single.tail noNext' (column + 1) (some c)
              (by simp [noBreak]) cursor.next there
          have noBlank : isBlankChar c = false := by
            refine Bool.eq_false_iff.mpr fun blank => ?_
            simp only [isBlankChar, Bool.or_eq_true, decide_eq_true_eq, space, false_or] at blank
            subst blank
            cases single.writable '\t' List.mem_cons_self
          exact ⟨behind, reads.trans toBehind, atTail,
            .char written noBlank noBreak quote (by simp) reads later⟩
  termination_by text.length

/-- Every character between single quotes is one of the text, a quote, or belongs to the end of a line.
-/
theorem forall_singleQuotedFrom {holds : Char → Prop} (quote : holds '\'') {text : List Char}
    (chars : ∀ c ∈ text, holds c)
    (lines : (isSplit = true ∨ ∃ c ∈ text, isLineBreak c = true) → holds '\n' ∧ holds ' ')
    (column : Nat) (before : Option Char) :
    ∀ c ∈ singleQuotedFrom fold isSplit column before text, holds c := by
  induction text generalizing column before with
  | nil => simpa [singleQuotedFrom] using quote
  | cons c text ih =>
    have here : holds c := chars c List.mem_cons_self
    have later := ih (fun d inside => chars d (List.mem_cons_of_mem _ inside)) fun broken => by
      refine lines (broken.imp id ?_)
      rintro ⟨d, inside, isBreak⟩
      exact ⟨d, List.mem_cons_of_mem _ inside, isBreak⟩
    rw [singleQuotedFrom]
    by_cases space : c = ' '
    · rw [if_pos space]
      split
      next folds =>
        simp only [Bool.and_eq_true] at folds
        obtain ⟨newline, blank⟩ := lines (.inl folds.1.1.1.1.1)
        intro d member
        simp only [ModelSchema.newline, List.cons_append, List.mem_cons, List.mem_append] at member
        rcases member with rfl | blanks | rest
        · exact newline
        · rw [List.eq_of_mem_replicate blanks]
          exact blank
        · exact later _ _ d rest
      next => exact fun d member => (List.mem_cons.mp member).elim (· ▸ here) (later _ _ d)
    · rw [if_neg space]
      by_cases isBreak : isLineBreak c = true
      · obtain ⟨newline, blank⟩ := lines (.inr ⟨c, List.mem_cons_self, isBreak⟩)
        simp only [isBreak, if_true, List.append_assoc, List.cons_append]
        intro d member
        rcases List.mem_append.mp member with doubled | member
        · split at doubled
          · rw [List.mem_singleton.mp doubled]
            exact newline
          · cases doubled
        · rcases List.mem_cons.mp member with rfl | member
          · exact here
          · rcases List.mem_append.mp member with blanks | rest
            · split at blanks
              · cases blanks
              · rw [List.eq_of_mem_replicate blanks]
                exact blank
            · exact later _ _ d rest
      · rw [if_neg isBreak]
        split
        next =>
          intro d member
          rcases List.mem_cons.mp member with rfl | member
          · exact quote
          · exact (List.mem_cons.mp member).elim (· ▸ quote) (later _ _ d)
        next => exact fun d member => (List.mem_cons.mp member).elim (· ▸ here) (later _ _ d)

/-- On one line only quotes take two characters. -/
theorem length_singleQuotedFrom_le {text : List Char} (oneLine : ∀ c ∈ text, isLineBreak c = false)
    (column : Nat) (before : Option Char) :
    (singleQuotedFrom fold false column before text).length ≤ 2 * text.length + 1 := by
  induction text generalizing column before with
  | nil => simp [singleQuotedFrom]
  | cons c text ih =>
    have here := oneLine c List.mem_cons_self
    have later := ih fun d member => oneLine d (List.mem_cons_of_mem _ member)
    have next := later (column + 1) (some c)
    have behindQuote := later (column + 2) (some c)
    rw [singleQuotedFrom]
    simp only [Bool.false_and, Bool.false_eq_true, if_false, here]
    split
    · simp only [List.length_cons]
      omega
    · split
      · simp only [List.length_cons]
        omega
      · simp only [List.length_cons]
        omega

end QuotedScalar

open QuotedScalar in
/-- A scalar in single quotes is read back. -/
theorem YamlCursor.quotedScalar_single {cursor : YamlCursor} {fold column : Nat} {isSplit : Bool}
    {text tail : List Char} (foldSome : 1 ≤ fold) (single : SingleText text)
    (noNext : '\u0085' ∉ text) (behindQuote : tail.head? ≠ some '\'')
    (written : cursor.rest = singleQuotedText fold isSplit column text ++ tail) :
    ∃ behind, cursor.Reads (singleQuotedText fold isSplit column text) behind ∧ behind.rest = tail
      ∧ cursor.quotedScalar = .ok (String.ofList text, behind) := by
  rw [singleQuotedText, List.cons_append] at written
  obtain ⟨toNext, there⟩ := reads_next written
  obtain ⟨behind, reads, atTail, content⟩ := content_single cursor.mark foldSome behindQuote text
    single noNext (column + 1) none (by simp) cursor.next there
  exact ⟨behind, toNext.trans reads, atTail, @quotedScalar_eq _ _ false _ _ written content⟩

end ModelSchema
