import ModelSchema.Proofs.Yaml.Traits
import ModelSchema.Yaml.Token.Scalar

/-!
What stands in quotes is read part by part.

* `QuotedScalar.gap_blanks`, `QuotedScalar.gap_folded`: what gaps stand for.
* `QuotedScalar.Content`: what is read from a place up to the closing quote. Its rules say what each
  way to write some characters is read as.
* `QuotedScalar.Content.step`: one step, and what is read behind it.
* `YamlCursor.quotedScalar_eq`: a whole scalar, from one quote to the other.
-/

namespace ModelSchema

namespace QuotedScalar

variable {double : Bool} {start : YamlMark} {cursor after behind : YamlCursor}
  {out rest tail : List Char} {c : Char}

/-! ### Gaps -/

/-- Whether a text begins with a character that is no part of a gap. -/
def Solid (text : List Char) : Prop :=
  ∃ c rest, text = c :: rest ∧ isBlankChar c = false ∧ isLineBreak c = false

theorem isBlankChar_of_mem_replicate {n : Nat} : ∀ c ∈ List.replicate n ' ', isBlankChar c = true := by
  simp [isBlankChar]

theorem Solid.noBlank (solid : Solid rest) : rest.head?.any isBlankChar = false := by
  obtain ⟨c, rest, rfl, noBlank, -⟩ := solid
  exact noBlank

theorem Solid.noBreak (solid : Solid rest) : rest.head?.any isLineBreak = false := by
  obtain ⟨c, rest, rfl, -, noBreak⟩ := solid
  exact noBreak

/-- No further line breaks come where the next line begins. -/
theorem breaksWithin_spaces (start : YamlMark) {n : Nat}
    (split : cursor.rest = List.replicate (n + 1) ' ' ++ rest) (solid : Solid rest) :
    ∃ after, cursor.Reads (List.replicate (n + 1) ' ') after ∧ after.rest = rest
      ∧ ∀ fuel, breaksWithin start (fuel + 1) cursor = .ok ([], after) := by
  obtain ⟨after, reads, there, dropped⟩ :=
    YamlCursor.dropWhile_eq isBlankChar split isBlankChar_of_mem_replicate solid.noBlank
  have noMark : cursor.isAtDocumentMark = false := YamlCursor.isAtDocumentMark_space split
  have noBreak := YamlCursor.lineBreak?_eq_none (there ▸ solid.noBreak)
  refine ⟨after, reads, there, fun fuel => ?_⟩
  rw [breaksWithin, if_neg (by simp [noMark]), dropped]
  simp [noBreak]

/-- Blanks on a line stand for themselves. -/
theorem gap_blanks (start : YamlMark) {blanks : List Char} (split : cursor.rest = blanks ++ rest)
    (all : ∀ c ∈ blanks, isBlankChar c = true) (solid : Solid rest) :
    ∃ after, cursor.Reads blanks after ∧ after.rest = rest
      ∧ gap start cursor = .ok (blanks, after) := by
  obtain ⟨after, reads, there, taken⟩ :=
    YamlCursor.takeWhile_eq isBlankChar split all solid.noBlank
  have noBreak := YamlCursor.lineBreak?_eq_none (there ▸ solid.noBreak)
  have something : rest.isEmpty = false := by
    obtain ⟨c, rest, rfl, -⟩ := solid
    rfl
  refine ⟨after, reads, there, ?_⟩
  rw [gap, taken]
  simp [noBreak, there, something]

/-- A folded line stands for a space. -/
theorem gap_folded (start : YamlMark) {n : Nat} (split : cursor.rest = newline (n + 1) ++ rest)
    (solid : Solid rest) :
    ∃ after, cursor.Reads (newline (n + 1)) after ∧ after.rest = rest
      ∧ gap start cursor = .ok ([' '], after) := by
  have split : cursor.rest = '\n' :: (List.replicate (n + 1) ' ' ++ rest) := split
  obtain ⟨line, toLine, there, broken⟩ := YamlCursor.lineBreak?_newline split
  obtain ⟨after, reads, there', read⟩ := breaksWithin_spaces start there solid
  refine ⟨after, toLine.trans reads, there', ?_⟩
  have fuel : line.rest.length = (n + rest.length) + 1 := by simp [there]; omega
  rw [gap, YamlCursor.takeWhile_eq_nil (by simp [split, isBlankChar])]
  simp [broken, fuel, read, Except.map]

/-! ### Content -/

/-- What is read from a place up to the closing quote, and the place behind it. -/
def Content (double : Bool) (start : YamlMark) (cursor : YamlCursor) (out : List Char)
    (behind : YamlCursor) : Prop :=
  ∀ (fuel : Nat) (read : List Char), cursor.rest.length < fuel →
    contentWithin double start fuel read cursor = .ok (read ++ out, behind)

/-- What one step reads where there is a character. -/
theorem contentWithin_cons {fuel : Nat} {read : List Char} (split : cursor.rest = c :: rest) :
    contentWithin double start (fuel + 1) read cursor
      = if isBlankChar c || isLineBreak c then
          match QuotedScalar.gap start cursor with
          | .error error => .error error
          | .ok (chars, cursor) => contentWithin double start fuel (read ++ chars) cursor
        else if double then
          if c = '"' then .ok (read, cursor.next)
          else if c = '\\' then
            match escape start cursor.next with
            | .error error => .error error
            | .ok (chars, cursor) => contentWithin double start fuel (read ++ chars) cursor
          else contentWithin double start fuel (read ++ [c]) cursor.next
        else if c = '\'' then
          if rest.head? = some '\'' then
            contentWithin double start fuel (read ++ ['\'']) (cursor.skip 2)
          else .ok (read, cursor.next)
        else contentWithin double start fuel (read ++ [c]) cursor.next := by
  cases cursor
  cases split
  rfl

/-- One step reads some characters, and the content behind them follows. -/
theorem Content.step {read chars : List Char} (reads : cursor.Reads read after) (some : read ≠ [])
    (step : ∀ fuel done, contentWithin double start (fuel + 1) done cursor
      = contentWithin double start fuel (done ++ chars) after)
    (content : Content double start after out behind) :
    Content double start cursor (chars ++ out) behind := by
  intro fuel done enough
  have shorter := reads.length_lt some
  cases fuel with
  | zero => omega
  | succ fuel => rw [step, content fuel _ (by omega), List.append_assoc]

/-- A gap is read at once. -/
theorem Content.gap {read chars : List Char} (reads : cursor.Reads read after) (some : read ≠ [])
    (first : cursor.rest.head?.any (fun c => isBlankChar c || isLineBreak c) = true)
    (gap : gap start cursor = .ok (chars, after)) (content : Content double start after out behind) :
    Content double start cursor (chars ++ out) behind := by
  refine .step reads some (fun fuel done => ?_) content
  cases there : cursor.rest with
  | nil => simp [there] at first
  | cons c rest =>
    have first : (isBlankChar c || isLineBreak c) = true := by simpa [there] using first
    rw [contentWithin_cons there, if_pos first, gap]

/-- A blank stands for itself when no line break follows the blanks. -/
theorem Content.blank {blanks : List Char} (split : cursor.rest = ' ' :: (blanks ++ rest))
    (all : ∀ c ∈ blanks, isBlankChar c = true) (solid : Solid rest)
    (reads : cursor.Reads [' '] after) (content : Content double start after out behind) :
    Content double start cursor (' ' :: out) behind := by
  have there : after.rest = blanks ++ rest := by
    have := reads.rest
    rw [split] at this
    exact (List.cons.inj this).2.symm
  have whole : ∀ c ∈ ' ' :: blanks, isBlankChar c = true := by
    simpa [isBlankChar] using all
  have split' : cursor.rest = (' ' :: blanks) ++ rest := split
  obtain ⟨next, toNext, -, gapIs⟩ := gap_blanks start split' whole solid
  have blank (b : Char) (isBlank : isBlankChar b = true) : (isBlankChar b || isLineBreak b) = true := by
    rw [isBlank, Bool.true_or]
  intro fuel done enough
  have shorter := reads.length_lt (by simp)
  cases fuel with
  | zero => omega
  | succ fuel =>
    rw [contentWithin_cons split, if_pos (blank ' ' (by simp [isBlankChar])), gapIs]
    dsimp only
    cases blanks with
    | nil =>
      have same := reads.unique toNext
      subst same
      rw [content fuel _ (by omega), List.append_assoc]
      rfl
    | cons b blanks =>
      -- The further blanks are read from their own place to the same one.
      obtain ⟨next', toNext', -, gapIs'⟩ := gap_blanks start there all solid
      have same := (reads.trans toNext').unique toNext
      subst same
      have later := content (fuel + 1) (done ++ [' ']) (by omega)
      rw [contentWithin_cons there, if_pos (blank b (all b List.mem_cons_self)), gapIs'] at later
      simpa [List.append_assoc] using later

/-- A folded line stands for a space. -/
theorem Content.folded {n : Nat} (split : cursor.rest = newline (n + 1) ++ rest) (solid : Solid rest)
    (reads : cursor.Reads (newline (n + 1)) after) (content : Content double start after out behind) :
    Content double start cursor (' ' :: out) behind := by
  obtain ⟨next, toNext, -, gapIs⟩ := gap_folded start split solid
  have same := reads.unique toNext
  subst same
  exact .gap reads (by simp [newline]) (by simp [split, newline, isLineBreak]) gapIs content

/-- Any other character stands for itself, unless it is the quote or begins an escape. -/
theorem Content.char (split : cursor.rest = c :: rest) (noBlank : isBlankChar c = false)
    (noBreak : isLineBreak c = false) (noQuote : c ≠ if double then '"' else '\'')
    (noEscape : double = true → c ≠ '\\') (reads : cursor.Reads [c] after)
    (content : Content double start after out behind) :
    Content double start cursor (c :: out) behind := by
  show Content double start cursor ([c] ++ out) behind
  refine .step reads (by simp) (fun fuel done => ?_) content
  rw [contentWithin_cons split, reads.next_eq]
  cases double with
  | true =>
    have noQuote : c ≠ '"' := by simpa using noQuote
    simp [noBlank, noBreak, noEscape, noQuote]
  | false =>
    have noQuote : c ≠ '\'' := by simpa using noQuote
    simp [noBlank, noBreak, noQuote]

/-- A doubled quote stands for a quote. -/
theorem Content.quote (reads : cursor.Reads ['\'', '\''] after)
    (content : Content false start after out behind) :
    Content false start cursor ('\'' :: out) behind := by
  show Content false start cursor (['\''] ++ out) behind
  refine .step reads (by simp) (fun fuel done => ?_) content
  have split : cursor.rest = '\'' :: '\'' :: after.rest := reads.rest
  have skipped : cursor.skip 2 = after := reads.skip_eq
  rw [contentWithin_cons split, skipped]
  simp [isBlankChar, isLineBreak]

/-- The quote ends the content. -/
theorem Content.closed (split : cursor.rest = (if double then '"' else '\'') :: rest)
    (last : double = false → rest.head? ≠ some '\'')
    (reads : cursor.Reads [if double then '"' else '\''] behind) :
    Content double start cursor [] behind := by
  intro fuel done enough
  cases fuel with
  | zero => omega
  | succ fuel =>
    rw [contentWithin_cons split, reads.next_eq]
    cases double with
    | true => simp [isBlankChar, isLineBreak]
    | false => simp [isBlankChar, isLineBreak, last rfl]

end QuotedScalar

open QuotedScalar in
/-- A scalar in quotes is what stands between them. -/
theorem YamlCursor.quotedScalar_eq {cursor behind : YamlCursor} {double : Bool} {rest out : List Char}
    (split : cursor.rest = (if double then '"' else '\'') :: rest)
    (content : Content double cursor.mark cursor.next out behind) :
    cursor.quotedScalar = .ok (String.ofList out, behind) := by
  have kind : (cursor.peek = some '"') = (double = true) := by
    cases double <;> simp [peek, split]
  have shorter : cursor.next.rest.length < cursor.rest.length + 1 := by
    rw [(reads_next split).2, split, List.length_cons]
    omega
  simp only [quotedScalar, kind, Bool.decide_eq_true, content _ [] shorter]
  rfl

end ModelSchema
