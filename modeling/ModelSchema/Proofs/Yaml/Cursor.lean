import ModelSchema.Yaml.Cursor

/-!
Places in a text, and the characters between them.

* `YamlCursor.Reads`: some characters lead from one place to another. Every function that moves a
  cursor is described by the characters that it passes.
* `Reads.index`, `Reads.inline`, `Reads.newLine`: what becomes of the numbers of a place.
* `takeWhile_eq`, `dropWhile_eq`: the characters that satisfy a condition are passed at once.
-/

namespace ModelSchema

namespace YamlCursor

/-- Whether some characters lead from one place to another. -/
structure Reads (before : YamlCursor) (read : List Char) (after : YamlCursor) : Prop where
  rest : before.rest = read ++ after.rest
  mark : after.mark = read.foldl markBehind before.mark

/-- Whether a character stands in one column. -/
def isInline (c : Char) : Bool := !isLineBreak c && c != Char.ofNat 0xfeff

variable {before middle after : YamlCursor} {read more rest : List Char} {c : Char}

namespace Reads

theorem refl (cursor : YamlCursor) : cursor.Reads [] cursor := ⟨rfl, rfl⟩

theorem trans (first : before.Reads read middle) (second : middle.Reads more after) :
    before.Reads (read ++ more) after := by
  constructor
  · rw [first.rest, second.rest, List.append_assoc]
  · rw [second.mark, first.mark, List.foldl_append]

/-- Characters in a row lead to one place only. -/
theorem unique (first : before.Reads read middle) (second : before.Reads read after) :
    middle = after := by
  have rest : middle.rest = after.rest := by
    have whole := first.rest
    rw [second.rest] at whole
    exact (List.append_cancel_left whole).symm
  have mark := first.mark.trans second.mark.symm
  cases middle
  cases after
  simp_all

end Reads

/-- The next character leads to the next place. -/
theorem reads_next (rest : before.rest = c :: more) :
    before.Reads [c] before.next ∧ before.next.rest = more := by
  unfold next
  rw [rest]
  exact ⟨⟨rest, rfl⟩, rfl⟩

/-- The next characters lead to the place behind them. -/
theorem reads_skip (split : before.rest = read ++ rest) :
    before.Reads read (before.skip read.length) ∧ (before.skip read.length).rest = rest := by
  induction read generalizing before with
  | nil => exact ⟨.refl _, split⟩
  | cons c read ih =>
    have split : before.rest = c :: (read ++ rest) := split
    obtain ⟨first, behind⟩ := reads_next split
    obtain ⟨later, rest⟩ := ih behind
    exact ⟨first.trans later, rest⟩

/-- Some further characters are passed as they stand. -/
theorem exists_reads (split : before.rest = read ++ rest) :
    ∃ after, before.Reads read after ∧ after.rest = rest :=
  ⟨_, reads_skip split⟩

/-- Between characters in a row there is a place. -/
theorem Reads.split (reads : before.Reads (read ++ more) after) :
    ∃ middle, before.Reads read middle ∧ middle.Reads more after := by
  obtain ⟨middle, first, there⟩ := exists_reads (reads.rest.trans (List.append_assoc ..))
  obtain ⟨last, second, -⟩ := exists_reads there
  have same := (first.trans second).unique reads
  subst same
  exact ⟨middle, first, second⟩

theorem Reads.skip_eq (reads : before.Reads read after) : before.skip read.length = after :=
  (reads_skip reads.rest).1.unique reads

theorem Reads.next_eq (reads : before.Reads [c] after) : before.next = after :=
  (reads_next reads.rest).1.unique reads

/-! ### The numbers of a place -/

@[simp] theorem markBehind_index (mark : YamlMark) (c : Char) :
    (markBehind mark c).index = mark.index + 1 := by
  unfold markBehind
  split
  · rfl
  · split <;> rfl

theorem le_markBehind_line (mark : YamlMark) (c : Char) :
    mark.line ≤ (markBehind mark c).line := by
  unfold markBehind
  split
  · exact Nat.le_succ _
  · split <;> exact Nat.le_refl _

namespace Reads

theorem index (reads : before.Reads read after) :
    after.mark.index = before.mark.index + read.length := by
  rw [reads.mark]
  have counted : ∀ (read : List Char) (mark : YamlMark),
      (read.foldl markBehind mark).index = mark.index + read.length := by
    intro read
    induction read with
    | nil => simp
    | cons c read ih =>
      intro mark
      rw [List.foldl_cons, ih, List.length_cons, markBehind_index]
      omega
  exact counted read before.mark

/-- Characters that take a column each stay on the line. -/
theorem inline (reads : before.Reads read after) (all : ∀ c ∈ read, isInline c = true) :
    after.mark.line = before.mark.line ∧ after.column = before.column + read.length := by
  have counted : ∀ (read : List Char) (mark : YamlMark), (∀ c ∈ read, isInline c = true) →
      (read.foldl markBehind mark).line = mark.line
        ∧ (read.foldl markBehind mark).column = mark.column + read.length := by
    intro read
    induction read with
    | nil => simp
    | cons c read ih =>
      intro mark all
      have here : isInline c = true := all c List.mem_cons_self
      obtain ⟨line, column⟩ := ih (markBehind mark c) fun d later => all d (List.mem_cons_of_mem _ later)
      simp only [isInline, Bool.and_eq_true, Bool.not_eq_true', bne_iff_ne, ne_eq] at here
      have behind : markBehind mark c = ⟨mark.index + 1, mark.line, mark.column + 1⟩ := by
        simp [markBehind, here.1, here.2]
      rw [List.foldl_cons, line, column, behind, List.length_cons]
      exact ⟨rfl, by simp; omega⟩
  rw [column, reads.mark]
  exact counted read before.mark all

theorem length_lt (reads : before.Reads read after) (some : read ≠ []) :
    after.rest.length < before.rest.length := by
  have positive := List.length_pos_iff.mpr some
  rw [reads.rest, List.length_append]
  omega

/-- No character leads back to an earlier line. -/
theorem line_le (reads : before.Reads read after) : before.mark.line ≤ after.mark.line := by
  have counted : ∀ (read : List Char) (mark : YamlMark),
      mark.line ≤ (read.foldl markBehind mark).line := by
    intro read
    induction read with
    | nil => simp
    | cons c read ih =>
      intro mark
      exact Nat.le_trans (le_markBehind_line mark c) (ih (markBehind mark c))
  rw [reads.mark]
  exact counted read before.mark

/-- A line break leads to the start of a new line. -/
theorem lineBreak (reads : before.Reads [c] after) (isBreak : isLineBreak c = true) :
    after.mark.line = before.mark.line + 1 ∧ after.column = 0 := by
  rw [column, reads.mark]
  simp [markBehind, isBreak]

/-- Behind a line break come the columns of a new line. -/
theorem newLine (reads : before.Reads (read ++ c :: more) after) (isBreak : isLineBreak c = true)
    (all : ∀ d ∈ more, isInline d = true) :
    before.mark.line < after.mark.line ∧ after.column = more.length := by
  have whole : before.rest = read ++ ([c] ++ (more ++ after.rest)) := by simpa using reads.rest
  obtain ⟨first, toFirst, split⟩ := exists_reads whole
  obtain ⟨second, toSecond, split⟩ := exists_reads split
  obtain ⟨third, toThird, -⟩ := exists_reads split
  have same : third = after := by
    refine ((toFirst.trans toSecond).trans toThird).unique ?_
    simpa using reads
  subst same
  have broken := toSecond.lineBreak isBreak
  have inline := toThird.inline all
  have behind := toFirst.line_le
  omega

end Reads

/-! ### Conditions -/

theorem takeWhile_eq (condition : Char → Bool) (split : before.rest = read ++ rest)
    (all : ∀ c ∈ read, condition c = true) (stop : rest.head?.any condition = false) :
    ∃ after, before.Reads read after ∧ after.rest = rest
      ∧ before.takeWhile condition = (read, after) := by
  have taken : (read ++ rest).takeWhile condition = read := by
    rw [List.takeWhile_append_of_pos all]
    cases rest with
    | nil => simp
    | cons c rest => simp_all
  obtain ⟨reads, behind⟩ := reads_skip split
  refine ⟨_, reads, behind, ?_⟩
  rw [takeWhile, split, taken]

theorem dropWhile_eq (condition : Char → Bool) (split : before.rest = read ++ rest)
    (all : ∀ c ∈ read, condition c = true) (stop : rest.head?.any condition = false) :
    ∃ after, before.Reads read after ∧ after.rest = rest ∧ before.dropWhile condition = after := by
  obtain ⟨after, reads, behind, taken⟩ := takeWhile_eq condition split all stop
  exact ⟨after, reads, behind, by rw [dropWhile, taken]⟩

theorem takeWhile_eq_nil {condition : Char → Bool}
    (stop : before.rest.head?.any condition = false) :
    before.takeWhile condition = ([], before) := by
  obtain ⟨after, reads, -, taken⟩ := takeWhile_eq condition (List.nil_append _).symm (by simp) stop
  rw [taken, (Reads.refl before).unique reads]

theorem dropWhile_eq_self {condition : Char → Bool}
    (stop : before.rest.head?.any condition = false) : before.dropWhile condition = before := by
  rw [dropWhile, takeWhile_eq_nil stop]

/-! ### Line breaks -/

theorem lineBreak?_eq_none (noBreak : before.rest.head?.any isLineBreak = false) :
    before.lineBreak? = none := by
  unfold lineBreak? peek
  cases first : before.rest.head? with
  | none => rfl
  | some c =>
    have noBreak : isLineBreak c = false := by simpa [first] using noBreak
    have plain : (c = '\n' || c = '\u0085') = false := by
      simp only [isLineBreak, Bool.or_eq_false_iff] at noBreak
      simp only [noBreak.1.1.1, noBreak.1.1.2, Bool.or_self]
    simp [plain, noBreak]

theorem lineBreak?_newline (split : before.rest = '\n' :: rest) :
    ∃ after, before.Reads ['\n'] after ∧ after.rest = rest
      ∧ before.lineBreak? = some ('\n', after) := by
  obtain ⟨reads, behind⟩ := reads_next split
  refine ⟨_, reads, behind, ?_⟩
  simp [lineBreak?, peek, split]

/-- A line that begins with a space is no mark between documents. -/
theorem isAtDocumentMark_space (split : before.rest = ' ' :: rest) :
    before.isAtDocumentMark = false := by
  simp [isAtDocumentMark, ScalarTraits.isDocumentMark, split]

end YamlCursor

end ModelSchema
