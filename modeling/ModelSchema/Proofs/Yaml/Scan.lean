import ModelSchema.Proofs.Yaml.Cursor
import ModelSchema.Yaml.Token.Scan

/-!
Scanning a text token by token.

In front of every token a scan skips a gap and closes the blocks that end there.

* `YamlScan.unwound_unwindTo`: which blocks are closed at a column.
* `YamlScan.Settles`: a scan, and what it is when the gap in front of the next token is skipped.
* `YamlScan.Runs`: a scan that becomes another one by fetching tokens.
* `YamlScan.At`, `YamlScan.Ready`: what is known of a scan between two tokens, and in front of one.
* `YamlScan.Holds.ready`: a scan that skips its gap is ready for the next token.
* `YamlScan.Follows.skips`: the gaps that the writer leaves are skipped.
-/

namespace ModelSchema

namespace YamlScan

variable {scan settled next : YamlScan} {stack : List Int} {kinds : List YamlToken}
  {rest : List Char} {column : Int} {allowKey : Bool}

/-! ### Indentation -/

/-- The indentations of the open blocks, the innermost first. -/
def levels (scan : YamlScan) : List Int := scan.indent :: scan.indents

/-- The ends of the blocks that are closed at a column. -/
def endsAt (column : Int) (stack : List Int) : List YamlToken :=
  (stack.takeWhile (column < ·)).map fun _ => .blockEnd

/-- The blocks that are still open at a column. -/
def openAt (column : Int) (stack : List Int) : List Int := stack.dropWhile (column < ·)

theorem endsAt_of_le {indent : Int} (le : indent ≤ column) : endsAt column (indent :: stack) = [] := by
  simp [endsAt, Int.not_lt.mpr le]

theorem openAt_of_le {indent : Int} (le : indent ≤ column) :
    openAt column (indent :: stack) = indent :: stack := by
  simp [openAt, Int.not_lt.mpr le]

/-- The end of the innermost block comes first. -/
theorem endsAt_of_lt {indent : Int} (lt : column < indent) :
    endsAt column (indent :: stack) = endsAt column stack ++ [.blockEnd] := by
  have front : endsAt column (indent :: stack) = .blockEnd :: endsAt column stack := by
    simp [endsAt, lt]
  rw [front]
  unfold endsAt
  rw [List.map_const', ← List.replicate_succ, ← List.replicate_succ']

theorem openAt_of_lt {indent : Int} (lt : column < indent) :
    openAt column (indent :: stack) = openAt column stack := by
  simp [openAt, lt]

theorem mem_openAt {indent : Int} (le : indent ≤ column) (member : indent ∈ stack) :
    indent ∈ openAt column stack := by
  induction stack with
  | nil => cases member
  | cons first stack ih =>
    by_cases lt : column < first
    · rw [openAt_of_lt lt]
      refine ih ?_
      rcases List.mem_cons.mp member with rfl | later
      · omega
      · exact later
    · rw [openAt_of_le (Int.not_lt.mp lt)]
      exact member

/-- The innermost block is closed where it is indented more. -/
theorem unwind_cons (column : Int) (scan : YamlScan) (outer : Int) (rest : List Int) :
    unwind column scan (outer :: rest)
      = if column < scan.indent then
          unwind column { scan.add .blockEnd scan.cursor.mark with indent := outer, indents := rest }
            rest
        else scan := rfl

@[simp] theorem unwindTo_cursor : (scan.unwindTo column).cursor = scan.cursor := by
  have each : ∀ (indents : List Int) (scan : YamlScan),
      (unwind column scan indents).cursor = scan.cursor := by
    intro indents
    induction indents with
    | nil => exact fun _ => rfl
    | cons outer rest ih =>
      intro scan
      rw [unwind_cons]
      split
      · exact ih _
      · rfl
  unfold unwindTo
  split
  · rfl
  · exact each _ scan

/-- What becomes of a scan whose innermost blocks are closed. -/
structure Unwound (column : Int) (scan closed : YamlScan) : Prop where
  flow : closed.flowLevel = scan.flowLevel
  allowKey : closed.allowKey = scan.allowKey
  keys : closed.possibleKeys = scan.possibleKeys
  levels : closed.levels = openAt column scan.levels
  tokens : closed.tokens.map (·.1) = endsAt column scan.levels ++ scan.tokens.map (·.1)
  count : scan.count = scan.tokens.length → closed.count = closed.tokens.length

/-- Blocks are closed up to one that is not indented more than the column. -/
theorem unwound_unwind (bottom : ∃ indent ∈ scan.levels, indent ≤ column) :
    Unwound column scan (unwind column scan scan.indents) := by
  obtain ⟨cursor, flowLevel, indent, indents, allowKey, possibleKeys, tokens, count⟩ := scan
  induction indents generalizing indent tokens count with
  | nil =>
    have le : indent ≤ column := by simpa [levels] using bottom
    exact ⟨rfl, rfl, rfl, (openAt_of_le le).symm, by rw [levels, endsAt_of_le le]; rfl, id⟩
  | cons outer rest ih =>
    rw [unwind_cons]
    split
    next lt =>
      have lt : column < indent := lt
      have bottom : ∃ indent ∈ outer :: rest, indent ≤ column := by
        obtain ⟨level, member, le⟩ := bottom
        rcases List.mem_cons.mp member with rfl | later
        · exact absurd lt (Int.not_lt.mpr le)
        · exact ⟨level, later, le⟩
      obtain ⟨flow, allow, keys, open_, closed, count⟩ :=
        ih outer ((.blockEnd, cursor.mark) :: tokens) (count + 1) bottom
      refine ⟨flow, allow, keys, open_.trans (openAt_of_lt lt).symm, ?_, fun same => count ?_⟩
      · refine closed.trans ?_
        rw [levels, levels, endsAt_of_lt lt, List.append_assoc]
        rfl
      · exact congrArg (· + 1) same
    next le =>
      have le : indent ≤ column := Int.not_lt.mp le
      exact ⟨rfl, rfl, rfl, (openAt_of_le le).symm, by simp [levels, endsAt_of_le le], id⟩

theorem unwound_unwindTo (flow : scan.flowLevel = 0)
    (bottom : ∃ indent ∈ scan.levels, indent ≤ column) :
    Unwound column scan (scan.unwindTo column) := by
  have noFlow : scan.inFlow = false := by simp [inFlow, flow]
  rw [unwindTo, noFlow]
  exact unwound_unwind bottom

/-- Inside of brackets blocks are left alone. -/
theorem unwindTo_of_flow (flow : scan.flowLevel ≠ 0) : scan.unwindTo column = scan := by
  have inFlow : scan.inFlow = true := by simpa [inFlow] using flow
  rw [unwindTo, if_pos inFlow]

/-- Blocks that were closed at a column need not be closed again. -/
theorem unwindTo_unwindTo {lower : Int} (le : lower ≤ column) :
    (scan.unwindTo column).unwindTo lower = scan.unwindTo lower := by
  obtain ⟨cursor, flowLevel, indent, indents, allowKey, possibleKeys, tokens, count⟩ := scan
  cases flowLevel with
  | succ n => rw [@unwindTo_of_flow _ column (by simp)]
  | zero =>
    induction indents generalizing indent tokens count with
    | nil => rfl
    | cons outer rest ih =>
      by_cases lt : column < indent
      · have lower : lower < indent := by omega
        simpa [unwindTo, inFlow, unwind_cons, lt, lower, add] using
          ih outer ((.blockEnd, cursor.mark) :: tokens) (count + 1)
      · simp [unwindTo, inFlow, unwind_cons, lt]

/-! ### Gaps -/

/-- Whether a text is empty or begins with a character that is no part of a gap. -/
def StartsToken (text : List Char) : Prop :=
  ∀ c ∈ text.head?, c ≠ ' ' ∧ c ≠ '#' ∧ YamlCursor.isInline c = true

theorem StartsToken.nil : StartsToken [] := by simp [StartsToken]

theorem StartsToken.cons {c : Char} (noSpace : c ≠ ' ') (noComment : c ≠ '#')
    (inline : YamlCursor.isInline c = true) : StartsToken (c :: rest) := by
  simpa [StartsToken] using ⟨noSpace, noComment, inline⟩

theorem StartsToken.noSpace (starts : StartsToken rest) : rest.head?.any (· = ' ') = false := by
  cases rest with
  | nil => rfl
  | cons c rest => simpa using (starts c rfl).1

theorem StartsToken.noBreak (starts : StartsToken rest) : rest.head?.any isLineBreak = false := by
  cases rest with
  | nil => rfl
  | cons c rest =>
    have inline := (starts c rfl).2.2
    simp only [YamlCursor.isInline, Bool.and_eq_true, Bool.not_eq_true'] at inline
    exact inline.1

section

variable {cursor after : YamlCursor} {comment : List Char} {n : Nat} (fuel : Nat)

/-- Spaces are skipped. -/
theorem skipGapWithin_spaces (reads : scan.cursor.Reads (List.replicate n ' ') after)
    (starts : StartsToken after.rest) :
    skipGapWithin (fuel + 1) scan = { scan with cursor := after } := by
  obtain ⟨after', reads', -, dropped⟩ := YamlCursor.dropWhile_eq (· = ' ') reads.rest
    (by simp) starts.noSpace
  have same := reads'.unique reads
  subst same
  have noComment : after'.peek ≠ some '#' := fun same => (starts '#' same).2.1 rfl
  rw [skipGapWithin, dropped]
  simp [noComment, YamlCursor.lineBreak?_eq_none starts.noBreak]

/-- A line break is skipped, and a key can begin behind it. -/
theorem skipGapWithin_newline (flow : scan.flowLevel = 0) (reads : scan.cursor.Reads ['\n'] after) :
    skipGapWithin (fuel + 1) scan
      = skipGapWithin fuel { scan with cursor := after, allowKey := true } := by
  have split : scan.cursor.rest = '\n' :: after.rest := reads.rest
  obtain ⟨after', reads', -, broken⟩ := YamlCursor.lineBreak?_newline split
  have same := reads'.unique reads
  subst same
  have noFlow : scan.inFlow = false := by simp [inFlow, flow]
  rw [skipGapWithin, YamlCursor.dropWhile_eq_self (by simp [split])]
  simp [YamlCursor.peek, split, broken, noFlow]

/-- A line with a comment is skipped. -/
theorem skipGapWithin_comment (flow : scan.flowLevel = 0)
    (oneLine : ∀ c ∈ comment, isLineBreak c = false)
    (reads : scan.cursor.Reads (('#' :: comment) ++ ['\n']) after) :
    skipGapWithin (fuel + 1) scan
      = skipGapWithin fuel { scan with cursor := after, allowKey := true } := by
  have split : scan.cursor.rest = ('#' :: comment) ++ '\n' :: after.rest :=
    reads.rest.trans (List.append_assoc ..)
  obtain ⟨line, toLine, there, dropped⟩ := YamlCursor.dropWhile_eq (fun c => !isLineBreak c) split
    (by simpa [isLineBreak] using oneLine) (by simp [isLineBreak])
  obtain ⟨after', reads', -, broken⟩ := YamlCursor.lineBreak?_newline there
  have same := (toLine.trans reads').unique reads
  subst same
  have noFlow : scan.inFlow = false := by simp [inFlow, flow]
  rw [skipGapWithin, YamlCursor.dropWhile_eq_self (by simp [split])]
  simp [YamlCursor.peek, split, dropped, broken, noFlow]

/-- A scan behind a gap. `broken` tells whether there is a line break in the gap. -/
def behindGap (scan : YamlScan) (broken : Bool) (after : YamlCursor) : YamlScan :=
  { scan with cursor := after, allowKey := scan.allowKey || broken }

/-- Whether a gap is skipped up to a place. -/
structure SkipsGap (cursor : YamlCursor) (gap : List Char) (broken : Bool) (after : YamlCursor) :
    Prop where
  reads : cursor.Reads gap after
  skips : ∀ {scan : YamlScan}, scan.cursor = cursor → scan.flowLevel = 0 →
    scan.skipGap = scan.behindGap broken after

/-- Nothing but a byte order mark at the start is skipped in another way. -/
theorem skipGap_eq (noMark : scan.cursor.rest.head? ≠ some (Char.ofNat 0xfeff)) :
    scan.skipGap = skipGapWithin (scan.cursor.rest.length + 1) scan := by
  have noMark : scan.cursor.peek ≠ some (Char.ofNat 0xfeff) := noMark
  simp [skipGap, noMark]

/-- What stands behind a token on its line. -/
theorem skips_spaces (reads : cursor.Reads (List.replicate n ' ') after)
    (starts : StartsToken after.rest) : SkipsGap cursor (List.replicate n ' ') false after := by
  refine ⟨reads, ?_⟩
  rintro scan rfl -
  have noMark : scan.cursor.rest.head? ≠ some (Char.ofNat 0xfeff) := by
    rw [reads.rest]
    cases n with
    | succ n => simp [List.replicate_succ]
    | zero =>
      intro same
      cases (starts _ same).2.2
  rw [skipGap_eq noMark, skipGapWithin_spaces _ reads starts, behindGap, Bool.or_false]

/-- What stands between two lines. -/
theorem skips_line (reads : cursor.Reads ('\n' :: List.replicate n ' ') after)
    (starts : StartsToken after.rest) : SkipsGap cursor ('\n' :: List.replicate n ' ') true after := by
  refine ⟨reads, ?_⟩
  rintro scan rfl flow
  obtain ⟨line, toLine, fromLine⟩ := @YamlCursor.Reads.split _ _ ['\n'] _ reads
  have first : scan.cursor.rest = '\n' :: line.rest := toLine.rest
  rw [skipGap_eq (by simp [first]), skipGapWithin_newline _ flow toLine, first, List.length_cons,
    skipGapWithin_spaces _ fromLine starts, behindGap, Bool.or_true]

/-- What stands between the mark of a document and its content. -/
theorem skips_comment (oneLine : ∀ c ∈ comment, isLineBreak c = false)
    (reads : cursor.Reads ('\n' :: (('#' :: comment) ++ ['\n'])) after)
    (starts : StartsToken after.rest) :
    SkipsGap cursor ('\n' :: (('#' :: comment) ++ ['\n'])) true after := by
  refine ⟨reads, ?_⟩
  rintro scan rfl flow
  obtain ⟨line, toLine, fromLine⟩ := @YamlCursor.Reads.split _ _ ['\n'] _ reads
  have first : scan.cursor.rest = '\n' :: '#' :: (comment ++ '\n' :: after.rest) := by
    simpa using reads.rest
  have skipped := fun fuel => @skipGapWithin_comment { scan with cursor := line, allowKey := true }
    after comment fuel flow oneLine fromLine
  rw [skipGap_eq (by simp [first]), skipGapWithin_newline _ flow toLine, first, List.length_cons,
    skipped, List.length_cons]
  rw [skipGapWithin_spaces (n := 0) _ (.refl after) starts, behindGap, Bool.or_true]

end

/-! ### In front of a token -/

/-- The column that tells which blocks end: none is left at the end of the text. -/
def blockColumn (cursor : YamlCursor) : Int := if cursor.rest.isEmpty then -1 else cursor.column

theorem blockColumn_of_rest {cursor : YamlCursor} (some : cursor.rest ≠ []) :
    blockColumn cursor = cursor.column := by
  simp [blockColumn, some]

theorem neg_one_le_blockColumn (cursor : YamlCursor) : -1 ≤ blockColumn cursor := by
  unfold blockColumn
  split <;> omega

/-- A scan becomes another one when the gap in front of the next token is skipped. -/
structure Settles (scan settled : YamlScan) : Prop where
  steps : ∃ fresh behind, scan.dropStaleKeys = .ok fresh ∧ fresh.skipGap.dropStaleKeys = .ok behind
    ∧ settled = behind.unwindTo (blockColumn behind.cursor)
  forward : settled.cursor.rest.length ≤ scan.cursor.rest.length

/-- A scan becomes another one by fetching some tokens. Each of them takes a character. -/
def Runs (scan next : YamlScan) : Prop :=
  ∃ n, next.cursor.rest.length + n ≤ scan.cursor.rest.length
    ∧ ∀ fuel, runWithin (fuel + n) scan = runWithin fuel next

theorem Runs.refl (scan : YamlScan) : scan.Runs scan := ⟨0, Nat.le_refl _, fun _ => rfl⟩

theorem Runs.trans {last : YamlScan} (first : scan.Runs next) (second : next.Runs last) :
    scan.Runs last := by
  obtain ⟨n, less, runs⟩ := first
  obtain ⟨m, less', runs'⟩ := second
  refine ⟨n + m, by omega, fun fuel => ?_⟩
  rw [Nat.add_comm n, ← Nat.add_assoc, runs, runs']

/-- The next token is fetched. It takes a character. -/
def Fetches (settled next : YamlScan) : Prop :=
  ∃ c rest, settled.cursor.rest = c :: rest ∧ settled.fetchAt c = .ok next
    ∧ next.cursor.rest.length < settled.cursor.rest.length

theorem Settles.runs (settles : scan.Settles settled) (fetches : settled.Fetches next) :
    scan.Runs next := by
  obtain ⟨⟨fresh, behind, first, second, rfl⟩, less⟩ := settles
  obtain ⟨c, rest, split, fetched, forward⟩ := fetches
  refine ⟨1, by omega, fun fuel => ?_⟩
  rw [unwindTo_cursor] at split
  rw [blockColumn_of_rest (by simp [split])] at fetched
  have peek : behind.cursor.peek = some c := by simp [YamlCursor.peek, split]
  rw [runWithin, first]
  simp only [fetch, second, bind, Except.bind, unwindTo_cursor, peek, fetched, pure, Except.pure]

/-- At the end of the text the tokens are complete. -/
theorem Settles.done (settles : scan.Settles settled) (ends : settled.cursor.rest = [])
    (keys : settled.possibleKeys = []) (fuel : Nat) :
    (runWithin (fuel + 1) scan).1.map (·.1) = (settled.tokens.map (·.1)).reverse ++ [.streamEnd]
      ∧ (runWithin (fuel + 1) scan).2 = none := by
  obtain ⟨⟨fresh, behind, first, second, rfl⟩, -⟩ := settles
  rw [unwindTo_cursor] at ends
  have atEnd : blockColumn behind.cursor = -1 := by simp [blockColumn, ends]
  rw [atEnd] at keys ⊢
  have closed := @unwindTo_unwindTo behind behind.cursor.column (-1) (by omega)
  have peek : behind.cursor.peek = none := by simp [YamlCursor.peek, ends]
  rw [runWithin, first]
  simp [fetch, second, bind, Except.bind, peek, pure, Except.pure, fetchTopLevel, closed, removeKey,
    possibleKey?, keys, add]

/-! ### Between two tokens -/

/-- What is known of a scan outside of brackets: the open blocks and the tokens, last first. -/
structure Holds (scan : YamlScan) (stack : List Int) (kinds : List YamlToken) : Prop where
  flow : scan.flowLevel = 0
  levels : scan.levels = stack
  bottom : -1 ∈ stack
  tokens : scan.tokens.map (·.1) = kinds
  count : scan.count = scan.tokens.length

/-- What is known of a scan without a possible key. -/
structure At (scan : YamlScan) (rest : List Char) (column : Int) (allowKey : Bool) (stack : List Int)
    (kinds : List YamlToken) : Prop extends Holds scan stack kinds where
  rest : scan.cursor.rest = rest
  column : blockColumn scan.cursor = column
  allowKey : scan.allowKey = allowKey
  keys : scan.possibleKeys = []

/-- What is known of a scan when the gap in front of the next token is skipped. -/
def Ready (scan : YamlScan) (rest : List Char) (column : Int) (allowKey : Bool) (stack : List Int)
    (kinds : List YamlToken) : Prop :=
  ∃ settled, scan.Settles settled ∧ settled.At rest column allowKey stack kinds

/-- A scan without the keys that are stale. -/
def withoutStale (scan : YamlScan) : YamlScan :=
  { scan with possibleKeys := scan.possibleKeys.filter fun key => !scan.isStale key }

/-- Keys that are not required can be dropped at any time. -/
theorem dropStaleKeys_of_optional (optional : ∀ key ∈ scan.possibleKeys, key.required = false) :
    scan.dropStaleKeys = .ok scan.withoutStale := by
  have none : (scan.possibleKeys.find? fun key => scan.isStale key && key.required) = none := by
    rw [List.find?_eq_none]
    intro key member
    simp [optional key member]
  rw [dropStaleKeys, none, withoutStale]

/-- Keys on earlier lines are stale. -/
theorem withoutStale_of_earlier
    (earlier : ∀ key ∈ scan.possibleKeys, key.mark.line < scan.cursor.mark.line) :
    scan.withoutStale = { scan with possibleKeys := [] } := by
  have stale : (scan.possibleKeys.filter fun key => !scan.isStale key) = [] := by
    rw [List.filter_eq_nil_iff]
    intro key member
    have before := earlier key member
    simp only [isStale, Bool.not_eq_true, Bool.not_eq_false', Bool.or_eq_true, bne_iff_ne]
    omega
  rw [withoutStale, stale]

/-- Where the next token stands, the blocks end that are indented more. -/
theorem Holds.unwindTo (holds : scan.Holds stack kinds) (keys : scan.possibleKeys = []) :
    (scan.unwindTo (blockColumn scan.cursor)).At scan.cursor.rest (blockColumn scan.cursor)
      scan.allowKey (openAt (blockColumn scan.cursor) stack)
      (endsAt (blockColumn scan.cursor) stack ++ kinds) := by
  have unwound : Unwound (blockColumn scan.cursor) scan
      (scan.unwindTo (blockColumn scan.cursor)) :=
    unwound_unwindTo holds.flow ⟨-1, holds.levels.symm ▸ holds.bottom,
      neg_one_le_blockColumn scan.cursor⟩
  refine ⟨⟨?_, ?_, ?_, ?_, ?_⟩, ?_, ?_, ?_, ?_⟩
  · exact unwound.flow.trans holds.flow
  · rw [unwound.levels, holds.levels]
  · exact mem_openAt (neg_one_le_blockColumn scan.cursor) holds.bottom
  · rw [unwound.tokens, holds.levels, holds.tokens]
  · exact unwound.count holds.count
  · rw [unwindTo_cursor]
  · rw [unwindTo_cursor]
  · exact unwound.allowKey
  · exact unwound.keys.trans keys

/-- The gap in front of the next token closes blocks. Keys on earlier lines are given up. -/
theorem Holds.ready {gap : List Char} {broken : Bool} {after : YamlCursor}
    (holds : scan.Holds stack kinds)
    (keys : ∀ key ∈ scan.possibleKeys, key.required = false ∧ key.mark.line < after.mark.line)
    (skips : SkipsGap scan.cursor gap broken after) :
    scan.Ready after.rest (blockColumn after) (scan.allowKey || broken)
      (openAt (blockColumn after) stack) (endsAt (blockColumn after) stack ++ kinds) := by
  have first : scan.dropStaleKeys = .ok scan.withoutStale :=
    dropStaleKeys_of_optional fun key member => (keys key member).1
  have skipped : scan.withoutStale.skipGap = scan.withoutStale.behindGap broken after :=
    skips.skips rfl holds.flow
  have later : ∀ key ∈ (scan.withoutStale.behindGap broken after).possibleKeys,
      key.required = false ∧ key.mark.line < after.mark.line :=
    fun key member => keys key (List.mem_filter.mp member).1
  have second : scan.withoutStale.skipGap.dropStaleKeys
      = .ok { scan.withoutStale.behindGap broken after with possibleKeys := [] } := by
    rw [skipped, dropStaleKeys_of_optional fun key member => (later key member).1,
      withoutStale_of_earlier fun key member => (later key member).2]
  have behind : ({ scan.withoutStale.behindGap broken after with possibleKeys := [] } : YamlScan).Holds
      stack kinds := ⟨holds.flow, holds.levels, holds.bottom, holds.tokens, holds.count⟩
  refine ⟨_, ⟨⟨_, _, first, second, rfl⟩, ?_⟩, behind.unwindTo rfl⟩
  rw [unwindTo_cursor, skips.reads.rest, List.length_append]
  exact Nat.le_add_left _ _

/-! ### The next line -/

/-- What follows a node on the next line: a line that is indented to a column, or nothing. -/
inductive Follows : List Char → Int → List Char → Prop where
  | line {rest : List Char} (n : Nat) : rest ≠ [] → StartsToken rest →
      Follows (List.replicate n ' ' ++ rest) n rest
  | nothing : Follows [] (-1) []

theorem isInline_of_mem_replicate {n : Nat} :
    ∀ c ∈ List.replicate n ' ', YamlCursor.isInline c = true := by
  simp [YamlCursor.isInline, isLineBreak]

/-- The spaces of the next line. -/
theorem Follows.exists_spaces {tail rest : List Char} {column indent : Int}
    (follows : Follows tail column rest) (le : column ≤ indent) :
    ∃ n, tail = List.replicate n ' ' ++ rest ∧ StartsToken rest
      ∧ (0 ≤ indent → (n : Int) ≤ indent)
      ∧ ∀ cursor : YamlCursor, cursor.rest = rest → cursor.column = n →
        blockColumn cursor = column := by
  cases follows with
  | line n some starts =>
    refine ⟨n, rfl, starts, fun _ => le, fun cursor there column => ?_⟩
    rw [blockColumn_of_rest (there ▸ some), column]
  | nothing =>
    refine ⟨0, rfl, .nil, fun positive => by simpa using positive, fun cursor there _ => ?_⟩
    simp [blockColumn, there]

/-- The end of a line and the spaces of the next one are a gap. -/
theorem Follows.skips {tail : List Char} {behind : YamlCursor} (follows : Follows tail column rest)
    (there : behind.rest = '\n' :: tail) :
    ∃ gap after, SkipsGap behind gap true after ∧ after.rest = rest ∧ blockColumn after = column
      ∧ behind.mark.line < after.mark.line := by
  obtain ⟨n, rfl, starts, -, isNext⟩ := follows.exists_spaces (Int.le_refl column)
  have there : behind.rest = ('\n' :: List.replicate n ' ') ++ rest := there
  obtain ⟨after, toAfter, atRest⟩ := YamlCursor.exists_reads there
  obtain ⟨line, inLine⟩ := @YamlCursor.Reads.newLine _ _ [] _ _ toAfter rfl isInline_of_mem_replicate
  rw [List.length_replicate] at inLine
  exact ⟨_, after, skips_line toAfter (atRest ▸ starts), atRest, isNext after atRest inLine, line⟩

end YamlScan

end ModelSchema
