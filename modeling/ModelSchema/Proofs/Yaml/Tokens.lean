import ModelSchema.Proofs.Yaml.Scan

/-!
The tokens that the writer leaves.

* `YamlScan.Ready.dash`, `YamlScan.Ready.questionMark`, `YamlScan.Ready.colon`: indicators, the first of
  which opens a block.
* `YamlScan.At.fetchAt_quoted`, `YamlScan.At.fetchAt_plain`: a scalar is one token, in front of which a
  key can still begin.
* `YamlScan.At.ready_behindNode`, `YamlScan.At.fetches_colon`: a node that is not a key, and one that a
  colon makes a key.
* `YamlScan.Brackets.ready`: collections without members.
-/

namespace ModelSchema

namespace YamlScan

variable {scan settled next : YamlScan} {stack : List Int} {kinds : List YamlToken}
  {rest : List Char} {column indent : Int} {allowKey : Bool} {c : Char}

/-! ### Indicators -/

/-- The open blocks behind an indicator. -/
def opened (column indent : Int) (stack : List Int) : List Int :=
  if indent < column then column :: indent :: stack else indent :: stack

/-- The token of the block that an indicator opens. -/
def opening (block : YamlToken) (column indent : Int) : List YamlToken :=
  if indent < column then [block] else []

theorem Holds.mark (holds : scan.Holds stack kinds) (token : YamlToken) (length : Nat) :
    (scan.mark token length).Holds stack (token :: kinds) where
  flow := holds.flow
  levels := holds.levels
  bottom := holds.bottom
  tokens := congrArg (token :: ·) holds.tokens
  count := congrArg (· + 1) holds.count

theorem Holds.openBlock (holds : scan.Holds (indent :: stack) kinds) (block : YamlToken) :
    (scan.openBlock block).Holds (opened scan.cursor.column indent stack)
      (opening block scan.cursor.column indent ++ kinds) := by
  obtain ⟨rfl, rfl⟩ : scan.indent = indent ∧ scan.indents = stack := List.cons.inj holds.levels
  unfold YamlScan.openBlock addIndent? opened opening
  by_cases lt : scan.indent < scan.cursor.column
  · simp only [lt, if_true]
    exact ⟨holds.flow, rfl, List.mem_cons_of_mem _ holds.bottom, congrArg (block :: ·) holds.tokens,
      congrArg (· + 1) holds.count⟩
  · simp only [lt, if_false]
    exact holds

/-- Opening a block changes nothing but the blocks and the tokens. -/
theorem openBlock_rest (scan : YamlScan) (block : YamlToken) :
    (scan.openBlock block).cursor = scan.cursor ∧ (scan.openBlock block).allowKey = scan.allowKey
      ∧ (scan.openBlock block).possibleKeys = scan.possibleKeys := by
  unfold openBlock addIndent?
  split
  next opened found =>
    split at found
    · cases found
      exact ⟨rfl, rfl, rfl⟩
    · cases found
  next => exact ⟨rfl, rfl, rfl⟩

theorem removeKey_of_nil (keys : scan.possibleKeys = []) : scan.removeKey = .ok scan := by
  simp [removeKey, possibleKey?, keys]

theorem Holds.inFlow (holds : scan.Holds stack kinds) : scan.inFlow = false := by
  simp [YamlScan.inFlow, holds.flow]

theorem At.column_eq {text : List Char} (at_ : scan.At text column allowKey stack kinds)
    (some : text ≠ []) : (scan.cursor.column : Int) = column := by
  rw [← at_.column, blockColumn_of_rest (at_.rest ▸ some)]

/-- A character that takes a column is passed. -/
theorem At.behind (at_ : scan.At (c :: rest) column allowKey stack kinds)
    (inline : YamlCursor.isInline c = true) (some : rest ≠ []) :
    scan.cursor.next.rest = rest ∧ blockColumn scan.cursor.next = column + 1
      ∧ scan.cursor.next.rest.length < scan.cursor.rest.length := by
  obtain ⟨reads, there⟩ := YamlCursor.reads_next at_.rest
  have column := (reads.inline (by simpa using inline)).2
  have before := at_.column_eq (by simp)
  refine ⟨there, ?_, ?_⟩
  · rw [blockColumn_of_rest (there ▸ some), column, List.length_singleton]
    omega
  · rw [there, at_.rest]
    exact Nat.lt_succ_self _

/-- An indicator opens its block unless the block is open, and a key can begin behind it. -/
theorem At.indicator (at_ : scan.At (c :: rest) column true (indent :: stack) kinds)
    (inline : YamlCursor.isInline c = true) (some : rest ≠ []) (block token : YamlToken) :
    ∃ next, { scan.openBlock block with allowKey := true }.removeKey
        = .ok { scan.openBlock block with allowKey := true }
      ∧ next = { scan.openBlock block with allowKey := true }.mark token 1
      ∧ next.At rest (column + 1) true (opened column indent stack)
        (token :: (opening block column indent ++ kinds))
      ∧ next.cursor.rest.length < scan.cursor.rest.length := by
  obtain ⟨cursor, -, keys⟩ := openBlock_rest scan block
  obtain ⟨there, behind, shorter⟩ := at_.behind inline some
  have opens := at_.toHolds.openBlock block
  rw [at_.column_eq (by simp)] at opens
  have opens : { scan.openBlock block with allowKey := true }.Holds (opened column indent stack)
      (opening block column indent ++ kinds) := ⟨opens.1, opens.2, opens.3, opens.4, opens.5⟩
  have same : ({ scan.openBlock block with allowKey := true }.mark token 1).cursor = scan.cursor.next := by
    simp [mark, cursor, YamlCursor.skip]
  refine ⟨_, removeKey_of_nil (keys.trans at_.keys), rfl, ⟨opens.mark token 1, ?_, ?_, rfl, ?_⟩, ?_⟩
  · rw [same, there]
  · rw [same, behind]
  · exact keys.trans at_.keys
  · rw [same]
    exact shorter

theorem At.isSeparated {d : Char} (at_ : scan.At (c :: d :: rest) column allowKey stack kinds)
    (separator : isSeparator d = true) : scan.cursor.isSeparated 1 = true := by
  simp [YamlCursor.isSeparated, YamlCursor.peekAt, at_.rest, separator]

/-- No mark between documents begins with a character and a space. -/
theorem At.isAtDocumentMark {d : Char} (at_ : scan.At (c :: d :: rest) column allowKey stack kinds)
    (separator : isSeparator d = true) : scan.cursor.isAtDocumentMark = false := by
  have noMark : ScalarTraits.isDocumentMark (c :: d :: rest) = false := by
    unfold ScalarTraits.isDocumentMark
    split
    next same =>
      obtain ⟨-, rfl, -⟩ : c = '-' ∧ d = '-' ∧ _ := by simpa using same
      cases separator
    next same =>
      obtain ⟨-, rfl, -⟩ : c = '.' ∧ d = '.' ∧ _ := by simpa using same
      cases separator
    next => rfl
  rw [YamlCursor.isAtDocumentMark, at_.rest, noMark, Bool.false_and]

/-- A dash opens a sequence or begins its next item. -/
theorem Ready.dash (ready : scan.Ready ('-' :: ' ' :: rest) column true (indent :: stack) kinds) :
    ∃ next, scan.Runs next ∧ next.At (' ' :: rest) (column + 1) true (opened column indent stack)
      (.blockEntry :: (opening .blockSequenceStart column indent ++ kinds)) := by
  obtain ⟨settled, settles, at_⟩ := ready
  obtain ⟨next, removed, rfl, behind, shorter⟩ :=
    at_.indicator rfl (by simp) .blockSequenceStart .blockEntry
  refine ⟨_, settles.runs ⟨_, _, at_.rest, ?_, shorter⟩, behind⟩
  simp [fetchAt, at_.isAtDocumentMark rfl, at_.isSeparated rfl, fetchBlockEntry, at_.inFlow,
    at_.allowKey, removed, pure, Except.pure, bind, Except.bind]

/-- A question mark begins an entry whose key takes lines of its own. -/
theorem Ready.questionMark
    (ready : scan.Ready ('?' :: ' ' :: rest) column true (indent :: stack) kinds) :
    ∃ next, scan.Runs next ∧ next.At (' ' :: rest) (column + 1) true (opened column indent stack)
      (.key :: (opening .blockMappingStart column indent ++ kinds)) := by
  obtain ⟨settled, settles, at_⟩ := ready
  obtain ⟨next, removed, rfl, behind, shorter⟩ :=
    at_.indicator rfl (by simp) .blockMappingStart .key
  refine ⟨_, settles.runs ⟨_, _, at_.rest, ?_, shorter⟩, behind⟩
  have inFlow := (at_.toHolds.openBlock .blockMappingStart).inFlow
  simp [fetchAt, at_.isAtDocumentMark rfl, at_.isSeparated rfl, fetchKey, at_.inFlow,
    at_.allowKey, inFlow, removed, pure, Except.pure, bind, Except.bind]

/-- A colon on its own line is followed by the value of such an entry. -/
theorem Ready.colon (ready : scan.Ready (':' :: ' ' :: rest) column true (indent :: stack) kinds)
    (le : column ≤ indent) :
    ∃ next, scan.Runs next
      ∧ next.At (' ' :: rest) (column + 1) true (indent :: stack) (.value :: kinds) := by
  obtain ⟨settled, settles, at_⟩ := ready
  obtain ⟨next, removed, rfl, behind, shorter⟩ :=
    at_.indicator rfl (by simp) .blockMappingStart .value
  have notLess : ¬indent < column := Int.not_lt.mpr le
  simp only [opened, opening, notLess, if_false, List.nil_append] at behind
  refine ⟨_, settles.runs ⟨_, _, at_.rest, ?_, shorter⟩, behind⟩
  have inFlow := (at_.toHolds.openBlock .blockMappingStart).inFlow
  simp [fetchAt, at_.isAtDocumentMark rfl, at_.isSeparated rfl, fetchValue, possibleKey?, at_.keys,
    at_.inFlow, at_.allowKey, inFlow, removed, pure, Except.pure, bind, Except.bind]

/-! ### Nodes that may be keys -/

/-- The key that a token here may be. -/
def keysBehind (scan : YamlScan) : List PossibleKey :=
  if scan.allowKey then
    [⟨0, scan.count, scan.indent = scan.cursor.column, scan.cursor.mark⟩]
  else []

/-- What becomes of a scan by a token that may be a key. -/
def withNode (scan : YamlScan) (token : YamlToken) (behind : YamlCursor) (allowKey : Bool) : YamlScan :=
  { scan.add token scan.cursor.mark with
    possibleKeys := scan.keysBehind
    cursor := behind
    allowKey := allowKey }

theorem Holds.withNode (holds : scan.Holds stack kinds) (token : YamlToken) (behind : YamlCursor) :
    (scan.withNode token behind allowKey).Holds stack (token :: kinds) where
  flow := holds.flow
  levels := holds.levels
  bottom := holds.bottom
  tokens := congrArg (token :: ·) holds.tokens
  count := congrArg (· + 1) holds.count

theorem At.saveKey (at_ : scan.At rest column allowKey stack kinds) :
    scan.saveKey = .ok { scan with possibleKeys := scan.keysBehind } := by
  obtain ⟨cursor, flowLevel, indent, indents, allowed, possibleKeys, tokens, count⟩ := scan
  obtain rfl : flowLevel = 0 := at_.flow
  obtain rfl : possibleKeys = [] := at_.keys
  unfold YamlScan.saveKey keysBehind
  cases allowed with
  | true => simp [removeKey, possibleKey?, inFlow, bind, Except.bind, pure, Except.pure]
  | false => simp

/-- A token that is read by a function of the cursor. -/
theorem At.fetchNode {read : YamlCursor → Except YamlError (YamlToken × YamlCursor)} {token : YamlToken}
    {behind : YamlCursor} (at_ : scan.At rest column allowKey stack kinds)
    (reads : read scan.cursor = .ok (token, behind)) :
    scan.fetchNode read = .ok (scan.withNode token behind false) := by
  rw [YamlScan.fetchNode, at_.saveKey]
  simp [reads, bind, Except.bind, pure, Except.pure]
  rfl

/-- A plain scalar. -/
theorem At.fetchPlain {read : PlainScalarRead} {behind : YamlCursor}
    (at_ : scan.At rest column allowKey (indent :: stack) kinds)
    (reads : scan.cursor.plainScalar false (indent + 1) = (read, behind)) :
    scan.fetchPlain
      = .ok (scan.withNode (.scalar (String.ofList read.text) true) behind read.lineBroken) := by
  obtain ⟨rfl, -⟩ : scan.indent = indent ∧ scan.indents = stack := List.cons.inj at_.levels
  have inFlow : YamlScan.inFlow { scan with possibleKeys := scan.keysBehind } = false := at_.inFlow
  rw [YamlScan.fetchPlain, at_.saveKey]
  simp [inFlow, reads, bind, Except.bind, pure, Except.pure]
  rfl

/-- A scalar in quotes begins with its quote. -/
theorem At.fetchAt_quoted {text : String} {behind : YamlCursor}
    (at_ : scan.At (c :: rest) column allowKey stack kinds) (quote : c = '\'' ∨ c = '"')
    (reads : scan.cursor.quotedScalar = .ok (text, behind)) :
    scan.fetchAt c = .ok (scan.withNode (.scalar text false) behind false) := by
  have noMark : scan.cursor.isAtDocumentMark = false := by
    rw [YamlCursor.isAtDocumentMark, at_.rest]
    rcases quote with rfl | rfl <;> rfl
  have fetches : scan.fetchAt c = scan.fetchNode fun cursor =>
      cursor.quotedScalar.map fun read => (.scalar read.1 false, read.2) := by
    rcases quote with rfl | rfl <;> simp [fetchAt, noMark]
  rw [fetches]
  exact at_.fetchNode (by simp [reads, Except.map])

/-- A plain scalar begins with any character that begins nothing else. -/
theorem At.fetchAt_plain {read : PlainScalarRead} {behind : YamlCursor}
    (at_ : scan.At (c :: rest) column allowKey (indent :: stack) kinds)
    (noMark : scan.cursor.isAtDocumentMark = false)
    (noIndicator : leadingIndicators.contains c = false) (noSeparator : isSeparator c = false)
    (solid : c = '?' ∨ c = ':' ∨ c = '-' → scan.cursor.isSeparated 1 = false)
    (reads : scan.cursor.plainScalar false (indent + 1) = (read, behind)) :
    scan.fetchAt c
      = .ok (scan.withNode (.scalar (String.ofList read.text) true) behind read.lineBroken) := by
  have absent : c ∉ leadingIndicators := by simpa using noIndicator
  have starts : scan.startsPlain c = true := by
    by_cases special : c = '?' ∨ c = ':' ∨ c = '-'
    · have solid := solid special
      rcases special with rfl | rfl | rfl <;> simp [startsPlain, solid, at_.inFlow]
    · simp only [not_or] at special
      simp [startsPlain, noSeparator, absent, special]
  have fetched := at_.fetchPlain reads
  have different : ∀ d ∈ leadingIndicators, c ≠ d := by
    rintro d member rfl
    exact absent member
  have inFlow := at_.inFlow
  have one : c ≠ '%' := different _ (by decide)
  have two : c ≠ '[' ∧ c ≠ ']' ∧ c ≠ '\x7b' ∧ c ≠ '\x7d' ∧ c ≠ ',' :=
    ⟨different _ (by decide), different _ (by decide), different _ (by decide),
      different _ (by decide), different _ (by decide)⟩
  have three : c ≠ '*' ∧ c ≠ '&' ∧ c ≠ '!' ∧ c ≠ '|' ∧ c ≠ '>' ∧ c ≠ '\'' ∧ c ≠ '"' :=
    ⟨different _ (by decide), different _ (by decide), different _ (by decide),
      different _ (by decide), different _ (by decide), different _ (by decide),
      different _ (by decide)⟩
  by_cases special : c = '?' ∨ c = ':' ∨ c = '-'
  · have solid := solid special
    simp [fetchAt, noMark, one, two, three, solid, inFlow, starts, fetched]
  · simp only [not_or] at special
    simp [fetchAt, noMark, one, two, three, special, starts, fetched]

/-- A key can still begin where the scan was, on the same line and not too far behind. -/
theorem isStale_keysBehind (line : next.cursor.mark.line = scan.cursor.mark.line)
    (near : next.cursor.mark.index ≤ scan.cursor.mark.index + keyLimit) :
    ∀ key ∈ scan.keysBehind, next.isStale key = false := by
  intro key member
  have same : key.mark = scan.cursor.mark := by
    unfold keysBehind at member
    split at member
    · rw [List.mem_singleton.mp member]
    · cases member
  have short : ¬keyLimit < next.cursor.mark.index - scan.cursor.mark.index := by omega
  simp [isStale, same, line, short]

theorem At.optional_of_mem_keysBehind {text : List Char}
    (at_ : scan.At text column allowKey (indent :: stack) kinds) (some : text ≠ [])
    (lt : indent < column) :
    ∀ key ∈ scan.keysBehind, key.required = false ∧ key.mark = scan.cursor.mark := by
  intro key member
  obtain ⟨rfl, -⟩ : scan.indent = indent ∧ scan.indents = stack := List.cons.inj at_.levels
  have here := at_.column_eq some
  unfold keysBehind at member
  split at member
  · rw [List.mem_singleton.mp member]
    exact ⟨by simp; omega, rfl⟩
  · cases member

/-- A token that takes lines of its own can be no key, since it stands further right than the block. -/
theorem At.ready_behindNode {text gap : List Char} {behind after : YamlCursor} {broken : Bool}
    (at_ : scan.At text column allowKey (indent :: stack) kinds) (some : text ≠ [])
    (lt : indent < column) (token : YamlToken) (allowed : Bool) (skips : SkipsGap behind gap broken after)
    (line : scan.cursor.mark.line < after.mark.line) :
    (scan.withNode token behind allowed).Ready after.rest (blockColumn after) (allowed || broken)
      (openAt (blockColumn after) (indent :: stack))
      (endsAt (blockColumn after) (indent :: stack) ++ token :: kinds) := by
  refine (at_.toHolds.withNode token behind).ready (fun key member => ?_) skips
  obtain ⟨optional, same⟩ := at_.optional_of_mem_keysBehind some lt key member
  exact ⟨optional, same ▸ line⟩

/-! ### Tokens without a gap in between -/

theorem unwindTo_of_le (le : scan.indent ≤ column) : scan.unwindTo column = scan := by
  unfold unwindTo
  split
  · rfl
  · cases scan.indents with
    | nil => rfl
    | cons outer rest => rw [unwind_cons, if_neg (Int.not_lt.mpr le)]

/-- Nothing changes in front of a token when no gap is there. -/
theorem settles_self (starts : StartsToken scan.cursor.rest) (some : scan.cursor.rest ≠ [])
    (fresh : ∀ key ∈ scan.possibleKeys, scan.isStale key = false)
    (le : scan.indent ≤ scan.cursor.column) : scan.Settles scan := by
  have dropped : scan.dropStaleKeys = .ok scan := by
    have none : (scan.possibleKeys.find? fun key => scan.isStale key && key.required) = none := by
      rw [List.find?_eq_none]
      intro key member
      simp [fresh key member]
    have all : (scan.possibleKeys.filter fun key => !scan.isStale key) = scan.possibleKeys := by
      rw [List.filter_eq_self]
      intro key member
      simp [fresh key member]
    rw [dropStaleKeys, none, all]
  have skipped : scan.skipGap = scan := by
    have noMark : scan.cursor.rest.head? ≠ Option.some (Char.ofNat 0xfeff) := by
      intro same
      cases (starts _ same).2.2
    rw [skipGap_eq noMark, skipGapWithin_spaces (n := 0) _ (.refl _) starts]
  refine ⟨⟨scan, scan, dropped, by rw [skipped, dropped], ?_⟩, Nat.le_refl _⟩
  rw [blockColumn_of_rest some, unwindTo_of_le le]

/-- What becomes of a scan by a node that is a key and by the colon behind it. The token of the key
comes in front of that of the node, and behind that of the mapping that it may open. -/
def withKey (scan : YamlScan) (token : YamlToken) (behind : YamlCursor) : YamlScan :=
  let opens := opening .blockMappingStart scan.cursor.column scan.indent
  let tokens := (.value, behind.mark) :: (token, scan.cursor.mark) :: (.key, scan.cursor.mark)
    :: (opens.map (·, scan.cursor.mark) ++ scan.tokens)
  { scan with
    cursor := behind.next
    indent := max scan.indent scan.cursor.column
    indents := if scan.indent < scan.cursor.column then scan.indent :: scan.indents else scan.indents
    allowKey := false
    possibleKeys := []
    tokens := tokens
    count := tokens.length }

theorem Holds.withKey (holds : scan.Holds (indent :: stack) kinds) (token : YamlToken)
    (behind : YamlCursor) :
    (scan.withKey token behind).Holds (opened scan.cursor.column indent stack)
      (.value :: token :: .key
        :: (opening .blockMappingStart scan.cursor.column indent ++ kinds)) := by
  obtain ⟨rfl, rfl⟩ : scan.indent = indent ∧ scan.indents = stack := List.cons.inj holds.levels
  have bottom := holds.bottom
  refine ⟨holds.flow, ?_, ?_, ?_, rfl⟩
  · by_cases lt : scan.indent < scan.cursor.column
    · simp [YamlScan.withKey, YamlScan.levels, opened, lt, Int.max_eq_right (Int.le_of_lt lt)]
    · simp [YamlScan.withKey, YamlScan.levels, opened, lt, Int.max_eq_left (Int.not_lt.mp lt)]
  · unfold opened
    split
    · exact List.mem_cons_of_mem _ bottom
    · exact bottom
  · simp [YamlScan.withKey, holds.tokens, Function.comp_def]

/-- A colon behind a node makes it a key. -/
theorem At.fetches_colon {text : List Char} {behind : YamlCursor} {d : Char}
    (at_ : scan.At text column true (indent :: stack) kinds) (token : YamlToken)
    (there : behind.rest = ':' :: d :: rest) (separator : isSeparator d = true) :
    (scan.withNode token behind false).Fetches (scan.withKey token behind) := by
  obtain ⟨cursor, flowLevel, indent', indents, allowed, possibleKeys, tokens, count⟩ := scan
  obtain rfl : flowLevel = 0 := at_.flow
  obtain rfl : allowed = true := at_.allowKey
  obtain rfl : count = tokens.length := at_.count
  have separated : behind.isSeparated 1 = true := by
    simp [YamlCursor.isSeparated, YamlCursor.peekAt, there, separator]
  have noMark : behind.isAtDocumentMark = false := by
    rw [YamlCursor.isAtDocumentMark, there]
    rfl
  have two : tokens.length + 1 + 1 - tokens.length = 2 := by omega
  refine ⟨':', _, there, ?_, (YamlCursor.reads_next there).1.length_lt (by simp)⟩
  by_cases lt : indent' < cursor.mark.column
  · have wide : max indent' (cursor.mark.column : Int) = cursor.mark.column := by omega
    simp [YamlScan.withKey, withNode, add, keysBehind, fetchAt, fetchValue, separated, noMark,
      possibleKey?, eraseKey, insertAt, inFlow, addIndent?, lt, mark, two, opening, wide,
      YamlCursor.column]
    rfl
  · have narrow : max indent' (cursor.mark.column : Int) = indent' := by omega
    simp [YamlScan.withKey, withNode, add, keysBehind, fetchAt, fetchValue, separated, noMark,
      possibleKey?, eraseKey, insertAt, inFlow, addIndent?, lt, mark, opening, narrow,
      YamlCursor.column]
    rfl

/-- Behind the colon stands the value. -/
theorem At.behindKey {text : List Char} {behind : YamlCursor} {d : Char}
    (at_ : scan.At text column true (indent :: stack) kinds) (some : text ≠ []) (token : YamlToken)
    (there : behind.rest = ':' :: d :: rest) :
    (scan.withKey token behind).At (d :: rest) (behind.column + 1) false
      (opened column indent stack)
      (.value :: token :: .key :: (opening .blockMappingStart column indent ++ kinds)) := by
  obtain rfl : (scan.cursor.column : Int) = column := at_.column_eq some
  obtain ⟨toNext, atNext⟩ := YamlCursor.reads_next there
  have column := (toNext.inline (by simp [YamlCursor.isInline, isLineBreak])).2
  refine ⟨at_.toHolds.withKey token behind, atNext, ?_, rfl, rfl⟩
  have behindRest : blockColumn behind.next = behind.next.column :=
    blockColumn_of_rest (by simp [atNext])
  rw [YamlScan.withKey, behindRest, column]
  rfl

/-! ### Empty collections -/

/-- What becomes of a scan by a left bracket. -/
def insideBrackets (scan : YamlScan) (token : YamlToken) : YamlScan :=
  { scan.add token scan.cursor.mark with
    possibleKeys := scan.keysBehind
    cursor := scan.cursor.next
    flowLevel := 1
    allowKey := true }

/-- What becomes of a scan by the right bracket that belongs to the only left one. -/
def behindBrackets (scan : YamlScan) (token : YamlToken) : YamlScan :=
  { scan.add token scan.cursor.mark with
    cursor := scan.cursor.next
    flowLevel := 0
    allowKey := false }

theorem Holds.brackets (holds : scan.Holds stack kinds) (first last : YamlToken) :
    ((scan.insideBrackets first).behindBrackets last).Holds stack (last :: first :: kinds) where
  flow := rfl
  levels := holds.levels
  bottom := holds.bottom
  tokens := congrArg (last :: first :: ·) holds.tokens
  count := congrArg (· + 2) holds.count

/-- The brackets of an empty collection and their tokens. -/
inductive Brackets : Char → Char → YamlToken → YamlToken → Prop where
  | sequence : Brackets '[' ']' .flowSequenceStart .flowSequenceEnd
  | mapping : Brackets '\x7b' '\x7d' .flowMappingStart .flowMappingEnd

namespace Brackets

variable {left right : Char} {first last : YamlToken} (brackets : Brackets left right first last)
include brackets

theorem starts : StartsToken (left :: rest) ∧ StartsToken (right :: rest) := by
  cases brackets <;> exact ⟨.cons (by decide) (by decide) rfl, .cons (by decide) (by decide) rfl⟩

theorem isInline : YamlCursor.isInline left = true ∧ YamlCursor.isInline right = true := by
  cases brackets <;> exact ⟨rfl, rfl⟩

theorem fetchAt_left (split : scan.cursor.rest = left :: rest) :
    scan.fetchAt left = scan.fetchFlowStart first := by
  have noMark : scan.cursor.isAtDocumentMark = false := by
    rw [YamlCursor.isAtDocumentMark, split]
    cases brackets <;> rfl
  cases brackets <;> simp [fetchAt, noMark]

theorem fetchAt_right (split : scan.cursor.rest = right :: rest) :
    scan.fetchAt right = scan.fetchFlowEnd last := by
  have noMark : scan.cursor.isAtDocumentMark = false := by
    rw [YamlCursor.isAtDocumentMark, split]
    cases brackets <;> rfl
  cases brackets <;> simp [fetchAt, noMark]

/-- The left bracket may begin a key. -/
theorem fetches_left {text : List Char} (at_ : scan.At (left :: text) column allowKey stack kinds) :
    scan.Fetches (scan.insideBrackets first) := by
  obtain ⟨toNext, -⟩ := YamlCursor.reads_next at_.rest
  refine ⟨left, _, at_.rest, ?_, toNext.length_lt (by simp)⟩
  rw [brackets.fetchAt_left at_.rest, fetchFlowStart, at_.saveKey]
  simp [insideBrackets, bind, Except.bind, pure, Except.pure, mark, add, YamlCursor.skip, at_.flow]

/-- No gap is inside the brackets, and the left one can still be a key. -/
theorem settles_inside {text : List Char}
    (at_ : scan.At (left :: right :: text) column allowKey (indent :: stack) kinds)
    (lt : indent < column) :
    (scan.insideBrackets first).Settles (scan.insideBrackets first) := by
  obtain ⟨toRight, atRight⟩ := YamlCursor.reads_next at_.rest
  have atRight : (scan.insideBrackets first).cursor.rest = right :: text := atRight
  obtain ⟨line, nextColumn⟩ := toRight.inline (by simpa using brackets.isInline.1)
  have here := at_.column_eq (by simp)
  have near : scan.cursor.next.mark.index ≤ scan.cursor.mark.index + keyLimit := by
    rw [toRight.index, keyLimit, List.length_singleton]
    omega
  refine settles_self (atRight ▸ brackets.starts.2) (by simp [atRight])
    (isStale_keysBehind line near) ?_
  obtain ⟨rfl, -⟩ : scan.indent = indent ∧ scan.indents = stack := List.cons.inj at_.levels
  rw [List.length_singleton] at nextColumn
  show scan.indent ≤ scan.cursor.next.column
  omega

/-- The right bracket is no key. -/
theorem fetches_right {text : List Char} (token : YamlToken)
    (split : scan.cursor.next.rest = right :: text) :
    (scan.insideBrackets token).Fetches ((scan.insideBrackets token).behindBrackets last) := by
  have split : (scan.insideBrackets token).cursor.rest = right :: text := split
  have noKey : (scan.insideBrackets token).removeKey = .ok (scan.insideBrackets token) := by
    have none : (scan.insideBrackets token).possibleKey? = none := by
      unfold possibleKey?
      rw [List.find?_eq_none]
      intro key member
      have member : key ∈ scan.keysBehind := member
      unfold keysBehind at member
      split at member
      · rw [List.mem_singleton.mp member]
        simp [insideBrackets]
      · cases member
    rw [removeKey, none]
  refine ⟨right, _, split, ?_, (YamlCursor.reads_next split).1.length_lt (by simp)⟩
  rw [brackets.fetchAt_right split, fetchFlowEnd, noKey]
  simp [behindBrackets, insideBrackets, bind, Except.bind, pure, Except.pure, mark, add,
    YamlCursor.skip]

/-- An empty collection ends its line. -/
theorem ready {tail : List Char} {next : Int}
    (ready : scan.Ready (left :: right :: '\n' :: tail) column allowKey (indent :: stack) kinds)
    (lt : indent < column) (follows : Follows tail next rest) :
    ∃ after, scan.Runs after ∧ after.Ready rest next true (openAt next (indent :: stack))
      (endsAt next (indent :: stack) ++ last :: first :: kinds) := by
  obtain ⟨settled, settles, at_⟩ := ready
  obtain ⟨toRight, atRight⟩ := YamlCursor.reads_next at_.rest
  obtain ⟨toEnd, atEnd⟩ := YamlCursor.reads_next atRight
  have runs := settles.runs (brackets.fetches_left at_)
  have runs' := (brackets.settles_inside at_ lt).runs (brackets.fetches_right first atRight)
  obtain ⟨gap, after, skips, atRest, isNext, later⟩ := follows.skips atEnd
  have ready := (at_.toHolds.brackets first last).ready (fun key member => ?_) skips
  · rw [isNext, atRest] at ready
    exact ⟨_, runs.trans runs', ready⟩
  · obtain ⟨notRequired, same⟩ := at_.optional_of_mem_keysBehind (by simp) lt key member
    have forward := (toRight.trans toEnd).line_le
    exact ⟨notRequired, same ▸ Nat.lt_of_le_of_lt forward later⟩

end Brackets

end YamlScan

end ModelSchema
