import ModelSchema.Proofs.Yaml.Scalars

/-!
Nodes are scanned as they were written.

* `YamlNode.IsTree`: nodes that are made of texts, words, numbers, lists and dictionaries.
* `YamlNode.kept`: whether every scalar of a node is read back where it is written.
* `YamlNode.tokens`: the tokens of a node.
* `YamlNode.scans`: the tokens of a node are those that are scanned from its lines.
-/

namespace ModelSchema

namespace YamlNode

/-! ### Trees -/

/-- The nodes of trees: keys are texts. -/
inductive IsTree : YamlNode → Prop where
  | scalar {tag : YamlTag} {text : String} : IsTreeScalar tag text → IsTree (.scalar tag text)
  | sequence {items : List YamlNode} : (∀ item ∈ items, IsTree item) →
      IsTree (.sequence .sequence items)
  | mapping {entries : List (YamlNode × YamlNode)} :
      (∀ entry ∈ entries, ∃ text, entry.1 = .scalar .str text) →
      (∀ entry ∈ entries, IsTree entry.2) → IsTree (.mapping .mapping entries)

theorem IsTree.isTreeScalar {tag : YamlTag} {text : String} (isTree : (YamlNode.scalar tag text).IsTree) :
    IsTreeScalar tag text := by
  cases isTree with
  | scalar isScalar => exact isScalar

mutual

/-- Whether every scalar of a node is read back where it is written. A simple key is not if it is
written too long. -/
def kept (place : YamlPlace) : YamlNode → Bool
  | .scalar tag text => scalarKept place.fold false tag text
  | .sequence _ items => itemsKept place.sequence items
  | .mapping _ entries => entriesKept place.mapping entries

def itemsKept (indent : Nat) : List YamlNode → Bool
  | [] => true
  | item :: rest => item.kept (.behindMark indent) && itemsKept indent rest

def entriesKept (indent : Nat) : List (YamlNode × YamlNode) → Bool
  | [] => true
  | (key, value) :: rest =>
    (if key.isSimpleKey then
        let length := (key.simpleKeyText indent).length
        length ≤ YamlScan.keyLimit && value.kept (.behindKey indent (indent + length + 1))
      else key.kept (.behindMark indent) && value.kept (.behindMark indent))
      && entriesKept indent rest

end

/-! ### Tokens -/

/-- The tokens of a key. -/
def keyTokens : YamlNode → List YamlToken
  | .scalar tag text =>
    [.scalar text (ScalarStyle.choose tag text (YamlNode.scalar tag text).isSimpleKey = .plain)]
  | _ => []

mutual

/-- The tokens of a node. A sequence may stand in its mapping without a block of its own. -/
def tokens (indentless : Bool) : YamlNode → List YamlToken
  | .scalar tag text => [.scalar text (ScalarStyle.choose tag text false = .plain)]
  | .sequence _ [] => [.flowSequenceStart, .flowSequenceEnd]
  | .sequence _ (item :: rest) =>
    if indentless then .blockEntry :: (item.tokens false ++ itemTokens rest)
    else .blockSequenceStart :: .blockEntry :: (item.tokens false ++ itemTokens rest) ++ [.blockEnd]
  | .mapping _ [] => [.flowMappingStart, .flowMappingEnd]
  | .mapping _ ((key, value) :: rest) =>
    .blockMappingStart :: .key :: (key.keyTokens ++ .value :: (value.tokens key.isSimpleKey
      ++ entryTokens rest)) ++ [.blockEnd]

/-- The tokens of the items of a sequence. -/
def itemTokens : List YamlNode → List YamlToken
  | [] => []
  | item :: rest => .blockEntry :: (item.tokens false ++ itemTokens rest)

/-- The tokens of the entries of a mapping. -/
def entryTokens : List (YamlNode × YamlNode) → List YamlToken
  | [] => []
  | (key, value) :: rest =>
    .key :: (key.keyTokens ++ .value :: (value.tokens key.isSimpleKey ++ entryTokens rest))

end

theorem tokens_sequence (tag : YamlTag) (item : YamlNode) (rest : List YamlNode) (indentless : Bool) :
    (YamlNode.sequence tag (item :: rest)).tokens indentless
      = if indentless then itemTokens (item :: rest)
        else .blockSequenceStart :: itemTokens (item :: rest) ++ [.blockEnd] := rfl

theorem tokens_mapping (tag : YamlTag) (entry : YamlNode × YamlNode)
    (rest : List (YamlNode × YamlNode)) (indentless : Bool) :
    (YamlNode.mapping tag (entry :: rest)).tokens indentless
      = .blockMappingStart :: entryTokens (entry :: rest) ++ [.blockEnd] := rfl

/-! ### Places -/

/-- The places of nodes below a block of an indentation. -/
inductive Placed : YamlPlace → Int → Prop where
  | root : Placed .root (-1)
  | mark (indent : Nat) : Placed (.behindMark indent) indent
  | key (indent column : Nat) : indent < column → Placed (.behindKey indent column) indent

/-- Whether a node takes lines of its own. -/
def isBlock : YamlNode → Bool
  | .sequence _ (_ :: _) | .mapping _ (_ :: _) => true
  | _ => false

/-- The indentation of the lines of a node. -/
def blockIndent (place : YamlPlace) : YamlNode → Nat
  | .mapping .. => place.mapping
  | _ => place.sequence

/-- What is written in front of a node. -/
def lead (place : YamlPlace) (node : YamlNode) : List Char :=
  if node.isBlock then firstIndent place .sequence (node.blockIndent place) else place.gap

/-- The column of the first character of a node. -/
def startColumn (place : YamlPlace) (node : YamlNode) : Nat :=
  if node.isBlock then node.blockIndent place else place.column + place.gap.length

namespace Placed

variable {place : YamlPlace} {indent : Int} (placed : Placed place indent)
include placed

/-- Further lines of a scalar stand no further left than those of a collection. -/
theorem le_fold : place.sequence ≤ place.fold ∧ place.mapping ≤ place.fold := by
  cases placed with
  | root => exact ⟨by decide, by decide⟩
  | mark i => exact ⟨Nat.le_refl _, Nat.le_refl _⟩
  | key i column => exact ⟨Nat.le_add_right _ _, Nat.le_refl _⟩

theorem lt_fold : indent < place.fold ∧ 1 ≤ place.fold := by
  cases placed with
  | root => exact ⟨by decide, by decide⟩
  | mark i => simp only [YamlPlace.behindMark]; omega
  | key i column => simp only [YamlPlace.behindKey]; omega

/-- What is no block stands further right than the block around it. -/
theorem lt_column : indent < ((place.column + place.gap.length : Nat) : Int) := by
  cases placed with
  | root => decide
  | mark i =>
    show (i : Int) < ((i + 1 + 1 : Nat) : Int)
    omega
  | key i column lt =>
    show (i : Int) < ((column + 1 : Nat) : Int)
    omega

theorem lt_mapping : indent < (place.mapping : Int) := by
  cases placed with
  | root => decide
  | mark i => simp only [YamlPlace.behindMark]; omega
  | key i column => simp only [YamlPlace.behindKey]; omega

/-- A sequence opens a block unless it stands on the line below a key. -/
theorem sequence :
    if place.sameLine then indent < (place.sequence : Int) else indent = place.sequence := by
  cases placed with
  | root => decide
  | mark i =>
    show (i : Int) < ((i + 2 : Nat) : Int)
    omega
  | key i column => rfl

end Placed

/-! ### Lines -/

/-- An entry of a mapping as it is written. -/
def entryText (indent : Nat) (key value : YamlNode) : List Char :=
  if key.isSimpleKey then
    let text := key.simpleKeyText indent
    text ++ ':' :: value.lines (.behindKey indent (indent + text.length + 1))
  else
    '?' :: key.lines (.behindMark indent) ++ List.replicate indent ' '
      ++ ':' :: value.lines (.behindMark indent)

variable {place : YamlPlace} {tag : YamlTag} {text : String} {key value item : YamlNode}

theorem lines_sequence (item : YamlNode) (rest : List YamlNode) :
    (YamlNode.sequence .sequence (item :: rest)).lines place
      = (YamlNode.sequence .sequence (item :: rest)).lead place
        ++ ('-' :: item.lines (.behindMark place.sequence) ++ itemLines place.sequence rest) :=
  List.append_assoc ..

theorem lines_mapping (key value : YamlNode) (rest : List (YamlNode × YamlNode)) :
    (YamlNode.mapping .mapping ((key, value) :: rest)).lines place
      = (YamlNode.mapping .mapping ((key, value) :: rest)).lead place
        ++ (entryText place.mapping key value ++ entryLines place.mapping rest) :=
  List.append_assoc ..

theorem entryLines_cons (indent : Nat) (key value : YamlNode) (rest : List (YamlNode × YamlNode)) :
    entryLines indent ((key, value) :: rest)
      = List.replicate indent ' ' ++ (entryText indent key value ++ entryLines indent rest) :=
  List.append_assoc ..

/-- A scalar of a tree ends its line. -/
theorem lines_scalar (isTree : IsTreeScalar tag text)
    (kept : scalarKept place.fold false tag text = true) :
    (YamlNode.scalar tag text).lines place = (YamlNode.scalar tag text).lead place
      ++ ((ScalarStyle.choose tag text false).written place.fold true
        (place.column + place.gap.length) text.toList ++ ['\n']) := by
  obtain ⟨fits, implied⟩ := fits_of_kept isTree kept
  have notLiteral : ScalarStyle.choose tag text false ≠ .literal := by
    intro literal
    rw [literal] at fits
    exact fits
  rw [lines, scalarLines, scalarText_eq implied]
  simp [notLiteral, lead, isBlock]

/-- A simple key is a text on one line. -/
theorem fits_of_isSimpleKey (simple : (YamlNode.scalar .str text).isSimpleKey = true) (fold : Nat) :
    (∀ c ∈ text.toList, isLineBreak c = false)
      ∧ (ScalarStyle.choose .str text true).Fits fold false text.toList
      ∧ (ScalarStyle.choose .str text true).impliesTag .str text = true := by
  have oneLine : ∀ c ∈ text.toList, isLineBreak c = false := by
    simp only [isSimpleKey, Bool.and_eq_true, Bool.not_eq_true'] at simple
    exact ScalarTraits.noBreak_of_multiline simple.2
  have noNext : '\u0085' ∉ text.toList := fun inside => by cases oneLine _ inside
  have kept : scalarKept fold true .str text = true := by
    unfold scalarKept
    split <;> simp [noNext]
  exact ⟨oneLine, fits_of_str kept⟩

theorem simpleKeyText_eq (simple : (YamlNode.scalar .str text).isSimpleKey = true) (indent : Nat) :
    (YamlNode.scalar .str text).simpleKeyText indent
      = (ScalarStyle.choose .str text true).written (indent + 2) false indent text.toList := by
  obtain ⟨-, -, implied⟩ := fits_of_isSimpleKey simple 0
  rw [simpleKeyText, scalarText_eq implied]
  rfl

/-- An entry begins with no gap. -/
theorem startsToken_entryText (text : String) (value : YamlNode) (indent : Nat) :
    entryText indent (.scalar .str text) value ≠ []
      ∧ ∀ tail, YamlScan.StartsToken (entryText indent (.scalar .str text) value ++ tail) := by
  unfold entryText
  split
  next simple =>
    refine ⟨by simp, fun tail => ?_⟩
    rw [simpleKeyText_eq simple, List.append_assoc]
    exact YamlScan.startsToken_written (fits_of_isSimpleKey simple _).2.1
  next => exact ⟨by simp, fun tail => .cons (by decide) (by decide) rfl⟩

/-- What is written in front of a node, and the node, which begins with no gap. -/
theorem exists_lead {node : YamlNode} (isTree : node.IsTree) (kept : node.kept place = true) :
    ∃ text, node.lines place = node.lead place ++ text ∧ text ≠ []
      ∧ ∀ tail, YamlScan.StartsToken (text ++ tail) := by
  cases isTree with
  | scalar isScalar =>
    refine ⟨_, lines_scalar isScalar kept, by simp, fun tail => ?_⟩
    rw [List.append_assoc]
    exact YamlScan.startsToken_written (fits_of_kept isScalar kept).1
  | @sequence items each =>
    cases items with
    | nil =>
      refine ⟨['[', ']', '\n'], by simp [lines, lead, isBlock], by simp, fun tail => ?_⟩
      exact .cons (by decide) (by decide) rfl
    | cons item rest =>
      exact ⟨_, lines_sequence item rest, by simp, fun tail => .cons (by decide) (by decide) rfl⟩
  | @mapping entries keys values =>
    cases entries with
    | nil =>
      refine ⟨['\x7b', '\x7d', '\n'], by simp [lines, lead, isBlock, tagMark], by simp,
        fun tail => ?_⟩
      exact .cons (by decide) (by decide) rfl
    | cons entry rest =>
      obtain ⟨key, value⟩ := entry
      obtain ⟨text, rfl⟩ := keys _ List.mem_cons_self
      obtain ⟨some, starts⟩ := startsToken_entryText text value place.mapping
      refine ⟨_, lines_mapping _ value rest, by simp [some], fun tail => ?_⟩
      rw [List.append_assoc]
      exact starts _

/-! ### Scanning -/

/-- What stands in front of a node are spaces, or a line break and spaces. -/
theorem Placed.lead_cases {indent : Int} (placed : Placed place indent) (node : YamlNode) :
    (∃ n, node.lead place = List.replicate n ' ' ∧ node.startColumn place = place.column + n
      ∧ (place.sameLine || node.isBlock) = place.sameLine)
    ∨ (∃ n, node.lead place = '\n' :: List.replicate n ' ' ∧ node.startColumn place = n
      ∧ (place.sameLine || node.isBlock) = true) := by
  cases block : node.isBlock with
  | false =>
    refine .inl ⟨place.gap.length, ?_, by simp [startColumn, block], by simp⟩
    cases placed <;> simp [lead, block, YamlPlace.gap, YamlPlace.root, YamlPlace.behindMark,
      YamlPlace.behindKey]
  | true =>
    cases placed with
    | root =>
      refine .inl ⟨0, ?_, ?_, rfl⟩
      · cases node <;> simp [lead, block, firstIndent, tagMark, blockIndent, YamlPlace.root]
      · cases node <;> simp [startColumn, block, blockIndent, YamlPlace.root]
    | mark i =>
      refine .inl ⟨1, ?_, ?_, rfl⟩
      · cases node <;> simp [lead, block, firstIndent, tagMark, blockIndent, YamlPlace.behindMark]
      · cases node <;> simp [startColumn, block, blockIndent, YamlPlace.behindMark]
    | key i column =>
      refine .inr ⟨node.blockIndent (.behindKey i column), ?_, by simp [startColumn, block], rfl⟩
      simp [lead, block, firstIndent, tagMark, newline, YamlPlace.behindKey]

/-- The first character of a node stands no further left than the block around it. -/
theorem Placed.le_startColumn {indent : Int} (placed : Placed place indent) (node : YamlNode) :
    indent ≤ node.startColumn place := by
  unfold startColumn
  split
  · cases node with
    | mapping => exact Int.le_of_lt placed.lt_mapping
    | _ =>
      have := placed.sequence
      simp only [blockIndent]
      split at this <;> omega
  · exact Int.le_of_lt placed.lt_column

variable {scan : YamlScan} {stack : List Int} {kinds : List YamlToken} {tail rest : List Char}
  {indent next : Int}

/-- The gap in front of a node is skipped. -/
theorem scans_lead {node : YamlNode} (placed : Placed place indent) (isTree : node.IsTree)
    (kept : node.kept place = true)
    (at_ : scan.At (node.lines place ++ tail) place.column place.sameLine (indent :: stack) kinds) :
    ∃ text, node.lines place = node.lead place ++ text
      ∧ scan.Ready (text ++ tail) (node.startColumn place) (place.sameLine || node.isBlock)
        (indent :: stack) kinds := by
  obtain ⟨text, split, some, starts⟩ := exists_lead isTree kept
  have written := at_.rest
  rw [split, List.append_assoc] at written
  obtain ⟨after, reads, there⟩ := YamlCursor.exists_reads written
  have starts : YamlScan.StartsToken after.rest := there ▸ starts tail
  refine ⟨text, split, ?_⟩
  have here := at_.column_eq (by simp [split, some])
  have behind := @YamlScan.blockColumn_of_rest after (by simp [there, some])
  have inner := placed.le_startColumn node
  have noKeys : ∀ key ∈ scan.possibleKeys,
      key.required = false ∧ key.mark.line < after.mark.line := by simp [at_.keys]
  rcases placed.lead_cases node with ⟨n, spaces, column, allow⟩ | ⟨n, line, column, allow⟩
  · rw [spaces] at reads
    have inLine := (reads.inline YamlScan.isInline_of_mem_replicate).2
    have start : YamlScan.blockColumn after = node.startColumn place := by
      rw [List.length_replicate] at inLine
      omega
    have ready := at_.toHolds.ready noKeys (YamlScan.skips_spaces reads starts)
    rw [start, YamlScan.openAt_of_le inner, YamlScan.endsAt_of_le inner, at_.allowKey, there] at ready
    simpa [allow] using ready
  · rw [line] at reads
    have inLine := (@YamlCursor.Reads.newLine _ _ [] _ _ reads rfl
      YamlScan.isInline_of_mem_replicate).2
    have start : YamlScan.blockColumn after = node.startColumn place := by
      rw [List.length_replicate] at inLine
      omega
    have ready := at_.toHolds.ready noKeys (YamlScan.skips_line reads starts)
    rw [start, YamlScan.openAt_of_le inner, YamlScan.endsAt_of_le inner, there, Bool.or_true] at ready
    simpa [allow] using ready

/-- Whether the tokens of a node are scanned from where it begins, up to the next line. The blocks that
end there are closed. -/
def Scans (node : YamlNode) : Prop :=
  ∀ {place : YamlPlace} {indent next : Int} {scan : YamlScan} {stack : List Int}
    {kinds : List YamlToken} {text tail rest : List Char},
    Placed place indent → node.kept place = true → (place = .root → node.closing = []) →
    node.lines place = node.lead place ++ text →
    scan.Ready (text ++ tail) (node.startColumn place) (place.sameLine || node.isBlock)
      (indent :: stack) kinds →
    YamlScan.Follows tail next rest → next ≤ indent →
    ∃ after, scan.Runs after
      ∧ after.Ready rest next true (YamlScan.openAt next (indent :: stack))
        (YamlScan.endsAt next (indent :: stack)
          ++ ((node.tokens (!place.sameLine)).reverse ++ kinds))

theorem scans_scalar (isTree : IsTreeScalar tag text) : (YamlNode.scalar tag text).Scans := by
  intro place indent next scan stack kinds written tail rest placed kept onRoot split ready follows le
  obtain ⟨fits, implied⟩ := fits_of_kept isTree kept
  rw [lines_scalar isTree kept] at split
  obtain rfl := List.append_cancel_left split
  rw [List.append_assoc] at ready
  obtain ⟨wide, foldSome⟩ := placed.lt_fold
  have nested : ScalarStyle.choose tag text false = .plain → 0 ≤ indent := by
    intro plain
    cases placed with
    | root => simp [closing, plain] at onRoot
    | mark i => omega
    | key i column => omega
  obtain ⟨after, runs, found⟩ := ready.scalar placed.lt_column follows le fits foldSome wide nested
  refine ⟨after, runs, ?_⟩
  simpa [tokens] using found

/-- Empty collections are written between brackets. -/
theorem scans_brackets {node : YamlNode} {left right : Char} {first last : YamlToken}
    (brackets : YamlScan.Brackets left right first last)
    (lines : ∀ place, node.lines place = node.lead place ++ [left, right, '\n'])
    (noBlock : node.isBlock = false) (tokens : ∀ indentless, node.tokens indentless = [first, last]) :
    node.Scans := by
  intro place indent next scan stack kinds written tail rest placed kept onRoot split ready follows le
  rw [lines] at split
  obtain rfl := List.append_cancel_left split
  have start : node.startColumn place = place.column + place.gap.length := by
    simp [startColumn, noBlock]
  rw [start] at ready
  obtain ⟨after, runs, found⟩ := brackets.ready ready placed.lt_column follows
  refine ⟨after, runs, ?_⟩
  simpa [tokens] using found

/-- A node behind an indicator is scanned from there. -/
theorem Scans.fromGap {node : YamlNode} (scans : node.Scans) (isTree : node.IsTree)
    (placed : Placed place indent) (kept : node.kept place = true)
    (onRoot : place = .root → node.closing = [])
    (at_ : scan.At (node.lines place ++ tail) place.column place.sameLine (indent :: stack) kinds)
    (follows : YamlScan.Follows tail next rest) (le : next ≤ indent) :
    ∃ after, scan.Runs after
      ∧ after.Ready rest next true (YamlScan.openAt next (indent :: stack))
        (YamlScan.endsAt next (indent :: stack)
          ++ ((node.tokens (!place.sameLine)).reverse ++ kinds)) := by
  obtain ⟨text, split, ready⟩ := scans_lead placed isTree kept at_
  exact scans placed kept onRoot split ready follows le

/-- Behind a dash, a question mark or the colon on its own line comes a space. -/
theorem lead_behindMark (node : YamlNode) (i : Nat) : node.lead (.behindMark i) = [' '] := by
  cases block : node.isBlock with
  | false => simp [lead, block, YamlPlace.gap, YamlPlace.behindMark]
  | true =>
    cases node <;> simp [lead, block, firstIndent, tagMark, blockIndent, YamlPlace.behindMark]

/-- Behind the colon of a simple key comes a space or a line break. -/
theorem lead_behindKey (node : YamlNode) (i column : Nat) :
    ∃ d more, node.lead (.behindKey i column) = d :: more ∧ isSeparator d = true := by
  cases block : node.isBlock with
  | false => exact ⟨' ', [], by simp [lead, block, YamlPlace.gap, YamlPlace.behindKey], rfl⟩
  | true =>
    exact ⟨'\n', List.replicate (node.blockIndent (.behindKey i column)) ' ',
      by simp [lead, block, firstIndent, tagMark, newline, YamlPlace.behindKey], rfl⟩

/-- What stands behind a mark is a space and a text. -/
theorem exists_lines_behindMark {node : YamlNode} (isTree : node.IsTree) {i : Nat}
    (kept : node.kept (.behindMark i) = true) : ∃ more, node.lines (.behindMark i) = ' ' :: more := by
  obtain ⟨text, split, -⟩ := exists_lead isTree kept
  exact ⟨text, by rw [split, lead_behindMark]; rfl⟩

section

variable {column : Nat} {outer : List Int}

/-- An item is scanned from its dash, which may open a block. -/
theorem scans_item (isTree : item.IsTree) (scans : item.Scans)
    (kept : item.kept (.behindMark column) = true) (follows : YamlScan.Follows tail next rest)
    (le : next ≤ column) (opens : YamlScan.opened column indent stack = (column : Int) :: outer)
    (ready : scan.Ready ('-' :: item.lines (.behindMark column) ++ tail) column true
      (indent :: stack) kinds) :
    ∃ after, scan.Runs after
      ∧ after.Ready rest next true (YamlScan.openAt next ((column : Int) :: outer))
        (YamlScan.endsAt next ((column : Int) :: outer) ++ ((item.tokens false).reverse
          ++ .blockEntry :: (YamlScan.opening .blockSequenceStart column indent ++ kinds))) := by
  obtain ⟨more, written⟩ := exists_lines_behindMark isTree kept
  have split : '-' :: item.lines (.behindMark column) ++ tail = '-' :: ' ' :: (more ++ tail) := by
    simp [written]
  rw [split] at ready
  obtain ⟨behind, runs, at_⟩ := ready.dash
  have text : ' ' :: (more ++ tail) = item.lines (.behindMark column) ++ tail := by simp [written]
  rw [text, opens] at at_
  obtain ⟨after, runs', found⟩ :=
    scans.fromGap isTree (.mark column) kept (fun same => by cases same) at_ follows le
  exact ⟨after, runs.trans runs', found⟩

/-- The items of a sequence are scanned from its first dash. -/
theorem scans_items (follows : YamlScan.Follows tail next rest) (le : next ≤ column)
    (items : List YamlNode) :
    ∀ {item : YamlNode} {indent : Int} {stack : List Int} {kinds : List YamlToken} {scan : YamlScan},
      (∀ inner ∈ item :: items, inner.IsTree ∧ inner.Scans) →
      itemsKept column (item :: items) = true →
      YamlScan.opened column indent stack = (column : Int) :: outer →
      scan.Ready ('-' :: item.lines (.behindMark column) ++ (itemLines column items ++ tail)) column
        true (indent :: stack) kinds →
      ∃ after, scan.Runs after
        ∧ after.Ready rest next true (YamlScan.openAt next ((column : Int) :: outer))
          (YamlScan.endsAt next ((column : Int) :: outer) ++ ((itemTokens (item :: items)).reverse
            ++ (YamlScan.opening .blockSequenceStart column indent ++ kinds))) := by
  induction items with
  | nil =>
    intro item indent stack kinds scan each kept opens ready
    obtain ⟨isTree, scans⟩ := each item List.mem_cons_self
    obtain ⟨here, -⟩ := Bool.and_eq_true_iff.mp kept
    obtain ⟨after, runs, found⟩ := scans_item isTree scans here follows le opens ready
    exact ⟨after, runs, by simpa [itemTokens] using found⟩
  | cons item' items ih =>
    intro item indent stack kinds scan each kept opens ready
    obtain ⟨isTree, scans⟩ := each item List.mem_cons_self
    obtain ⟨here, later⟩ := Bool.and_eq_true_iff.mp kept
    have split : itemLines column (item' :: items) ++ tail = List.replicate column ' '
        ++ ('-' :: item'.lines (.behindMark column) ++ (itemLines column items ++ tail)) := by
      simp [itemLines]
    have nextLine : YamlScan.Follows (itemLines column (item' :: items) ++ tail) column
        ('-' :: item'.lines (.behindMark column) ++ (itemLines column items ++ tail)) :=
      split ▸ .line column (by simp) (.cons (by decide) (by decide) rfl)
    obtain ⟨between, runs, found⟩ :=
      scans_item isTree scans here nextLine (Int.le_refl _) opens ready
    rw [YamlScan.openAt_of_le (Int.le_refl _), YamlScan.endsAt_of_le (Int.le_refl _)] at found
    have stays : YamlScan.opened column column outer = (column : Int) :: outer := by
      simp [YamlScan.opened]
    obtain ⟨after, runs', found'⟩ :=
      ih (fun inner member => each inner (List.mem_cons_of_mem _ member)) later stays found
    refine ⟨after, runs.trans runs', ?_⟩
    simpa [itemTokens, YamlScan.opening] using found'

/-- A key on one line is scanned with its colon, up to its value. -/
theorem scans_simpleKey (simple : (YamlNode.scalar .str text).isSimpleKey = true)
    (short : ((YamlNode.scalar .str text).simpleKeyText column).length ≤ YamlScan.keyLimit)
    (isTree : value.IsTree) {place : YamlPlace}
    (behind : place = .behindKey column
      (column + ((YamlNode.scalar .str text).simpleKeyText column).length + 1))
    (kept : value.kept place = true) (le : indent ≤ column)
    (opens : YamlScan.opened column indent stack = (column : Int) :: outer)
    (ready : scan.Ready (entryText column (.scalar .str text) value ++ tail) column true
      (indent :: stack) kinds) :
    ∃ after, scan.Runs after
      ∧ after.At (value.lines place ++ tail) place.column place.sameLine ((column : Int) :: outer)
        (.value :: ((YamlNode.scalar .str text).keyTokens.reverse
          ++ .key :: (YamlScan.opening .blockMappingStart column indent ++ kinds))) := by
  obtain ⟨oneLine, fits, -⟩ := fits_of_isSimpleKey simple (column + 2)
  obtain ⟨inner, split, -⟩ := exists_lead isTree kept
  obtain ⟨d, more, front, separator⟩ : ∃ d more, value.lines place = d :: more
      ∧ isSeparator d = true := by
    obtain ⟨d, more, lead, separator⟩ := lead_behindKey value column
      (column + ((YamlNode.scalar .str text).simpleKeyText column).length + 1)
    exact ⟨d, more ++ inner, by rw [split, behind, lead, List.cons_append], separator⟩
  have written : entryText column (.scalar .str text) value ++ tail
      = (ScalarStyle.choose .str text true).written (column + 2) false column text.toList
        ++ ':' :: d :: (more ++ tail) := by
    rw [entryText, if_pos simple]
    dsimp only
    rw [← behind, front, simpleKeyText_eq simple]
    simp
  rw [simpleKeyText_eq simple] at short behind
  rw [written] at ready
  obtain ⟨after, runs, at_⟩ :=
    ready.simpleKey separator fits (Nat.le_add_left 1 _) oneLine short le
  refine ⟨after, runs, ?_⟩
  rw [opens] at at_
  rw [front, behind]
  simpa [keyTokens, simple, YamlPlace.behindKey] using at_

/-- A key on lines of its own is scanned with the colon on the next line, up to its value. -/
theorem scans_complexKey (simple : (YamlNode.scalar .str text).isSimpleKey = false)
    (keyKept : (YamlNode.scalar .str text).kept (.behindMark column) = true)
    (isTree : value.IsTree) (kept : value.kept (.behindMark column) = true)
    (opens : YamlScan.opened column indent stack = (column : Int) :: outer)
    (ready : scan.Ready (entryText column (.scalar .str text) value ++ tail) column true
      (indent :: stack) kinds) :
    ∃ after, scan.Runs after
      ∧ after.At (value.lines (.behindMark column) ++ tail) (YamlPlace.behindMark column).column true
        ((column : Int) :: outer) (.value :: ((YamlNode.scalar .str text).keyTokens.reverse
          ++ .key :: (YamlScan.opening .blockMappingStart column indent ++ kinds))) := by
  obtain ⟨keyText, keyLines⟩ := exists_lines_behindMark (.scalar (.inl rfl)) keyKept
  obtain ⟨valueText, valueLines⟩ := exists_lines_behindMark isTree kept
  let colonLine : List Char := ':' :: (value.lines (.behindMark column) ++ tail)
  have written : entryText column (.scalar .str text) value ++ tail
      = '?' :: ' ' :: (keyText ++ (List.replicate column ' ' ++ colonLine)) := by
    rw [entryText, if_neg (by simp [simple]), keyLines]
    simp [colonLine]
  rw [written] at ready
  obtain ⟨behind, runs, at_⟩ := ready.questionMark
  have isLines : ' ' :: (keyText ++ (List.replicate column ' ' ++ colonLine))
      = (YamlNode.scalar .str text).lines (.behindMark column)
        ++ (List.replicate column ' ' ++ colonLine) := by
    rw [keyLines, List.cons_append]
  rw [isLines, opens] at at_
  have nextLine : YamlScan.Follows (List.replicate column ' ' ++ colonLine) column colonLine :=
    .line column (by simp [colonLine]) (.cons (by decide) (by decide) rfl)
  obtain ⟨between, runs', found⟩ := Scans.fromGap (scans_scalar (.inl rfl)) (.scalar (.inl rfl))
    (.mark column) keyKept (fun same => by cases same) at_ nextLine (Int.le_refl _)
  rw [YamlScan.openAt_of_le (Int.le_refl _), YamlScan.endsAt_of_le (Int.le_refl _)] at found
  have isColon : colonLine = ':' :: ' ' :: (valueText ++ tail) := by
    simp [colonLine, valueLines]
  rw [isColon] at found
  obtain ⟨after, runs'', at_'⟩ := found.colon (Int.le_refl _)
  refine ⟨after, (runs.trans runs').trans runs'', ?_⟩
  rw [valueLines, List.cons_append]
  simpa [keyTokens, tokens, simple, YamlPlace.behindMark] using at_'

/-- An entry is scanned from its key, which may open a block. -/
theorem scans_entry (isKey : key = .scalar .str text) (isTree : value.IsTree) (scans : value.Scans)
    (kept : entriesKept column [(key, value)] = true) (follows : YamlScan.Follows tail next rest)
    (le : next ≤ column) (inner : indent ≤ column)
    (opens : YamlScan.opened column indent stack = (column : Int) :: outer)
    (ready : scan.Ready (entryText column key value ++ tail) column true (indent :: stack) kinds) :
    ∃ after, scan.Runs after
      ∧ after.Ready rest next true (YamlScan.openAt next ((column : Int) :: outer))
        (YamlScan.endsAt next ((column : Int) :: outer)
          ++ ((value.tokens key.isSimpleKey).reverse ++ .value :: (key.keyTokens.reverse
            ++ .key :: (YamlScan.opening .blockMappingStart column indent ++ kinds)))) := by
  subst isKey
  simp only [entriesKept, Bool.and_true] at kept
  cases simple : (YamlNode.scalar .str text).isSimpleKey with
  | true =>
    rw [if_pos simple] at kept
    simp only [Bool.and_eq_true, decide_eq_true_eq] at kept
    obtain ⟨between, runs, at_⟩ :=
      scans_simpleKey simple kept.1 isTree rfl kept.2 inner opens ready
    obtain ⟨after, runs', found⟩ := scans.fromGap isTree (.key column _ (by omega)) kept.2
      (fun same => by cases same) at_ follows le
    exact ⟨after, runs.trans runs', found⟩
  | false =>
    rw [if_neg (by simp [simple])] at kept
    obtain ⟨keyKept, valueKept⟩ := Bool.and_eq_true_iff.mp kept
    obtain ⟨between, runs, at_⟩ :=
      scans_complexKey simple keyKept isTree valueKept opens ready
    obtain ⟨after, runs', found⟩ := scans.fromGap isTree (.mark column) valueKept
      (fun same => by cases same) at_ follows le
    exact ⟨after, runs.trans runs', found⟩

theorem entriesKept_cons (indent : Nat) (entry : YamlNode × YamlNode)
    (rest : List (YamlNode × YamlNode)) : entriesKept indent (entry :: rest)
      = (entriesKept indent [entry] && entriesKept indent rest) := by
  simp [entriesKept]

/-- The entries of a mapping are scanned from its first key. -/
theorem scans_entries (follows : YamlScan.Follows tail next rest) (le : next ≤ column)
    (entries : List (YamlNode × YamlNode)) :
    ∀ {key value : YamlNode} {indent : Int} {stack : List Int} {kinds : List YamlToken}
      {scan : YamlScan},
      (∀ entry ∈ (key, value) :: entries, (∃ text, entry.1 = .scalar .str text) ∧ entry.2.IsTree
        ∧ entry.2.Scans) →
      entriesKept column ((key, value) :: entries) = true → indent ≤ column →
      YamlScan.opened column indent stack = (column : Int) :: outer →
      scan.Ready (entryText column key value ++ (entryLines column entries ++ tail)) column true
        (indent :: stack) kinds →
      ∃ after, scan.Runs after
        ∧ after.Ready rest next true (YamlScan.openAt next ((column : Int) :: outer))
          (YamlScan.endsAt next ((column : Int) :: outer)
            ++ ((entryTokens ((key, value) :: entries)).reverse
              ++ (YamlScan.opening .blockMappingStart column indent ++ kinds))) := by
  induction entries with
  | nil =>
    intro key value indent stack kinds scan each kept inner opens ready
    obtain ⟨⟨text, isKey⟩, isTree, scans⟩ := each _ List.mem_cons_self
    obtain ⟨after, runs, found⟩ :=
      scans_entry isKey isTree scans kept follows le inner opens ready
    exact ⟨after, runs, by simpa [entryTokens] using found⟩
  | cons entry entries ih =>
    intro key value indent stack kinds scan each kept inner opens ready
    obtain ⟨⟨text, isKey⟩, isTree, scans⟩ := each _ List.mem_cons_self
    obtain ⟨key', value'⟩ := entry
    rw [entriesKept_cons] at kept
    obtain ⟨here, later⟩ := Bool.and_eq_true_iff.mp kept
    have split : entryLines column ((key', value') :: entries) ++ tail = List.replicate column ' '
        ++ (entryText column key' value' ++ (entryLines column entries ++ tail)) := by
      simp [entryLines_cons]
    have nextLine : YamlScan.Follows (entryLines column ((key', value') :: entries) ++ tail) column
        (entryText column key' value' ++ (entryLines column entries ++ tail)) := by
      obtain ⟨⟨text', isKey'⟩, -⟩ := each (key', value') (by simp)
      obtain rfl : key' = .scalar .str text' := isKey'
      obtain ⟨some, starts⟩ := startsToken_entryText text' value' column
      exact split ▸ .line column (by simp [some]) (starts _)
    obtain ⟨between, runs, found⟩ :=
      scans_entry isKey isTree scans here nextLine (Int.le_refl _) inner opens ready
    rw [YamlScan.openAt_of_le (Int.le_refl _), YamlScan.endsAt_of_le (Int.le_refl _)] at found
    have stays : YamlScan.opened column column outer = (column : Int) :: outer := by
      simp [YamlScan.opened]
    obtain ⟨after, runs', found'⟩ := ih (fun entry member => each entry (List.mem_cons_of_mem _ member))
      later (Int.le_refl _) stays found
    refine ⟨after, runs.trans runs', ?_⟩
    simpa [entryTokens, YamlScan.opening] using found'

end

/-- The blocks behind an indicator end with the block of the node. -/
theorem opened_of_lt {column : Int} (lt : indent < column) :
    YamlScan.opened column indent stack = column :: indent :: stack := by
  simp [YamlScan.opened, lt]

/-- The tokens of a node are those that are scanned from its lines. -/
theorem scans {node : YamlNode} (isTree : node.IsTree) : node.Scans := by
  induction isTree with
  | scalar isScalar => exact scans_scalar isScalar
  | @sequence items each ih =>
    cases items with
    | nil =>
      exact scans_brackets .sequence (fun place => by simp [lines, lead, isBlock]) rfl fun _ => rfl
    | cons item items =>
      intro place indent next scan stack kinds text tail rest placed kept onRoot split ready follows le
      rw [lines_sequence] at split
      obtain rfl := List.append_cancel_left split
      have start : (YamlNode.sequence .sequence (item :: items)).startColumn place = place.sequence := by
        simp [startColumn, isBlock, blockIndent]
      have allow : (place.sameLine || (YamlNode.sequence .sequence (item :: items)).isBlock) = true := by
        simp [isBlock]
      rw [start, allow, List.append_assoc] at ready
      have inner := placed.le_startColumn (YamlNode.sequence .sequence (item :: items))
      rw [start] at inner
      have parts : ∀ inner ∈ item :: items, inner.IsTree ∧ inner.Scans :=
        fun inner member => ⟨each inner member, ih inner member⟩
      have kind := placed.sequence
      cases line : place.sameLine with
      | true =>
        have lt : indent < (place.sequence : Int) := by simpa [line] using kind
        obtain ⟨after, runs, found⟩ := scans_items follows (Int.le_trans le inner) items parts kept
          (opened_of_lt lt) ready
        refine ⟨after, runs, ?_⟩
        rw [YamlScan.openAt_of_lt (Int.lt_of_le_of_lt le lt),
          YamlScan.endsAt_of_lt (Int.lt_of_le_of_lt le lt)] at found
        simpa [tokens_sequence, YamlScan.opening, lt] using found
      | false =>
        have same : indent = place.sequence := by simpa [line] using kind
        have stays : YamlScan.opened place.sequence indent stack = (place.sequence : Int) :: stack := by
          simp [YamlScan.opened, same]
        obtain ⟨after, runs, found⟩ :=
          scans_items follows (Int.le_trans le inner) items parts kept stays ready
        refine ⟨after, runs, ?_⟩
        simpa [tokens_sequence, YamlScan.opening, same] using found
  | @mapping entries keys each ih =>
    cases entries with
    | nil =>
      exact scans_brackets .mapping (fun place => by simp [lines, lead, isBlock, tagMark]) rfl
        fun _ => rfl
    | cons entry entries =>
      intro place indent next scan stack kinds text tail rest placed kept onRoot split ready follows le
      obtain ⟨key, value⟩ := entry
      rw [lines_mapping] at split
      obtain rfl := List.append_cancel_left split
      have start : (YamlNode.mapping .mapping ((key, value) :: entries)).startColumn place
          = place.mapping := by
        simp [startColumn, isBlock, blockIndent]
      have allow : (place.sameLine
          || (YamlNode.mapping .mapping ((key, value) :: entries)).isBlock) = true := by
        simp [isBlock]
      rw [start, allow, List.append_assoc] at ready
      have lt := placed.lt_mapping
      obtain ⟨after, runs, found⟩ := scans_entries follows (by omega) entries
        (fun entry member => ⟨keys entry member, each entry member, ih entry member⟩) kept
        (Int.le_of_lt lt) (opened_of_lt lt) ready
      refine ⟨after, runs, ?_⟩
      rw [YamlScan.openAt_of_lt (Int.lt_of_le_of_lt le lt),
        YamlScan.endsAt_of_lt (Int.lt_of_le_of_lt le lt)] at found
      simpa [tokens_mapping, YamlScan.opening, lt] using found

end YamlNode

end ModelSchema
