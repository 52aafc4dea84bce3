import ModelSchema.Proofs.Yaml.Lines
import ModelSchema.Schema.Document

/-!
Documents: their tokens and their characters.

A document begins with a mark and a comment. Behind it come the lines of a node; a plain scalar is
followed by another mark.

* `documentText_toList`: the characters of a document.
* `YamlNode.tokensOf_document`: its tokens are those of its node, between marks.
* `isAllowed_document`: its characters may all stand in a YAML text.
-/

namespace ModelSchema

/-! ### Text -/

/-- What stands behind the number sign of a document. -/
def documentComment (millis : Int) : List Char :=
  " timestamp=".toList ++ (toString millis).toList

theorem documentText_toList (millis : Int) (body : String) :
    (documentText millis body).toList
      = ['-', '-', '-'] ++ ('\n' :: (('#' :: documentComment millis) ++ ['\n'])) ++ body.toList := by
  have mark : "---\n# timestamp=".toList = ['-', '-', '-', '\n', '#'] ++ " timestamp=".toList := by
    decide
  have line : "\n".toList = ['\n'] := by decide
  have parts : (documentText millis body).toList
      = "---\n# timestamp=".toList ++ (toString millis).toList ++ "\n".toList ++ body.toList := by
    unfold documentText
    simp only [String.toList_append, toString]
  rw [parts, mark, line]
  unfold documentComment
  generalize " timestamp=".toList = comment
  simp

/-- The digits of a number break no line. -/
theorem isDigit_of_mem_toString (n : Int) : ∀ c ∈ (toString n).toList, c = '-' ∨ c.isDigit = true := by
  have natural : ∀ n : Nat, ∀ c ∈ (toString n).toList, c.isDigit = true := by
    intro n c member
    rw [Nat.toString_eq_ofList_toDigits, String.toList_ofList] at member
    exact Nat.isDigit_of_mem_toDigits (Nat.succ_pos 9) (Nat.le_refl 10) member
  intro c member
  cases n with
  | ofNat n => exact .inr (natural n c member)
  | negSucc n =>
    have member : c ∈ ("-" ++ toString (n + 1)).toList := member
    rw [String.toList_append] at member
    rcases List.mem_append.mp member with sign | digits
    · exact .inl (List.mem_singleton.mp sign)
    · exact .inr (natural (n + 1) c digits)

theorem isLineBreak_documentComment (millis : Int) :
    ∀ c ∈ documentComment millis, isLineBreak c = false := by
  intro c member
  rcases List.mem_append.mp member with front | digits
  · have each : " timestamp=".toList.all (!isLineBreak ·) = true := by decide
    simpa using List.all_eq_true.mp each c front
  · rcases isDigit_of_mem_toString millis c digits with rfl | isDigit
    · rfl
    · refine Bool.eq_false_iff.mpr fun isBreak => ?_
      simp only [isLineBreak, Bool.or_eq_true, decide_eq_true_eq] at isBreak
      rcases isBreak with ((rfl | rfl) | rfl) | rfl <;> cases isDigit

/-! ### Marks -/

namespace YamlScan

variable {scan : YamlScan} {rest comment : List Char} {kinds : List YamlToken} {allowKey : Bool}

/-- Nothing is open at the start of a text. -/
theorem ready_start (starts : StartsToken rest) (some : rest ≠ []) :
    (YamlScan.start rest).Ready rest 0 true [-1] [] := by
  have least : (-1 : Int) ≤ ((0 : Nat) : Int) := by decide
  exact ⟨_, settles_self starts some (by simp [YamlScan.start]) least,
    ⟨rfl, rfl, by simp, rfl, rfl⟩, rfl, blockColumn_of_rest some, rfl, rfl⟩

/-- A mark between documents ends all blocks, of which there are none. -/
theorem Ready.documentMark {c : Char} {token : YamlToken} (isMark : c = '-' ∨ c = '.')
    (isToken : token = if c = '-' then .documentStart else .documentEnd)
    (ready : scan.Ready (c :: c :: c :: '\n' :: rest) 0 allowKey [-1] kinds) :
    ∃ after, scan.Runs after ∧ after.At ('\n' :: rest) 3 false [-1] (token :: kinds) := by
  obtain ⟨settled, settles, at_⟩ := ready
  have marked : settled.cursor.rest = [c, c, c] ++ '\n' :: rest := at_.rest
  obtain ⟨reads, there⟩ := YamlCursor.reads_skip marked
  have there : (settled.cursor.skip 3).rest = '\n' :: rest := there
  have inline : ∀ d ∈ [c, c, c], YamlCursor.isInline d = true := by
    rcases isMark with rfl | rfl <;> exact List.all_eq_true.mp (by decide)
  have column : (settled.cursor.skip 3).column = settled.cursor.column + 3 :=
    (reads.inline inline).2
  have here := at_.column_eq (by simp)
  have behind : blockColumn (settled.cursor.skip 3) = 3 := by
    rw [blockColumn_of_rest (by simp [there]), column]
    omega
  have mark : settled.cursor.isAtDocumentMark = true := by
    rw [YamlCursor.isAtDocumentMark, YamlCursor.isSeparated, YamlCursor.peekAt, at_.rest]
    rcases isMark with rfl | rfl <;> rfl
  have closes : settled.unwindTo (-1) = settled := by
    obtain ⟨same, -⟩ : settled.indent = -1 ∧ settled.indents = [] := List.cons.inj at_.levels
    exact unwindTo_of_le (by omega)
  have atStart : settled.cursor.column = 0 := by omega
  refine ⟨{ settled.mark token 3 with allowKey := false }, settles.runs ⟨c, _, at_.rest, ?_, ?_⟩,
    ⟨⟨at_.flow, at_.levels, at_.bottom, ?_, ?_⟩, there, behind, rfl, at_.keys⟩⟩
  · have notPercent : c ≠ '%' := by rcases isMark with rfl | rfl <;> decide
    simp [fetchAt, notPercent, atStart, mark, fetchTopLevel, closes, removeKey_of_nil at_.keys, isToken,
      bind, Except.bind, pure, Except.pure, YamlScan.mark, add]
  · exact reads.length_lt (by simp)
  · exact congrArg (token :: ·) at_.tokens
  · exact congrArg (· + 1) at_.count

/-- The comment of a document is skipped. -/
theorem At.ready_comment
    (at_ : scan.At ('\n' :: (('#' :: comment) ++ ['\n']) ++ rest) 3 allowKey [-1] kinds)
    (oneLine : ∀ c ∈ comment, isLineBreak c = false) (some : rest ≠ []) (starts : StartsToken rest) :
    scan.Ready rest 0 true [-1] kinds := by
  obtain ⟨after, reads, there⟩ := YamlCursor.exists_reads at_.rest
  have split : '\n' :: (('#' :: comment) ++ ['\n']) = ('\n' :: '#' :: comment) ++ '\n' :: [] := rfl
  have column : after.column = 0 := ((split ▸ reads).newLine rfl (by simp)).2
  have behind : blockColumn after = 0 := by
    rw [blockColumn_of_rest (there ▸ some), column]
    rfl
  have ready := at_.toHolds.ready (by simp [at_.keys]) (skips_comment oneLine reads (there ▸ starts))
  rw [behind, openAt_of_le (by decide), endsAt_of_le (by decide), there, Bool.or_true] at ready
  exact ready

/-- The tokens of a text whose last token is scanned. -/
theorem tokensOf_eq {text : List Char} (runs : (YamlScan.start text).Runs scan)
    (ends : scan.Ready [] (-1) true [-1] kinds) :
    (tokensOf text).1.map (·.1) = kinds.reverse ++ [.streamEnd] ∧ (tokensOf text).2 = none := by
  obtain ⟨n, less, same⟩ := runs
  obtain ⟨settled, settles, at_⟩ := ends
  have less : scan.cursor.rest.length + n ≤ text.length := less
  have fuel : text.length + 1 = (text.length - n + 1) + n := by omega
  rw [tokensOf, fuel, same, ← at_.tokens]
  exact settles.done at_.rest at_.keys _

end YamlScan

/-! ### Tokens -/

namespace YamlNode

theorem lead_root (node : YamlNode) : node.lead .root = [] ∧ node.startColumn .root = 0 := by
  cases block : node.isBlock with
  | false => simp [lead, startColumn, block, YamlPlace.gap, YamlPlace.root]
  | true =>
    cases node <;> simp [lead, startColumn, block, firstIndent, tagMark, blockIndent, YamlPlace.root]

/-- Only a plain scalar is followed by a mark. -/
theorem closing_cases (node : YamlNode) : node.closing = []
    ∨ ∃ tag text, node = .scalar tag text ∧ ScalarStyle.choose tag text false = .plain
      ∧ node.closing = ['.', '.', '.', '\n'] := by
  cases node with
  | scalar tag text =>
    by_cases plain : ScalarStyle.choose tag text false = .plain
    · exact .inr ⟨tag, text, rfl, plain, if_pos plain⟩
    · exact .inl (if_neg plain)
  | sequence => exact .inl rfl
  | mapping => exact .inl rfl

variable {scan : YamlScan} {kinds : List YamlToken}

/-- A node without a mark behind it is scanned to the end of the text. -/
theorem scans_unclosed {node : YamlNode} (isTree : node.IsTree) (kept : node.kept .root = true)
    (closing : node.closing = []) (ready : scan.Ready (node.lines .root) 0 true [-1] kinds) :
    ∃ after, scan.Runs after
      ∧ after.Ready [] (-1) true [-1] ((node.tokens false).reverse ++ kinds) := by
  obtain ⟨noLead, start⟩ := lead_root node
  have whole : node.lines .root = node.lead .root ++ node.lines .root := by simp [noLead]
  have ready : scan.Ready (node.lines .root ++ []) (node.startColumn .root)
      (YamlPlace.root.sameLine || node.isBlock) [-1] kinds := by
    rw [List.append_nil, start]
    exact ready
  obtain ⟨after, runs, found⟩ :=
    scans isTree .root kept (fun _ => closing) whole ready .nothing (Int.le_refl _)
  refine ⟨after, runs, ?_⟩
  rw [YamlScan.openAt_of_le (Int.le_refl _), YamlScan.endsAt_of_le (Int.le_refl _)] at found
  simpa [YamlPlace.root] using found

/-- A plain scalar on its own is scanned with the mark behind it. -/
theorem scans_closed {text : List Char} (fits : ScalarStyle.plain.Fits 2 true text)
    (ready : scan.Ready (plainText 2 true 0 text ++ ['\n', '.', '.', '.', '\n']) 0 true [-1] kinds) :
    ∃ after, scan.Runs after ∧ after.Ready [] (-1) true [-1]
      (.documentEnd :: .scalar (String.ofList text) true :: kinds) := by
  obtain ⟨settled, settles, at_⟩ := ready
  obtain ⟨behind, toBehind, there, reads⟩ := @YamlCursor.plainScalar_document 2 0 true 0 text ['\n']
    settled.cursor fits.1 fits.2.1 fits.2.2 (fun _ => by omega) at_.rest (by omega) rfl
  have fetches := at_.fetches_plain fits (by simp) (by simp) (toBehind.length_lt (by simp)) reads
  obtain ⟨line, column⟩ := toBehind.newLine rfl (by simp)
  have atLine : YamlScan.blockColumn behind = 0 := by
    rw [YamlScan.blockColumn_of_rest (by simp [there]), column]
    rfl
  have found := at_.ready_behindNode (by simp) (by decide) (.scalar (String.ofList text) true) true
    (YamlScan.skips_spaces (n := 0) (.refl behind)
      (there ▸ .cons (by decide) (by decide) rfl)) line
  rw [atLine, YamlScan.openAt_of_le (by decide), YamlScan.endsAt_of_le (by decide), there] at found
  obtain ⟨after, runs, ended⟩ := found.documentMark (.inr rfl) rfl
  obtain ⟨gap, last, skips, atEnd, isEnd, -⟩ := YamlScan.Follows.nothing.skips ended.rest
  have done := ended.toHolds.ready (by simp [ended.keys]) skips
  rw [isEnd, YamlScan.openAt_of_le (by decide), YamlScan.endsAt_of_le (by decide), atEnd, Bool.or_true]
    at done
  exact ⟨after, (settles.runs fetches).trans runs, done⟩

/-- A node and the mark behind it are scanned to the end of the text. -/
theorem scans_body {node : YamlNode} (isTree : node.IsTree) (kept : node.kept .root = true)
    (ready : scan.Ready (node.lines .root ++ node.closing) 0 true [-1] kinds) :
    ∃ after, scan.Runs after ∧ after.Ready [] (-1) true [-1]
      ((if node.closing.isEmpty then [] else [.documentEnd]) ++ (node.tokens false).reverse ++ kinds) := by
  rcases closing_cases node with closed | ⟨tag, word, isScalar, plain, mark⟩
  · rw [closed, List.append_nil] at ready
    rw [closed]
    exact scans_unclosed isTree kept closed ready
  · rw [mark] at ready ⊢
    subst isScalar
    have written := lines_scalar isTree.isTreeScalar kept
    have fits := (fits_of_kept isTree.isTreeScalar kept).1
    rw [(lead_root _).1, plain] at written
    rw [plain] at fits
    rw [written, List.nil_append, List.append_assoc] at ready
    obtain ⟨after, runs, ends⟩ := scans_closed fits ready
    rw [String.ofList_toList] at ends
    rw [tokens, plain]
    exact ⟨after, runs, ends⟩

/-- The tokens of a document are those of its node between marks. -/
theorem tokensOf_document {node : YamlNode} (isTree : node.IsTree) (kept : node.kept .root = true)
    (millis : Int) :
    (YamlScan.tokensOf (documentText millis node.render).toList).1.map (·.1)
        = .documentStart :: (node.tokens false
          ++ (if node.closing.isEmpty then [] else [.documentEnd]) ++ [.streamEnd])
      ∧ (YamlScan.tokensOf (documentText millis node.render).toList).2 = none := by
  obtain ⟨text, split, some, starts⟩ := exists_lead isTree kept
  rw [(lead_root node).1, List.nil_append] at split
  have content : (documentText millis node.render).toList = '-' :: '-' :: '-' :: ('\n'
      :: (('#' :: documentComment millis) ++ ['\n']) ++ (node.lines .root ++ node.closing)) := by
    rw [documentText_toList, render, String.toList_ofList]
    simp
  rw [content]
  obtain ⟨marked, runs, at_⟩ := YamlScan.Ready.documentMark (.inl rfl) rfl
    (YamlScan.ready_start (.cons (by decide) (by decide) rfl) (by simp))
  have ready := at_.ready_comment (isLineBreak_documentComment millis) (by simp [split, some])
    (split ▸ starts node.closing)
  obtain ⟨after, runs', ends⟩ := scans_body isTree kept ready
  obtain ⟨tokens, whole⟩ := YamlScan.tokensOf_eq (runs.trans runs') ends
  refine ⟨tokens.trans ?_, whole⟩
  split <;> simp

end YamlNode

/-! ### Allowed characters -/

/-- A text without characters that can not stand in a YAML text. -/
def IsAllowed (text : List Char) : Prop := ∀ c ∈ text, isForbiddenInYaml c = false

instance (text : List Char) : Decidable (IsAllowed text) :=
  List.decidableBAll _ text

namespace IsAllowed

variable {text other : List Char} {c : Char} {n : Nat}

theorem nil : IsAllowed [] := by simp [IsAllowed]

theorem append (allowed : IsAllowed text) (allowed' : IsAllowed other) : IsAllowed (text ++ other) :=
  List.forall_mem_append.mpr ⟨allowed, allowed'⟩

theorem cons (here : isForbiddenInYaml c = false) (allowed : IsAllowed text) : IsAllowed (c :: text) :=
  List.forall_mem_cons.mpr ⟨here, allowed⟩

theorem spaces : IsAllowed (List.replicate n ' ') := by
  intro c member
  rw [List.eq_of_mem_replicate member]
  rfl

end IsAllowed

/-! ### Characters of scalars -/

theorem isForbiddenInYaml_of_isWritable {c : Char} (writable : isWritable c = true) :
    isForbiddenInYaml c = false := by
  simp only [isWritable, Bool.or_eq_true, Bool.and_eq_true, decide_eq_true_eq] at writable
  simp only [isForbiddenInYaml, Bool.not_eq_false', Bool.or_eq_true, Bool.and_eq_true,
    decide_eq_true_eq]
  rcases writable with ((((rfl | ascii) | rfl) | lower) | upper) | wide
  · decide
  · exact .inl (.inl (.inl (.inl (.inr ascii))))
  · decide
  · exact .inl (.inl (.inr lower))
  · exact .inl (.inr upper.1)
  · exact .inr wide.1

theorem isForbiddenInYaml_of_not_isEscaped {c : Char} (plain : isEscaped c = false) :
    isForbiddenInYaml c = false := by
  simp only [isEscaped, Bool.or_eq_false_iff, Bool.not_eq_false', Bool.or_eq_true, Bool.and_eq_true,
    decide_eq_true_eq] at plain
  simp only [isForbiddenInYaml, Bool.not_eq_false', Bool.or_eq_true, Bool.and_eq_true,
    decide_eq_true_eq]
  rcases plain.2 with (ascii | lower) | upper
  · exact .inl (.inl (.inl (.inl (.inr ascii))))
  · exact .inl (.inl (.inr lower))
  · exact .inl (.inr upper)

/-- A scalar that fits its style is written in characters that are allowed. -/
theorem isAllowed_written {style : ScalarStyle} {fold column : Nat} {split : Bool} {text : List Char}
    (fits : style.Fits fold split text) : IsAllowed (style.written fold split column text) := by
  have breaks : isForbiddenInYaml '\n' = false ∧ isForbiddenInYaml ' ' = false := ⟨rfl, rfl⟩
  cases style with
  | plain =>
    have chars : IsAllowed text := fun c member =>
      isForbiddenInYaml_of_isWritable (fits.2.1.inline.writable c member)
    exact forall_plainFrom chars (fun _ => breaks) column none
  | singleQuoted =>
    have chars : IsAllowed text := fun c member =>
      isForbiddenInYaml_of_isWritable (fits.1.writable c member)
    have quote : isForbiddenInYaml '\'' = false := rfl
    exact .cons rfl (QuotedScalar.forall_singleQuotedFrom quote chars (fun _ => breaks) _ _)
  | doubleQuoted =>
    have plain : ∀ c, isEscaped c = false → isForbiddenInYaml c = false :=
      fun c => isForbiddenInYaml_of_not_isEscaped
    have quote : isForbiddenInYaml '"' = false := rfl
    have slash : isForbiddenInYaml '\\' = false := rfl
    exact .cons rfl (QuotedScalar.forall_doubleQuotedFrom plain quote slash (fun _ => breaks.1) text _ _ _)
  | literal => exact fits.elim

/-! ### Characters of nodes -/

namespace YamlNode

variable {place : YamlPlace} {indent : Int} {column : Nat} {node value : YamlNode} {text : String}
  {items : List YamlNode} {entries : List (YamlNode × YamlNode)}

/-- The lines of a node are allowed wherever it stands. -/
def IsWritten (node : YamlNode) : Prop :=
  ∀ {place : YamlPlace} {indent : Int}, Placed place indent → node.kept place = true →
    IsAllowed (node.lines place)

theorem Placed.isAllowed_lead (placed : Placed place indent) (node : YamlNode) :
    IsAllowed (node.lead place) := by
  rcases placed.lead_cases node with ⟨n, spaces, -⟩ | ⟨n, line, -⟩
  · exact spaces ▸ .spaces
  · exact line ▸ .cons rfl .spaces

theorem isAllowed_itemLines (parts : ∀ item ∈ items, item.IsWritten)
    (kept : itemsKept column items = true) : IsAllowed (itemLines column items) := by
  induction items with
  | nil => exact .nil
  | cons item items ih =>
    rw [itemsKept, Bool.and_eq_true] at kept
    rw [itemLines]
    have here := parts item List.mem_cons_self (.mark column) kept.1
    have later := ih (fun item member => parts item (List.mem_cons_of_mem _ member)) kept.2
    exact (IsAllowed.spaces.append (.cons rfl here)).append later

/-- A node that is no block is written on its lines alone. -/
theorem isWritten_of_brackets (brackets : ∀ place, node.lines place = node.lead place ++ ['[', ']', '\n']
    ∨ node.lines place = node.lead place ++ ['\x7b', '\x7d', '\n']) : node.IsWritten := by
  intro place indent placed _
  rcases brackets place with same | same
  · exact same ▸ (placed.isAllowed_lead node).append (by decide)
  · exact same ▸ (placed.isAllowed_lead node).append (by decide)

theorem isAllowed_entryText (isTree : value.IsWritten)
    (kept : entriesKept column [(.scalar .str text, value)] = true) :
    IsAllowed (entryText column (.scalar .str text) value) := by
  rw [entriesKept, Bool.and_eq_true] at kept
  have kept := kept.1
  rw [entryText]
  split at kept
  next simple =>
    simp only [Bool.and_eq_true] at kept
    have fits := (fits_of_isSimpleKey simple (column + 2)).2.1
    rw [if_pos simple, simpleKeyText_eq simple]
    rw [simpleKeyText_eq simple] at kept
    refine (isAllowed_written fits).append (.cons rfl ?_)
    exact isTree (.key column _ (by omega)) kept.2
  next long =>
    rw [Bool.and_eq_true] at kept
    rw [if_neg long, lines_scalar (.inl rfl) kept.1]
    have fits := (fits_of_kept (.inl rfl) kept.1).1
    have lead := (Placed.mark column).isAllowed_lead (.scalar .str text)
    have later := isTree (.mark column) kept.2
    refine IsAllowed.append (IsAllowed.append (.cons rfl (lead.append ?_)) .spaces) (.cons rfl later)
    exact (isAllowed_written fits).append (.cons rfl .nil)

theorem isAllowed_entryLines
    (parts : ∀ entry ∈ entries, (∃ text, entry.1 = .scalar .str text) ∧ entry.2.IsWritten)
    (kept : entriesKept column entries = true) : IsAllowed (entryLines column entries) := by
  induction entries with
  | nil => exact .nil
  | cons entry entries ih =>
    obtain ⟨key, value⟩ := entry
    obtain ⟨⟨text, isKey⟩, isWritten⟩ := parts (key, value) List.mem_cons_self
    obtain rfl : key = .scalar .str text := isKey
    rw [entriesKept_cons, Bool.and_eq_true] at kept
    have later := ih (fun entry member => parts entry (List.mem_cons_of_mem _ member)) kept.2
    rw [entryLines_cons]
    exact IsAllowed.spaces.append ((isAllowed_entryText isWritten kept.1).append later)

/-- The lines of a tree are allowed. -/
theorem IsTree.isWritten (isTree : node.IsTree) : node.IsWritten := by
  induction isTree with
  | scalar isScalar =>
    intro place indent placed kept
    rw [lines_scalar isScalar kept]
    have fits := (fits_of_kept isScalar kept).1
    exact (placed.isAllowed_lead _).append ((isAllowed_written fits).append (.cons rfl .nil))
  | @sequence items _ ih =>
    cases items with
    | nil => exact isWritten_of_brackets fun place => .inl (by simp [lines, lead, isBlock])
    | cons item items =>
      intro place indent placed kept
      have kept : itemsKept place.sequence (item :: items) = true := kept
      rw [itemsKept, Bool.and_eq_true] at kept
      have here := ih item List.mem_cons_self (.mark place.sequence) kept.1
      have later := isAllowed_itemLines
        (fun item member => ih item (List.mem_cons_of_mem _ member)) kept.2
      rw [lines_sequence]
      exact (placed.isAllowed_lead _).append ((IsAllowed.cons rfl here).append later)
  | @mapping entries keys _ ih =>
    cases entries with
    | nil => exact isWritten_of_brackets fun place => .inr (by simp [lines, lead, isBlock, tagMark])
    | cons entry entries =>
      intro place indent placed kept
      obtain ⟨key, value⟩ := entry
      obtain ⟨text, isKey⟩ := keys (key, value) List.mem_cons_self
      obtain rfl : key = .scalar .str text := isKey
      have kept : entriesKept place.mapping ((.scalar .str text, value) :: entries) = true := kept
      rw [entriesKept_cons, Bool.and_eq_true] at kept
      have here := isAllowed_entryText (ih _ List.mem_cons_self) kept.1
      have later := isAllowed_entryLines (fun entry member =>
        ⟨keys entry (List.mem_cons_of_mem _ member), ih entry (List.mem_cons_of_mem _ member)⟩) kept.2
      rw [lines_mapping]
      exact (placed.isAllowed_lead _).append (here.append later)

end YamlNode

/-! ### Characters of documents -/

/-- What stands in front of a node is allowed. -/
theorem isAllowed_documentComment (millis : Int) : IsAllowed (documentComment millis) := by
  refine IsAllowed.append (by decide) fun c member => ?_
  rcases isDigit_of_mem_toString millis c member with rfl | isDigit
  · rfl
  · simp only [Char.isDigit, ge_iff_le, Bool.and_eq_true, decide_eq_true_eq, UInt32.le_iff_toNat_le]
      at isDigit
    have low : 48 ≤ c.toNat := isDigit.1
    have high : c.toNat ≤ 57 := isDigit.2
    refine isForbiddenInYaml_of_isWritable ?_
    simp only [isWritable, Bool.or_eq_true, Bool.and_eq_true, decide_eq_true_eq]
    omega

/-- A document can be read. -/
theorem isAllowed_document {node : YamlNode} (isTree : node.IsTree) (kept : node.kept .root = true)
    (millis : Int) : IsAllowed (documentText millis node.render).toList := by
  have closing : IsAllowed node.closing := by
    rcases node.closing_cases with none | ⟨tag, text, -, -, mark⟩
    · exact none ▸ .nil
    · exact mark ▸ by decide
  rw [documentText_toList, YamlNode.render, String.toList_ofList]
  have comment := (isAllowed_documentComment millis).append (.cons (c := '\n') rfl .nil)
  have body := (isTree.isWritten .root kept).append closing
  exact (IsAllowed.append (by decide) (.cons rfl (.cons rfl comment))).append body

end ModelSchema
