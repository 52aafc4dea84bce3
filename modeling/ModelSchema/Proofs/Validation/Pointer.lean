import Mathlib
import ModelSchema.Proofs.Schema.Names
import ModelSchema.Proofs.Validation.Judgement

/-!
References within a document.

The library of a document that does not name itself has the document under the empty reference. From
there a pointer to a definition leads to the definition, and the pointer without a path to the
document itself.

* `percentDecoded_plain`, `pathSegments_names`, `segmentKey_name`: definition names stand for
  themselves in paths.
* `lookup_root`, `lookup_definition`: where the references of a document lead.
-/

namespace ModelSchema

/-! ### Paths of definition names -/

/-- Whether a character can stand in a path of definition names. -/
def IsPathChar (c : Char) : Prop := isNameChar c = true ∨ c = '/'

theorem IsPathChar.isAscii {c : Char} (isPath : IsPathChar c) : c.toNat < 0x80 := by
  rcases isPath with isName | rfl
  · simp only [isNameChar, Bool.or_eq_true, decide_eq_true_eq] at isName
    rcases isName with (((plain | rfl) | rfl) | rfl) | rfl
    · exact isAscii_of_isAlphanum plain
    all_goals decide
  · decide

theorem IsPathChar.notPercent {c : Char} (isPath : IsPathChar c) : c ≠ '%' := by
  rintro rfl
  rcases isPath with isName | isSlash
  · cases isName
  · cases isSlash

theorem utf8EncodeChar_ascii {c : Char} (isAscii : c.toNat < 0x80) :
    String.utf8EncodeChar c = [c.toNat.toUInt8] := by
  unfold String.utf8EncodeChar
  exact if_pos (Nat.le_of_lt_succ isAscii)

theorem toNat_toUInt8 {n : Nat} (small : n < 0x80) : n.toUInt8.toNat = n :=
  Nat.mod_eq_of_lt (Nat.lt_trans small (by decide))

theorem decodeLossy_ascii {bytes : List UInt8} (ascii : ∀ byte ∈ bytes, byte.toNat < 0x80) :
    Utf8.decodeLossy 0 bytes = bytes.map fun byte => Char.ofNat byte.toNat := by
  induction bytes with
  | nil => rfl
  | cons byte rest ih =>
    have small : byte.toNat < 0x80 := ascii byte List.mem_cons_self
    have first : Utf8.first byte rest = .ok (Char.ofNat byte.toNat, 1) := by
      unfold Utf8.first
      exact if_pos small
    rw [Utf8.decodeLossy, first, List.map_cons]
    exact congrArg _ (ih fun other member => ascii other (List.mem_cons_of_mem _ member))

theorem percentBytes_plain {text : List Char} (plain : ∀ c ∈ text, IsPathChar c) :
    percentBytes text = text.map fun c => c.toNat.toUInt8 := by
  induction text with
  | nil => rfl
  | cons c rest ih =>
    have here := plain c List.mem_cons_self
    have later := ih fun d member => plain d (List.mem_cons_of_mem _ member)
    rw [percentBytes, later, List.map_cons, utf8EncodeChar_ascii here.isAscii]
    · rfl
    · rintro a b rest rfl
      exact absurd rfl here.notPercent

theorem decodedRuns_plain {fuel : Nat} {text : List Char} (plain : ∀ c ∈ text, IsPathChar c) :
    decodedRuns fuel text = text := by
  cases fuel with
  | zero => rfl
  | succ fuel =>
    cases text with
    | nil => rfl
    | cons c rest =>
      have run : ((c :: rest).takeWhile fun d => decide (d.toNat < 0x80) = decide (c.toNat < 0x80))
          = c :: rest := by
        refine List.takeWhile_eq_self_iff.mpr fun d member => ?_
        rw [decide_eq_true (plain d member).isAscii,
          decide_eq_true (plain c List.mem_cons_self).isAscii]
        rfl
      have bytes : ∀ byte ∈ (c :: rest).map fun c => c.toNat.toUInt8, byte.toNat < 0x80 := by
        intro byte member
        obtain ⟨d, inside, rfl⟩ := List.mem_map.mp member
        rw [toNat_toUInt8 (plain d inside).isAscii]
        exact (plain d inside).isAscii
      have decoded : (decodeUtf8Lossy (percentBytes (c :: rest))).toList = c :: rest := by
        unfold decodeUtf8Lossy
        rw [String.toList_ofList, percentBytes_plain plain, decodeLossy_ascii bytes, List.map_map]
        refine (List.map_congr_left fun d inside => ?_).trans (List.map_id _)
        dsimp only [Function.comp]
        rw [toNat_toUInt8 (plain d inside).isAscii]
        exact Char.ofNat_toNat d
      have nothing : decodedRuns fuel [] = [] := by cases fuel <;> rfl
      rw [decodedRuns]
      dsimp only
      rw [run, decoded, if_pos (decide_eq_true (plain c List.mem_cons_self).isAscii),
        List.drop_length, nothing, List.append_nil]

/-- A text of plain characters has no percent signs to undo. -/
theorem percentDecoded_plain {text : String} (plain : ∀ c ∈ text.toList, IsPathChar c) :
    percentDecoded text = text := by
  unfold percentDecoded
  rw [decodedRuns_plain plain, String.ofList_toList]

theorem unescapedFrom_name {text : List Char} (name : ∀ c ∈ text, isNameChar c = true) :
    SchemaLibrary.unescapedFrom text = text := by
  induction text with
  | nil => rfl
  | cons c rest ih =>
    have notTilde : c ≠ '~' := by
      rintro rfl
      cases name _ List.mem_cons_self
    have later := ih fun d member => name d (List.mem_cons_of_mem _ member)
    rw [SchemaLibrary.unescapedFrom, later]
    · exact fun _ same => absurd same notTilde
    · exact fun _ same => absurd same notTilde

/-- A definition name has no escapes to undo. -/
theorem segmentKey_name {name : String} (isName : ∀ c ∈ name.toList, isNameChar c = true) :
    SchemaLibrary.segmentKey name = name := by
  unfold SchemaLibrary.segmentKey
  rw [unescapedFrom_name isName, String.ofList_toList]

theorem isNameChar_definitionsKeyword : ∀ c ∈ definitionsKeyword.toList, isNameChar c = true :=
  List.all_eq_true.mp rfl

/-- Between the slashes of a path of definition names are the names. -/
theorem pathSegments_names {first second : String}
    (isFirst : ∀ c ∈ first.toList, isNameChar c = true)
    (isSecond : ∀ c ∈ second.toList, isNameChar c = true) :
    SchemaLibrary.pathSegments (first ++ "/" ++ second) = [first, second] := by
  have noSlash : ∀ {text : List Char}, (∀ c ∈ text, isNameChar c = true) → '/' ∉ text :=
    fun isName member => nomatch isName _ member
  have split : (first ++ "/" ++ second).toList.splitOn '/' = [first.toList, second.toList] := by
    rw [String.toList_append, String.toList_append, List.append_assoc]
    change (first.toList ++ '/' :: second.toList).splitOn '/' = _
    rw [List.splitOn_append_cons_self, List.splitOn_eq_singleton (noSlash isFirst),
      List.splitOn_eq_singleton (noSlash isSecond)]
    rfl
  unfold SchemaLibrary.pathSegments
  rw [split, List.map_cons, List.map_cons, List.map_nil, String.ofList_toList,
    String.ofList_toList]

/-! ### Where references lead -/

section

variable {library : SchemaLibrary} {root target definitions : Node} {name : String}

/-- The place at the root of a document that does not name itself. -/
def rootViewpoint : Viewpoint := ⟨"", [], false⟩

/-- A document that does not name itself is known under the empty reference. -/
theorem ofRoot_eq {table : ClassTable}
    (noId : Dialect.draft7.id? table (.dict root) = .ok none) :
    ∃ library, SchemaLibrary.ofRoot table .draft7 (.dict root) = .ok (library, rootViewpoint)
      ∧ library.table = table ∧ library.known.resource? "" = some ⟨.dict root, .draft7⟩ := by
  refine ⟨⟨table, .ofRoot "" ⟨.dict root, .draft7⟩,
    SchemaIndex.crawled table "" ⟨.dict root, .draft7⟩⟩, ?_, rfl, rfl⟩
  unfold SchemaLibrary.ofRoot
  change (do
    let uri := (← Dialect.draft7.id? table (.dict root)).getD ""
    _) = _
  rw [noId]
  rfl

theorem startsWith_append (sign rest : String) : (sign ++ rest).startsWith sign = true := by
  rw [String.startsWith_string_iff, String.toList_append]
  exact List.prefix_append ..

theorem copy_drop_one (c : Char) (rest : String) :
    ((String.singleton c ++ rest).drop 1).copy = rest := by
  rw [← String.toList_inj, String.toList_copy_drop, String.toList_append, String.toList_singleton]
  rfl

theorem resource_root (known : library.known.resource? "" = some ⟨.dict root, .draft7⟩)
    {reference : String} :
    library.resource false reference "" = .ok (⟨.dict root, .draft7⟩, false) := by
  unfold SchemaLibrary.resource
  rw [show library.index false = .ok library.known from rfl]
  dsimp only [bind, Except.bind]
  rw [known]
  rfl

/-- The pointer without a path leads to the document itself. -/
theorem lookup_root (known : library.known.resource? "" = some ⟨.dict root, .draft7⟩) :
    library.lookup rootViewpoint "#" = .ok (.dict root, rootViewpoint) := by
  have starts : "#".startsWith "#" = true := startsWith_append "#" ""
  have fragment : ("#".drop 1).copy = "" := copy_drop_one '#' ""
  have noPath : "".startsWith "/" = false := by
    rw [String.startsWith_string_eq_false_iff]
    decide
  unfold SchemaLibrary.lookup
  rw [starts, if_pos rfl, fragment]
  have found : library.resource rootViewpoint.hasSearched "#" rootViewpoint.base
      = .ok (⟨.dict root, .draft7⟩, false) := resource_root known
  dsimp only [bind, Except.bind, pure, Except.pure]
  rw [found]
  dsimp only
  rw [noPath]
  rfl

/-- Two keys lead to what is behind the second in what is behind the first, if that is an object
and no schema. -/
theorem follow_definition {path : String} (ends : (Value.dict root).isEndless = false)
    (atDefinitions : root.get? definitionsKeyword = some (.dict definitions))
    (atName : definitions.get? name = some (.dict target))
    (noId : Dialect.draft7.id? library.table (.dict target) = .ok none)
    (isName : ∀ c ∈ name.toList, isNameChar c = true) :
    library.follow path ⟨.dict root, .draft7⟩ [] rootViewpoint [definitionsKeyword, name]
      (.dict root) = .ok (.dict target, rootViewpoint) := by
  have keyword : SchemaLibrary.segmentKey definitionsKeyword = definitionsKeyword :=
    segmentKey_name isNameChar_definitionsKeyword
  have endsWithin : (Value.dict definitions).isEndless = false :=
    Value.isEndless_of_get? ends atDefinitions
  have first : SchemaLibrary.segmentPart? library.table definitionsKeyword (.dict root)
      = .ok (some (.dict definitions)) := by
    change (Value.dict root).partNamed? library.table (SchemaLibrary.segmentKey definitionsKeyword)
      = _
    rw [keyword, Value.partNamed?_dict ends, atDefinitions]
  have second : SchemaLibrary.segmentPart? library.table name (.dict definitions)
      = .ok (some (.dict target)) := by
    change (Value.dict definitions).partNamed? library.table (SchemaLibrary.segmentKey name) = _
    rw [segmentKey_name isName, Value.partNamed?_dict endsWithin, atName]
  rw [SchemaLibrary.follow, first]
  dsimp only [bind, Except.bind]
  change (if Dialect.draft7.isSubschemaPath true [SchemaLibrary.segmentKey definitionsKeyword]
    then _ else _) = _
  rw [keyword, if_neg (by decide), SchemaLibrary.follow, second]
  dsimp only [bind, Except.bind]
  change (if Dialect.draft7.isSubschemaPath true
    [SchemaLibrary.segmentKey definitionsKeyword, SchemaLibrary.segmentKey name]
    then _ else _) = _
  have isSubschema : Dialect.draft7.isSubschemaPath true
      [definitionsKeyword, SchemaLibrary.segmentKey name] = true := rfl
  rw [keyword, isSubschema, if_pos rfl, noId]
  rfl

/-- A pointer with a path is followed from the document on. -/
theorem lookup_path (known : library.known.resource? "" = some ⟨.dict root, .draft7⟩)
    (path : String) :
    library.lookup rootViewpoint ("#" ++ ("/" ++ path))
      = library.follow ("/" ++ path) ⟨.dict root, .draft7⟩ [] rootViewpoint
        (SchemaLibrary.pathSegments (percentDecoded path)) (.dict root) := by
  have fragment : (("#" ++ ("/" ++ path)).drop 1).copy = "/" ++ path := copy_drop_one '#' _
  have behind : (("/" ++ path).drop 1).copy = path := copy_drop_one '/' _
  unfold SchemaLibrary.lookup
  rw [startsWith_append, if_pos rfl, fragment]
  have found : library.resource rootViewpoint.hasSearched ("#" ++ ("/" ++ path)) rootViewpoint.base
      = .ok (⟨.dict root, .draft7⟩, false) := resource_root known
  have stays : rootViewpoint.move rootViewpoint.base false = rootViewpoint := rfl
  dsimp only [bind, Except.bind, pure, Except.pure]
  rw [found]
  dsimp only
  rw [startsWith_append, if_pos rfl, behind, stays]

/-- A pointer to a definition leads to the definition. -/
theorem lookup_definition (known : library.known.resource? "" = some ⟨.dict root, .draft7⟩)
    (ends : (Value.dict root).isEndless = false)
    (atDefinitions : root.get? definitionsKeyword = some (.dict definitions))
    (atName : definitions.get? name = some (.dict target))
    (noId : Dialect.draft7.id? library.table (.dict target) = .ok none)
    (isName : ∀ c ∈ name.toList, isNameChar c = true) :
    library.lookup rootViewpoint s!"#/{definitionsKeyword}/{name}"
      = .ok (.dict target, rootViewpoint) := by
  have reference : s!"#/{definitionsKeyword}/{name}"
      = "#" ++ ("/" ++ (definitionsKeyword ++ "/" ++ name)) := by
    change "#/" ++ definitionsKeyword ++ "/" ++ name = _
    simp only [← String.append_assoc]
    rfl
  have isPath : ∀ c ∈ (definitionsKeyword ++ "/" ++ name).toList, IsPathChar c := by
    intro c member
    rw [String.toList_append, String.toList_append] at member
    rcases List.mem_append.mp member with before | inName
    · rcases List.mem_append.mp before with inKeyword | isSlash
      · exact .inl (isNameChar_definitionsKeyword c inKeyword)
      · exact .inr (List.mem_singleton.mp isSlash)
    · exact .inl (isName c inName)
  rw [reference, lookup_path known, percentDecoded_plain isPath,
    pathSegments_names isNameChar_definitionsKeyword isName]
  exact follow_definition ends atDefinitions atName noId isName

end

end ModelSchema
