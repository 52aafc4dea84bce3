import ModelSchema.Proofs.Schema.Node
import ModelSchema.Proofs.Yaml.Documents
import ModelSchema.Proofs.Yaml.Integers
import ModelSchema.Proofs.Yaml.Parsing
import ModelSchema.Yaml.Value

/-!
A document is loaded as the tree it was made from.

* `PlacedNode.IsFaultless`: nodes in which nothing is wrong, and
  `PlacedNode.IsFaultless.firstFault?`: nothing is found to be.
* `Value.IsTree`: the trees that schemas are.
* `Value.StandsAs`: a tree and its node, which has the value of the tree wherever it is read.
* `Value.isKept`: whether every scalar of a tree is read back where it is written.
  `Value.IsOrdinary.isKept`: it is, unless there are next line characters, long keys or deep nesting.
* `Value.ofYaml_documentText`: the tree of a document.
-/

namespace ModelSchema

/-! ### Faults -/

/-- A loop succeeds if each of its steps keeps what the next one needs. -/
theorem exists_foldlM {α β ε : Type} {f : β → α → Except ε β} {holds : β → Prop} {list : List α}
    (step : ∀ a ∈ list, ∀ b, holds b → ∃ next, f b a = .ok next ∧ holds next) {start : β}
    (starts : holds start) : ∃ last, list.foldlM f start = .ok last ∧ holds last := by
  induction list generalizing start with
  | nil => exact ⟨start, rfl, starts⟩
  | cons a list ih =>
    obtain ⟨next, same, there⟩ := step a List.mem_cons_self start starts
    obtain ⟨last, same', there⟩ := ih (fun a member => step a (List.mem_cons_of_mem _ member)) there
    refine ⟨last, ?_, there⟩
    rw [List.foldlM_cons, same]
    exact same'

namespace PlacedNode

/-- Nodes with scalars that have values, and with texts as keys. -/
inductive IsFaultless : PlacedNode → Prop where
  | scalar {mark : YamlMark} {tag : YamlTag} {text : String} {value : Value} :
      isScalarTag tag = true → YamlScalar.value mark tag text = .ok value →
      IsFaultless (.scalar mark tag text)
  | sequence {mark : YamlMark} {anchor : Option String} {items : List PlacedNode} :
      (∀ item ∈ items, IsFaultless item) → IsFaultless (.sequence mark .sequence anchor items)
  | mapping {mark : YamlMark} {anchor : Option String} {entries : List (PlacedNode × PlacedNode)} :
      (∀ entry ∈ entries, ∃ mark text, entry.1 = .scalar mark .str text) →
      (∀ entry ∈ entries, IsFaultless entry.2) → IsFaultless (.mapping mark .mapping anchor entries)

/-- What is to be looked into later: collections without faults. -/
def AreFaultless (nodes : List PlacedNode) : Prop :=
  ∀ node ∈ nodes, node.IsFaultless ∧ isCollectionTag node.tag = true

variable {node : PlacedNode} {nodes items later : List PlacedNode} {mark : YamlMark}
  {entries : List (PlacedNode × PlacedNode)}

theorem AreFaultless.append {others : List PlacedNode} (each : AreFaultless nodes)
    (others' : AreFaultless others) : AreFaultless (nodes ++ others) :=
  List.forall_mem_append.mpr ⟨each, others'⟩

theorem isCollectionTag_of_isScalarTag {tag : YamlTag} (isScalar : isScalarTag tag = true) :
    isCollectionTag tag = false := by
  cases tag <;> first | rfl | cases isScalar

/-- A collection is looked into later, a scalar has a value. -/
theorem IsFaultless.visit (isFaultless : node.IsFaultless) :
    ∃ later, node.visit = .ok later ∧ AreFaultless later := by
  have whole := isFaultless
  cases isFaultless with
  | @scalar mark tag text value isScalar hasValue =>
    have visited : (PlacedNode.scalar mark tag text).scalarValue = .ok value := by
      simp only [scalarValue, PlacedNode.tag, isScalar, Bool.not_true, Bool.false_eq_true, if_false,
        PlacedNode.mark, scalarText, hasValue, bind, Except.bind]
    exact ⟨[], by simp [PlacedNode.visit, PlacedNode.tag, isCollectionTag_of_isScalarTag isScalar, visited,
      Except.map],
      by simp [AreFaultless]⟩
  | sequence => exact ⟨[_], rfl, by simpa [AreFaultless] using ⟨whole, rfl⟩⟩
  | mapping => exact ⟨[_], rfl, by simpa [AreFaultless] using ⟨whole, rfl⟩⟩

theorem exists_visitAll (each : ∀ item ∈ items, item.IsFaultless) :
    ∃ later, visitAll items = .ok later ∧ AreFaultless later := by
  refine exists_foldlM (fun item member found areFaultless => ?_) (by simp [AreFaultless])
  obtain ⟨later, visited, others⟩ := (each item member).visit
  exact ⟨found ++ later, by rw [visited]; rfl, areFaultless.append others⟩

theorem exists_visitEntries (keys : ∀ entry ∈ entries, ∃ mark text, entry.1 = .scalar mark .str text)
    (each : ∀ entry ∈ entries, entry.2.IsFaultless) :
    ∃ later, visitEntries mark entries = .ok later ∧ AreFaultless later := by
  refine exists_foldlM (fun entry member found areFaultless => ?_) (by simp [AreFaultless])
  obtain ⟨place, text, isKey⟩ := keys entry member
  obtain ⟨later, visited, others⟩ := (each entry member).visit
  obtain ⟨key, value⟩ := entry
  obtain rfl : key = .scalar place .str text := isKey
  have visited : value.visit = .ok later := visited
  refine ⟨found ++ later, ?_, areFaultless.append others⟩
  have keyVisited : (PlacedNode.scalar place .str text).visit = .ok [] := rfl
  dsimp only
  rw [keyVisited, visited]
  simp [isCollectionTag, PlacedNode.tag, bind, Except.bind, pure, Except.pure]

/-- Texts as keys merge nothing. -/
theorem flattened_of_texts (keys : ∀ entry ∈ entries, ∃ mark text, entry.1 = .scalar mark .str text) :
    flattened mark entries = .ok ([], entries) := by
  induction entries with
  | nil => rfl
  | cons entry entries ih =>
    obtain ⟨key, value⟩ := entry
    obtain ⟨place, text, isKey⟩ := keys (key, value) List.mem_cons_self
    obtain rfl : key = .scalar place .str text := isKey
    rw [flattened, ih fun entry member => keys entry (List.mem_cons_of_mem _ member)]
    rfl

/-- Inside of a collection without faults are others. -/
theorem IsFaultless.lookInto (isFaultless : node.IsFaultless)
    (isCollection : isCollectionTag node.tag = true) :
    ∃ later, node.lookInto = .ok later ∧ AreFaultless later := by
  cases isFaultless with
  | scalar isScalar =>
    cases (isCollectionTag_of_isScalarTag isScalar).symm.trans isCollection
  | sequence each => exact exists_visitAll each
  | @mapping mark anchor entries keys each =>
    obtain ⟨later, visited, others⟩ := @exists_visitEntries mark entries keys each
    refine ⟨later, ?_, others⟩
    unfold PlacedNode.lookInto
    dsimp only [PlacedNode.tag]
    rw [flattened_of_texts keys]
    exact visited

theorem lookWithin_of_areFaultless (fuel : Nat) (areFaultless : AreFaultless nodes) :
    lookWithin fuel nodes = .ok () := by
  induction fuel generalizing nodes with
  | zero => rfl
  | succ fuel ih =>
    rw [lookWithin]
    split
    · rfl
    · obtain ⟨later, found, others⟩ : ∃ later,
          nodes.foldlM (fun later node => return later ++ (← node.lookInto)) [] = .ok later
            ∧ AreFaultless later := by
        refine exists_foldlM (fun node member found inside => ?_) (by simp [AreFaultless])
        obtain ⟨isFaultless, isCollection⟩ := areFaultless node member
        obtain ⟨later, looked, others⟩ := isFaultless.lookInto isCollection
        exact ⟨found ++ later, by rw [looked]; rfl, inside.append others⟩
      rw [found]
      exact ih others

/-- Nothing is wrong in a document without faults. -/
theorem IsFaultless.firstFault? (isFaultless : node.IsFaultless) : node.firstFault? = none := by
  obtain ⟨later, visited, others⟩ := isFaultless.visit
  rw [PlacedNode.firstFault?, visited, Except.bind, lookWithin_of_areFaultless _ others]

end PlacedNode

/-! ### Trees -/

/-- Trees of null, truth values, integers, texts, lists, and dictionaries with texts as keys. -/
inductive Value.IsTree : Value → Prop where
  | null : IsTree .null
  | bool (b : Bool) : IsTree (.bool b)
  | int (n : Int) : IsTree (.int n)
  | str (text : String) : IsTree (.str text)
  | list {items : List Value} : (∀ item ∈ items, IsTree item) → IsTree (.list items)
  | dict {fields : List (String × Value)} : (fields.map (·.1)).Nodup →
      (∀ field ∈ fields, IsTree field.2) → IsTree (.dict (Node.ofFields fields))

namespace Value

mutual

/-- The magnitude of the largest integer in a value. -/
def magnitude : Value → Nat
  | .int n => n.natAbs
  | .collection _ items => itemsMagnitude items
  | .dict entries => entriesMagnitude entries
  | _ => 0

def itemsMagnitude : List Value → Nat
  | [] => 0
  | value :: rest => max value.magnitude (itemsMagnitude rest)

def entriesMagnitude : List (Value × Value) → Nat
  | [] => 0
  | (_, value) :: rest => max value.magnitude (entriesMagnitude rest)

end

/-- Whether every scalar of a tree is read back where it is written. -/
def isKept (table : ClassTable) (tree : Value) : Bool :=
  match tree.yamlNode table with
  | .ok node => node.kept .root
  | .error _ => false

/-! ### Nodes of trees -/

/-- A tree has a node, and this node has no faults and the value of the tree, wherever it is read. -/
structure StandsAs (table : ClassTable) (tree : Value) (node : YamlNode) : Prop where
  represented : tree.yamlNode table = .ok node
  isTree : node.IsTree
  nesting : node.nesting = tree.nesting
  faultless : ∀ {placed : PlacedNode}, placed.bare? = some node → placed.IsFaultless
  value : ∀ {placed : PlacedNode} (around : List (Option String)), placed.bare? = some node →
    placed.valueWithin around = tree

variable {table : ClassTable} {tree : Value} {tag : YamlTag} {text : String} {items : List Value}
  {fields : List (String × Value)}

theorem standsAs_scalar (represented : tree.yamlNode table = .ok (.scalar tag text))
    (isScalar : YamlNode.IsTreeScalar tag text) (flat : tree.nesting = 0)
    (known : PlacedNode.isScalarTag tag = true)
    (value : ∀ mark, YamlScalar.value mark tag text = .ok tree) :
    tree.StandsAs table (.scalar tag text) where
  represented := represented
  isTree := .scalar isScalar
  nesting := flat.symm
  faultless bare := by
    obtain ⟨mark, rfl⟩ := PlacedNode.exists_of_bare?_scalar bare
    exact .scalar known (value mark)
  value around bare := by
    obtain ⟨mark, rfl⟩ := PlacedNode.exists_of_bare?_scalar bare
    rw [PlacedNode.valueWithin, value mark]
    rfl

/-- The items of a list stand as nodes one by one. -/
theorem exists_itemNodes (each : ∀ item ∈ items, ∃ node, item.StandsAs table node) :
    ∃ nodes, yamlNodes table items = .ok nodes ∧ (∀ node ∈ nodes, node.IsTree)
      ∧ YamlNode.itemsNesting nodes = itemsNesting items
      ∧ ∀ placed, PlacedNode.bareItems? placed = some nodes → (∀ item ∈ placed, item.IsFaultless)
        ∧ ∀ around, PlacedNode.itemValues around placed = items := by
  induction items with
  | nil =>
    refine ⟨[], rfl, by simp, rfl, fun placed bare => ?_⟩
    cases placed with
    | nil => exact ⟨by simp, fun _ => rfl⟩
    | cons first rest => simp [PlacedNode.bareItems?, Option.bind_eq_some_iff] at bare
  | cons item items ih =>
    obtain ⟨node, stands⟩ := each item List.mem_cons_self
    obtain ⟨nodes, represented, areTrees, nesting, later⟩ :=
      ih fun item member => each item (List.mem_cons_of_mem _ member)
    refine ⟨node :: nodes, ?_, List.forall_mem_cons.mpr ⟨stands.isTree, areTrees⟩, ?_, ?_⟩
    · rw [yamlNodes, stands.represented, represented]
      rfl
    · rw [YamlNode.itemsNesting, itemsNesting, stands.nesting, nesting]
    · intro placed bare
      obtain ⟨first, rest, rfl, isFirst, others⟩ := PlacedNode.exists_of_bareItems?_cons bare
      obtain ⟨faultless, values⟩ := later rest others
      refine ⟨List.forall_mem_cons.mpr ⟨stands.faultless isFirst, faultless⟩, fun around => ?_⟩
      rw [PlacedNode.itemValues, stands.value around isFirst, values]

/-- The fields of a dictionary stand as entries one by one. -/
theorem exists_fieldNodes (each : ∀ field ∈ fields, ∃ node, field.2.StandsAs table node) :
    ∃ entries, yamlEntries table (Node.ofFields fields) = .ok entries
      ∧ (∀ entry ∈ entries, ∃ text, entry.1 = .scalar .str text) ∧ (∀ entry ∈ entries, entry.2.IsTree)
      ∧ YamlNode.entriesNesting entries = entriesNesting (Node.ofFields fields)
      ∧ ∀ placed, PlacedNode.bareEntries? placed = some entries →
        (∀ entry ∈ placed, ∃ mark text, entry.1 = .scalar mark .str text)
        ∧ (∀ entry ∈ placed, entry.2.IsFaultless)
        ∧ ∀ around, PlacedNode.entryValues around placed = ([], Node.ofFields fields) := by
  induction fields with
  | nil =>
    refine ⟨[], rfl, by simp, by simp, rfl, fun placed bare => ?_⟩
    cases placed with
    | nil => exact ⟨by simp, by simp, fun _ => rfl⟩
    | cons first rest => simp [PlacedNode.bareEntries?, Option.bind_eq_some_iff] at bare
  | cons field fields ih =>
    obtain ⟨key, value⟩ := field
    obtain ⟨node, stands⟩ := each (key, value) List.mem_cons_self
    have stands : value.StandsAs table node := stands
    obtain ⟨entries, represented, keys, areTrees, nesting, later⟩ :=
      ih fun field member => each field (List.mem_cons_of_mem _ member)
    have split : Node.ofFields ((key, value) :: fields) = (.str key, value) :: Node.ofFields fields := rfl
    refine ⟨(.scalar .str key, node) :: entries, ?_, List.forall_mem_cons.mpr ⟨⟨key, rfl⟩, keys⟩,
      List.forall_mem_cons.mpr ⟨stands.isTree, areTrees⟩, ?_, ?_⟩
    · rw [split, yamlEntries, stands.represented, represented]
      rfl
    · rw [split, YamlNode.entriesNesting, entriesNesting, stands.nesting, nesting]
    · intro placed bare
      obtain ⟨first, second, rest, rfl, isKey, isNode, others⟩ :=
        PlacedNode.exists_of_bareEntries?_cons bare
      obtain ⟨mark, rfl⟩ := PlacedNode.exists_of_bare?_scalar isKey
      obtain ⟨placedKeys, faultless, values⟩ := later rest others
      refine ⟨List.forall_mem_cons.mpr ⟨⟨mark, key, rfl⟩, placedKeys⟩,
        List.forall_mem_cons.mpr ⟨stands.faultless isNode, faultless⟩, fun around => ?_⟩
      rw [PlacedNode.entryValues, values around]
      · simp [PlacedNode.tag, PlacedNode.valueWithin, YamlScalar.value, stands.value around isNode, split]
        rfl
      · simp

theorem magnitude_le_items {item : Value} (member : item ∈ items) :
    item.magnitude ≤ itemsMagnitude items := by
  induction items with
  | nil => cases member
  | cons first rest ih =>
    rw [itemsMagnitude]
    rcases List.mem_cons.mp member with rfl | later
    · exact Nat.le_max_left _ _
    · exact Nat.le_trans (ih later) (Nat.le_max_right _ _)

theorem magnitude_le_fields {field : String × Value} (member : field ∈ fields) :
    field.2.magnitude ≤ entriesMagnitude (Node.ofFields fields) := by
  induction fields with
  | nil => cases member
  | cons first rest ih =>
    have split : entriesMagnitude (Node.ofFields (first :: rest))
        = max first.2.magnitude (entriesMagnitude (Node.ofFields rest)) := rfl
    rw [split]
    rcases List.mem_cons.mp member with rfl | later
    · exact Nat.le_max_left _ _
    · exact Nat.le_trans (ih later) (Nat.le_max_right _ _)

/-- Every tree has a node, which is read as the tree. -/
theorem IsTree.exists_standsAs (isTree : tree.IsTree) (short : tree.magnitude < 10 ^ Numeral.digitLimit) :
    ∃ node, tree.StandsAs table node := by
  induction isTree with
  | null => exact ⟨_, standsAs_scalar rfl (.inr (by decide)) rfl rfl fun _ => rfl⟩
  | bool b =>
    cases b with
    | true => exact ⟨_, standsAs_scalar rfl (.inr (by decide)) rfl rfl fun _ => rfl⟩
    | false => exact ⟨_, standsAs_scalar rfl (.inr (by decide)) rfl rfl fun _ => rfl⟩
  | int n =>
    refine ⟨_, standsAs_scalar rfl (.inr (choose_toString n)) rfl rfl fun mark => ?_⟩
    rw [YamlScalar.value]
    exact congrArg (Except.mapError YamlError.value) (integer_toString short)
  | str text => exact ⟨_, standsAs_scalar rfl (.inl rfl) rfl rfl fun _ => rfl⟩
  | @list items each ih =>
    have parts : ∀ item ∈ items, ∃ node, item.StandsAs table node := fun item member =>
      ih item member (Nat.lt_of_le_of_lt (magnitude_le_items member) short)
    obtain ⟨nodes, represented, areTrees, nesting, read⟩ := exists_itemNodes parts
    refine ⟨.sequence .sequence nodes, ?_, .sequence areTrees, ?_, ?_, ?_⟩
    · rw [yamlNode, represented]
      rfl
    · rw [YamlNode.nesting, Value.nesting, nesting]
    · intro placed bare
      obtain ⟨mark, anchor, items, rfl, areItems⟩ := PlacedNode.exists_of_bare?_sequence bare
      exact .sequence (read _ areItems).1
    · intro placed around bare
      obtain ⟨mark, anchor, items, rfl, areItems⟩ := PlacedNode.exists_of_bare?_sequence bare
      simp [PlacedNode.valueWithin, (read _ areItems).2]
  | @dict fields nodup each ih =>
    have parts : ∀ field ∈ fields, ∃ node, field.2.StandsAs table node := fun field member =>
      ih field member (Nat.lt_of_le_of_lt (magnitude_le_fields member) short)
    obtain ⟨entries, represented, keys, areTrees, nesting, read⟩ := exists_fieldNodes parts
    refine ⟨.mapping .mapping entries, ?_, .mapping keys areTrees, ?_, ?_, ?_⟩
    · rw [yamlNode, represented]
      rfl
    · rw [YamlNode.nesting, Value.nesting, nesting]
    · intro placed bare
      obtain ⟨mark, anchor, placedEntries, rfl, areEntries⟩ := PlacedNode.exists_of_bare?_mapping bare
      exact .mapping (read _ areEntries).1 (read _ areEntries).2.1
    · intro placed around bare
      obtain ⟨mark, anchor, placedEntries, rfl, areEntries⟩ := PlacedNode.exists_of_bare?_mapping bare
      have whole := Node.update_ofFields nodup
      simp [PlacedNode.valueWithin, (read _ areEntries).2.2, whole]

/-! ### What is kept -/

/-- Trees without next line characters, whose keys are not long. -/
inductive IsOrdinary : Value → Prop where
  | null : IsOrdinary .null
  | bool (b : Bool) : IsOrdinary (.bool b)
  | int (n : Int) : IsOrdinary (.int n)
  | str {text : String} : '\u0085' ∉ text.toList → IsOrdinary (.str text)
  | list {items : List Value} : (∀ item ∈ items, IsOrdinary item) → IsOrdinary (.list items)
  | dict {fields : List (String × Value)} :
      (∀ field ∈ fields, '\u0085' ∉ field.1.toList ∧ field.1.length ≤ 102) →
      (∀ field ∈ fields, IsOrdinary field.2) → IsOrdinary (.dict (Node.ofFields fields))

/-- Whether the node of a tree is kept wherever its lines have some width left. -/
def IsKeptWithin (tree : Value) (node : YamlNode) : Prop :=
  ∀ {place : YamlPlace} {indent : Int}, YamlNode.Placed place indent →
    place.fold + 2 * tree.nesting < lineWidth → node.kept place = true

/-- A text is kept where an indentation leaves some width. -/
theorem scalarKept_of_narrow {fold : Nat} {asKey : Bool} (noNext : '\u0085' ∉ text.toList)
    (narrow : fold < lineWidth) : YamlNode.scalarKept fold asKey tag text = true := by
  have once : QuotedScalar.foldsTwice fold text.toList = false := by
    simp [QuotedScalar.foldsTwice, Nat.not_le.mpr narrow]
  unfold YamlNode.scalarKept
  split <;> simp [noNext, once]

theorem isKeptWithin_of_plain (plain : ScalarStyle.choose tag text false = .plain) :
    tree.IsKeptWithin (.scalar tag text) := by
  intro place indent _ _
  simp [YamlNode.kept, YamlNode.scalarKept, plain]

theorem exists_itemsKept
    (each : ∀ item ∈ items, ∃ node, item.yamlNode table = .ok node ∧ item.IsKeptWithin node) :
    ∃ nodes, yamlNodes table items = .ok nodes ∧ ∀ indent : Nat,
      indent + 2 + 2 * itemsNesting items < lineWidth → YamlNode.itemsKept indent nodes = true := by
  induction items with
  | nil => exact ⟨[], rfl, fun _ _ => rfl⟩
  | cons item items ih =>
    obtain ⟨node, represented, kept⟩ := each item List.mem_cons_self
    obtain ⟨nodes, represented', later⟩ := ih fun item member => each item (List.mem_cons_of_mem _ member)
    refine ⟨node :: nodes, by rw [yamlNodes, represented, represented']; rfl, fun indent narrow => ?_⟩
    rw [itemsNesting] at narrow
    rw [YamlNode.itemsKept, Bool.and_eq_true]
    refine ⟨kept (.mark indent) ?_, later indent (by omega)⟩
    simp only [YamlPlace.behindMark]
    omega

theorem exists_entriesKept (keys : ∀ field ∈ fields, '\u0085' ∉ field.1.toList ∧ field.1.length ≤ 102)
    (each : ∀ field ∈ fields, ∃ node, field.2.yamlNode table = .ok node ∧ field.2.IsKeptWithin node) :
    ∃ entries, yamlEntries table (Node.ofFields fields) = .ok entries ∧ ∀ indent : Nat,
      indent + 2 + 2 * entriesNesting (Node.ofFields fields) < lineWidth →
        YamlNode.entriesKept indent entries = true := by
  induction fields with
  | nil => exact ⟨[], rfl, fun _ _ => rfl⟩
  | cons field fields ih =>
    obtain ⟨key, value⟩ := field
    obtain ⟨noNext, short⟩ := keys (key, value) List.mem_cons_self
    obtain ⟨node, represented, kept⟩ := each (key, value) List.mem_cons_self
    dsimp only at noNext short represented kept
    obtain ⟨entries, represented', later⟩ :=
      ih (fun field member => keys field (List.mem_cons_of_mem _ member))
        fun field member => each field (List.mem_cons_of_mem _ member)
    have split : Node.ofFields ((key, value) :: fields) = (.str key, value) :: Node.ofFields fields := rfl
    refine ⟨(.scalar .str key, node) :: entries, ?_, fun indent narrow => ?_⟩
    · rw [split, yamlEntries, represented, represented']
      rfl
    rw [split, entriesNesting] at narrow
    rw [YamlNode.entriesKept, Bool.and_eq_true]
    refine ⟨?_, later indent (by omega)⟩
    split
    next simple =>
      obtain ⟨oneLine, fits, -⟩ := YamlNode.fits_of_isSimpleKey simple (indent + 2)
      have written := @YamlScan.length_written_le _ (indent + 2) indent _ fits oneLine
      rw [← YamlNode.simpleKeyText_eq simple indent, String.length_toList] at written
      simp only [Bool.and_eq_true, decide_eq_true_eq]
      refine ⟨Nat.le_trans written ?_, kept (.key indent _ (by omega)) ?_⟩
      · simp only [YamlScan.keyLimit]
        omega
      · simp only [YamlPlace.behindKey]
        omega
    next =>
      have narrowKey : (YamlPlace.behindMark indent).fold < lineWidth := by
        simp only [YamlPlace.behindMark]
        omega
      rw [Bool.and_eq_true, YamlNode.kept]
      refine ⟨scalarKept_of_narrow noNext narrowKey, kept (.mark indent) ?_⟩
      simp only [YamlPlace.behindMark]
      omega

/-- An ordinary tree that is not nested deeply is kept. -/
theorem IsOrdinary.isKept (isOrdinary : tree.IsOrdinary) (shallow : tree.nesting ≤ 58) :
    tree.isKept table = true := by
  have within : ∃ node, tree.yamlNode table = .ok node ∧ tree.IsKeptWithin node := by
    clear shallow
    induction isOrdinary with
    | null => exact ⟨.scalar .null "null", rfl, isKeptWithin_of_plain (by decide)⟩
    | bool b => exact ⟨_, rfl, isKeptWithin_of_plain (by cases b <;> decide)⟩
    | int n => exact ⟨.scalar .int (toString n), rfl, isKeptWithin_of_plain (choose_toString n).2⟩
    | @str text noNext =>
      refine ⟨.scalar .str text, rfl, fun _ narrow => ?_⟩
      rw [YamlNode.kept]
      exact scalarKept_of_narrow noNext (by omega)
    | list _ ih =>
      obtain ⟨nodes, represented, kept⟩ := exists_itemsKept ih
      refine ⟨.sequence .sequence nodes, by rw [yamlNode, represented]; rfl, fun placed narrow => ?_⟩
      rw [nesting] at narrow
      exact kept _ (by have := placed.le_fold; omega)
    | dict keys _ ih =>
      obtain ⟨entries, represented, kept⟩ := exists_entriesKept keys ih
      refine ⟨.mapping .mapping entries, by rw [yamlNode, represented]; rfl, fun placed narrow => ?_⟩
      rw [nesting] at narrow
      exact kept _ (by have := placed.le_fold; omega)
  obtain ⟨node, represented, kept⟩ := within
  rw [Value.isKept, represented]
  refine kept .root ?_
  simp only [YamlPlace.root, lineWidth]
  omega

end Value

/-! ### Documents -/

/-- A text with the tokens of a tree between marks is read as the tree. -/
theorem PlacedNode.ofText?_of_tokens {text : String} {node : YamlNode} {ends : List YamlToken}
    (isTree : node.IsTree) (shallow : node.nesting ≤ YamlDocument.depthLimit)
    (allowed : IsAllowed text.toList) (ended : ends = [] ∨ ends = [.documentEnd])
    (kinds : (YamlScan.tokensOf text.toList).1.map (·.1)
      = .documentStart :: (node.tokens false ++ (ends ++ [.streamEnd])))
    (whole : (YamlScan.tokensOf text.toList).2 = none) :
    ∃ root, PlacedNode.ofText? text = .ok (some root) ∧ root.bare? = some node := by
  have length := congrArg List.length kinds
  rw [List.length_map, List.length_cons, List.length_append] at length
  have reads := @YamlDocument.reads_single ends (4 * (YamlScan.tokensOf text.toList).1.length + 4) node
    isTree ended (by omega) shallow
  obtain ⟨found, rest, same, -, root, rfl, bare⟩ :=
    reads ⟨_, _, 0, [], []⟩ ⟨kinds, whole, rfl, rfl⟩
  refine ⟨root, ?_, bare⟩
  rw [PlacedNode.ofText?, List.findIdx?_eq_none_iff.mpr allowed]
  exact congrArg (Except.map (·.1)) same

/-- The node of a document is the one it was made from. -/
theorem YamlNode.IsTree.ofText? {node : YamlNode} (isTree : node.IsTree) (kept : node.kept .root = true)
    (shallow : node.nesting ≤ YamlDocument.depthLimit) (millis : Int) :
    ∃ root, PlacedNode.ofText? (documentText millis node.render) = .ok (some root)
      ∧ root.bare? = some node := by
  obtain ⟨kinds, whole⟩ := YamlNode.tokensOf_document isTree kept millis
  have ended : (if node.closing.isEmpty then ([] : List YamlToken) else [.documentEnd]) = []
      ∨ (if node.closing.isEmpty then ([] : List YamlToken) else [.documentEnd]) = [.documentEnd] := by
    split <;> simp
  rw [List.append_assoc] at kinds
  exact PlacedNode.ofText?_of_tokens isTree shallow (isAllowed_document isTree kept millis) ended kinds
    whole

/-- A document is loaded as the tree it was made from. -/
theorem Value.ofYaml_documentText {table : ClassTable} {tree : Value} (isTree : tree.IsTree)
    (short : tree.magnitude < 10 ^ Numeral.digitLimit) (shallow : tree.nesting ≤ YamlDocument.depthLimit)
    (kept : tree.isKept table = true) (millis : Int) (name : String) :
    ∃ text, tree.toYaml table = .ok text ∧ Value.ofYaml name (documentText millis text) = .ok tree := by
  obtain ⟨node, stands⟩ := @IsTree.exists_standsAs table tree isTree short
  rw [isKept, stands.represented] at kept
  obtain ⟨root, found, bare⟩ := stands.isTree.ofText? kept (stands.nesting ▸ shallow) millis
  refine ⟨node.render, by rw [toYaml, stands.represented]; rfl, ?_⟩
  have value : root.value = .ok tree := by
    rw [PlacedNode.value, (stands.faultless bare).firstFault?, stands.value [] bare]
  rw [Value.ofYaml, found]
  simp [Except.bind, Option.mapM, value, Except.map, Except.mapError]

/-- A schema with scalars of every kind and style. -/
def sampleSchema : Value :=
  .dict (Node.ofFields [("title", .str "Width: é # 1"), ("minimum", .int (-5)),
    ("required", .strings ["a b", ""]), ("default", .null), ("uniqueItems", .bool true),
    ("pattern", .str "\t\"?\""), ("items", .dict (Node.ofFields []))])

theorem isTree_sampleSchema : sampleSchema.IsTree := by
  refine .dict (by decide) ?_
  simp only [List.forall_mem_cons, List.not_mem_nil, false_implies, implies_true, and_true]
  refine ⟨.str _, .int _, .list ?_, .null, .bool _, .str _, .dict (by decide) (by simp)⟩
  simp only [List.map, List.forall_mem_cons, List.not_mem_nil, false_implies, implies_true, and_true]
  exact ⟨.str _, .str _⟩

theorem ofYaml_documentText_sampleSchema :
    sampleSchema.IsTree ∧ sampleSchema.magnitude < 10 ^ Numeral.digitLimit
      ∧ sampleSchema.nesting ≤ YamlDocument.depthLimit ∧ sampleSchema.isKept .empty = true
      ∧ ∃ text, sampleSchema.toYaml .empty = .ok text
        ∧ Value.ofYaml "sample.yml" (documentText 1700000000000 text) = .ok sampleSchema := by
  have short : sampleSchema.magnitude < 10 ^ Numeral.digitLimit := by
    have small : sampleSchema.magnitude < 10 := by decide
    exact Nat.lt_of_lt_of_le small (Nat.le_self_pow (by decide) 10)
  have shallow : sampleSchema.nesting ≤ YamlDocument.depthLimit := by decide
  have kept : sampleSchema.isKept .empty = true := by decide +kernel
  exact ⟨isTree_sampleSchema, short, shallow, kept,
    Value.ofYaml_documentText isTree_sampleSchema short shallow kept 1700000000000 "sample.yml"⟩

/-- A next line character between single quotes is loaded as a space. -/
theorem not_ofYaml_documentText_nextLine :
    ¬ ∀ (tree : Value), tree.IsTree → ∀ (millis : Int) (name : String),
      ∃ text, tree.toYaml .empty = .ok text
        ∧ Value.ofYaml name (documentText millis text) = .ok tree := by
  intro loads
  obtain ⟨text, written, loaded⟩ := loads (.str "a\u0085b") (.str _) 0 "sample.yml"
  have isWritten : ((Value.str "a\u0085b").toYaml .empty).toOption = some "'a\u0085  b'\n" := by
    decide +kernel
  have isLoaded : (Value.ofYaml "sample.yml" (documentText 0 "'a\u0085  b'\n")).toOption.bind Value.text?
      = some "a b" := by decide +kernel
  rw [written] at isWritten
  obtain rfl : text = "'a\u0085  b'\n" := Option.some.inj isWritten
  rw [loaded] at isLoaded
  exact absurd isLoaded (by decide)

end ModelSchema
