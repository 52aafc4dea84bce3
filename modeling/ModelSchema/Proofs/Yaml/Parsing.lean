import ModelSchema.Proofs.Yaml.Lines
import ModelSchema.Yaml.Document

/-!
Nodes are read from their tokens.

* `PlacedNode.bare?`: a node without its places.
* `YamlParsing.Reads`: what a reader takes away from a stream, and what it gives.
* `YamlNode.IsTree.isRead`: a tree is read from its tokens, whatever follows.
* `YamlDocument.reads_single`: the only document of a stream.
-/

namespace ModelSchema

/-! ### Nodes without places -/

namespace PlacedNode

mutual

/-- A node without its places. An alias inside of what it stands for is no node of its own. -/
def bare? : PlacedNode → Option YamlNode
  | .scalar _ tag text => some (.scalar tag text)
  | .sequence _ tag _ items => (bareItems? items).map (.sequence tag)
  | .mapping _ tag _ entries => (bareEntries? entries).map (.mapping tag)
  | .enclosing .. => none

def bareItems? : List PlacedNode → Option (List YamlNode)
  | [] => some []
  | node :: rest => do return (← node.bare?) :: (← bareItems? rest)

def bareEntries? : List (PlacedNode × PlacedNode) → Option (List (YamlNode × YamlNode))
  | [] => some []
  | (key, node) :: rest => do return (← key.bare?, ← node.bare?) :: (← bareEntries? rest)

end

theorem bareItems?_cons {placed : PlacedNode} {node : YamlNode} {rest : List PlacedNode}
    {nodes : List YamlNode} (first : placed.bare? = some node) (others : bareItems? rest = some nodes) :
    bareItems? (placed :: rest) = some (node :: nodes) := by
  show (do return (← placed.bare?) :: (← bareItems? rest)) = _
  rw [first, others]
  rfl

theorem bareEntries?_cons {key placed : PlacedNode} {keyNode node : YamlNode}
    {rest : List (PlacedNode × PlacedNode)} {nodes : List (YamlNode × YamlNode)}
    (isKey : key.bare? = some keyNode) (first : placed.bare? = some node)
    (others : bareEntries? rest = some nodes) :
    bareEntries? ((key, placed) :: rest) = some ((keyNode, node) :: nodes) := by
  show (do return (← key.bare?, ← placed.bare?) :: (← bareEntries? rest)) = _
  rw [isKey, first, others]
  rfl

/-- With its places a node has the same form. -/
theorem exists_of_bare?_scalar {placed : PlacedNode} {tag : YamlTag} {text : String}
    (bare : placed.bare? = some (.scalar tag text)) : ∃ mark, placed = .scalar mark tag text := by
  cases placed with
  | scalar mark =>
    cases bare
    exact ⟨mark, rfl⟩
  | sequence | mapping =>
    obtain ⟨_, -, same⟩ := Option.map_eq_some_iff.mp bare
    cases same
  | enclosing => cases bare

theorem exists_of_bare?_sequence {placed : PlacedNode} {tag : YamlTag} {nodes : List YamlNode}
    (bare : placed.bare? = some (.sequence tag nodes)) :
    ∃ mark anchor items, placed = .sequence mark tag anchor items ∧ bareItems? items = some nodes := by
  cases placed with
  | sequence mark _ anchor items =>
    obtain ⟨_, areItems, same⟩ := Option.map_eq_some_iff.mp bare
    cases same
    exact ⟨mark, anchor, items, rfl, areItems⟩
  | mapping =>
    obtain ⟨_, -, same⟩ := Option.map_eq_some_iff.mp bare
    cases same
  | scalar | enclosing => cases bare

theorem exists_of_bare?_mapping {placed : PlacedNode} {tag : YamlTag}
    {nodes : List (YamlNode × YamlNode)} (bare : placed.bare? = some (.mapping tag nodes)) :
    ∃ mark anchor entries, placed = .mapping mark tag anchor entries
      ∧ bareEntries? entries = some nodes := by
  cases placed with
  | mapping mark _ anchor entries =>
    obtain ⟨_, areEntries, same⟩ := Option.map_eq_some_iff.mp bare
    cases same
    exact ⟨mark, anchor, entries, rfl, areEntries⟩
  | sequence =>
    obtain ⟨_, -, same⟩ := Option.map_eq_some_iff.mp bare
    cases same
  | scalar | enclosing => cases bare

theorem exists_of_bareItems?_cons {placed : List PlacedNode} {node : YamlNode} {nodes : List YamlNode}
    (bare : bareItems? placed = some (node :: nodes)) :
    ∃ first rest, placed = first :: rest ∧ first.bare? = some node ∧ bareItems? rest = some nodes := by
  cases placed with
  | nil => cases bare
  | cons first rest =>
    refine ⟨first, rest, rfl, ?_⟩
    change (do return (← first.bare?) :: (← bareItems? rest)) = _ at bare
    simpa [Option.bind_eq_some_iff] using bare

theorem exists_of_bareEntries?_cons {placed : List (PlacedNode × PlacedNode)} {key node : YamlNode}
    {nodes : List (YamlNode × YamlNode)} (bare : bareEntries? placed = some ((key, node) :: nodes)) :
    ∃ first second rest, placed = (first, second) :: rest ∧ first.bare? = some key
      ∧ second.bare? = some node ∧ bareEntries? rest = some nodes := by
  cases placed with
  | nil => cases bare
  | cons entry rest =>
    refine ⟨entry.1, entry.2, rest, rfl, ?_⟩
    change (do return (← entry.1.bare?, ← entry.2.bare?) :: (← bareEntries? rest)) = _ at bare
    simp only [bind, Option.bind_eq_some_iff, pure, Option.some.injEq, List.cons.injEq,
      Prod.mk.injEq] at bare
    obtain ⟨_, isKey, _, isNode, _, others, ⟨rfl, rfl⟩, rfl⟩ := bare
    exact ⟨isKey, isNode, others⟩

end PlacedNode

namespace YamlNode

mutual

/-- How many collections are inside of each other at most. -/
def nesting : YamlNode → Nat
  | .scalar .. => 0
  | .sequence _ items => itemsNesting items + 1
  | .mapping _ entries => entriesNesting entries + 1

def itemsNesting : List YamlNode → Nat
  | [] => 0
  | item :: rest => max item.nesting (itemsNesting rest)

def entriesNesting : List (YamlNode × YamlNode) → Nat
  | [] => 0
  | (_, value) :: rest => max value.nesting (entriesNesting rest)

end

end YamlNode

/-! ### Streams -/

/-- The kinds of the tokens of a stream without a problem, in which no anchor is known. -/
structure YamlStream.Holds (stream : YamlStream) (kinds : List YamlToken) (depth : Nat) : Prop where
  kinds : stream.tokens.map (·.1) = kinds
  failure : stream.failure = none
  depth : stream.depth = depth
  anchors : stream.anchors = []

/-- A reader leaves some tokens of a stream, and its result has a property. -/
def YamlParsing.Reads {α : Type} (parsing : YamlParsing α) (before after : List YamlToken)
    (depth : Nat) (result : α → Prop) : Prop :=
  ∀ stream : YamlStream, stream.Holds before depth →
    ∃ a rest, parsing stream = .ok (a, rest) ∧ rest.Holds after depth ∧ result a

namespace YamlParsing

variable {α β : Type} {parsing : YamlParsing α} {next : α → YamlParsing β}
  {before between after kinds : List YamlToken} {depth : Nat} {result : α → Prop}
  {final : β → Prop} {kind : YamlToken}

theorem reads_pure {a : α} (holds : result a) : Reads (pure a) kinds kinds depth result :=
  fun stream there => ⟨a, stream, rfl, there, holds⟩

theorem Reads.bind (first : parsing.Reads before between depth result)
    (second : ∀ a, result a → (next a).Reads between after depth final) :
    Reads (parsing >>= next) before after depth final := by
  intro stream there
  obtain ⟨a, rest, reads, there, holds⟩ := first stream there
  obtain ⟨b, last, reads', there, holds'⟩ := second a holds rest there
  refine ⟨b, last, ?_, there, holds'⟩
  rw [← reads']
  exact congrArg (· >>= fun (a, rest) => next a rest) reads

theorem Reads.mono {weaker : α → Prop} (reads : parsing.Reads before after depth result)
    (implies : ∀ a, result a → weaker a) : parsing.Reads before after depth weaker := by
  intro stream there
  obtain ⟨a, rest, same, there, holds⟩ := reads stream there
  exact ⟨a, rest, same, there, implies a holds⟩

end YamlParsing

namespace YamlDocument

open YamlParsing

variable {α : Type} {kind : YamlToken} {kinds before after : List YamlToken} {depth : Nat}
  {condition : YamlToken → Bool} {result : α → Prop}

/-! ### Tokens -/

theorem reads_peek : peek.Reads (kind :: kinds) (kind :: kinds) depth (·.1 = kind) := by
  intro stream there
  obtain ⟨token, tokens, split, rfl, -⟩ := List.map_eq_cons_iff.mp there.kinds
  exact ⟨token, stream, by simp [peek, split], there, rfl⟩

theorem reads_advance : advance.Reads (kind :: kinds) kinds depth fun _ => True := by
  intro stream there
  refine ⟨(), _, rfl, ⟨?_, there.failure, there.depth, there.anchors⟩, trivial⟩
  exact List.map_tail.trans (congrArg List.tail there.kinds)

theorem reads_sees :
    (sees condition).Reads (kind :: kinds) (kind :: kinds) depth (· = condition kind) :=
  reads_peek.bind fun _ same => reads_pure (congrArg condition same)

/-- A branch that is taken because of the next token. -/
theorem reads_if_sees {yes no : YamlParsing α} (holds : condition kind = true)
    (reads : yes.Reads (kind :: kinds) after depth result) :
    YamlParsing.Reads (do if ← sees condition then yes else no) (kind :: kinds) after depth result :=
  reads_sees.bind fun b same => by rwa [same, holds, if_pos rfl]

theorem reads_unless_sees {yes no : YamlParsing α} (fails : condition kind = false)
    (reads : no.Reads (kind :: kinds) after depth result) :
    YamlParsing.Reads (do if ← sees condition then yes else no) (kind :: kinds) after depth result :=
  reads_sees.bind fun b same => by rwa [same, fails, if_neg Bool.false_ne_true]

/-- The tokens that nodes of trees begin with. -/
inductive BeginsNode : YamlToken → Prop where
  | scalar (text : String) (plain : Bool) : BeginsNode (.scalar text plain)
  | flowSequence : BeginsNode .flowSequenceStart
  | flowMapping : BeginsNode .flowMappingStart
  | blockSequence : BeginsNode .blockSequenceStart
  | blockMapping : BeginsNode .blockMappingStart
  | dash : BeginsNode .blockEntry

/-- No anchor and no tag stands in front of the nodes of trees. -/
theorem reads_properties (begins : BeginsNode kind) (start : YamlMark) :
    (properties start).Reads (kind :: kinds) (kind :: kinds) depth (· = ⟨none, none⟩) := by
  have anchor : anchor?.Reads (kind :: kinds) (kind :: kinds) depth (· = none) := by
    refine reads_peek.bind fun token same => ?_
    obtain ⟨_, mark⟩ := token
    subst same
    cases begins <;> exact reads_pure rfl
  have tag : (tag? start).Reads (kind :: kinds) (kind :: kinds) depth (· = none) := by
    refine reads_peek.bind fun token same => ?_
    obtain ⟨_, mark⟩ := token
    subst same
    cases begins <;> exact reads_pure rfl
  refine anchor.bind fun _ none => ?_
  subst none
  refine tag.bind fun _ none => ?_
  subst none
  refine anchor.bind fun _ none => ?_
  subst none
  exact reads_pure rfl

/-! ### Collections -/

/-- The parts of a collection are read one level deeper. -/
theorem reads_inside {parts : YamlParsing α} (reads : parts.Reads before after (depth + 1) result)
    (shallow : depth < depthLimit) : (inside parts).Reads before after depth result := by
  intro stream there
  have isDepth := there.depth
  obtain ⟨a, rest, same, there', holds⟩ := reads { stream with depth := depth + 1 }
    ⟨there.kinds, there.failure, rfl, there.anchors⟩
  refine ⟨a, { rest with depth := depth }, ?_,
    ⟨there'.kinds, there'.failure, rfl, there'.anchors⟩, holds⟩
  have notDeep : ¬ depthLimit ≤ depth := Nat.not_le.mpr shallow
  simp only [inside, bind, StateT.bind, get, getThe, MonadStateOf.get, StateT.get, pure,
    Except.pure, Except.bind, modify, modifyGet, MonadStateOf.modifyGet, StateT.modifyGet,
    StateT.pure, if_neg notDeep, isDepth, same]

/-! ### Nodes -/

variable {properties : Properties} {start : YamlMark} {fuel : Nat} {place : Place}
  {isEnd : YamlToken → Bool} {placed : PlacedNode → Prop}

/-- The node behind an indicator. -/
theorem reads_nodeBehind {mark : YamlToken} (begins : isEnd kind = false)
    (reads : (node fuel place).Reads (kind :: kinds) after depth placed) :
    (nodeBehind (fuel + 1) isEnd place).Reads (mark :: kind :: kinds) after depth placed := by
  refine reads_peek.bind fun token _ => reads_advance.bind fun _ _ => ?_
  exact reads_unless_sees begins reads

/-- The value behind a colon. -/
theorem reads_valueNode (begins : isEnd kind = false)
    (reads : (node fuel place).Reads (kind :: kinds) after depth placed) :
    (valueNode (fuel + 2) isEnd place).Reads (.value :: kind :: kinds) after depth placed := by
  refine reads_peek.bind fun token same => ?_
  obtain ⟨_, mark⟩ := token
  subst same
  exact reads_nodeBehind begins reads

theorem reads_sequenceNode {items : YamlParsing (List PlacedNode)} {result : List PlacedNode → Prop}
    (reads : items.Reads before after (depth + 1) result) (shallow : depth < depthLimit) :
    (sequenceNode ⟨none, none⟩ start items).Reads before after depth
      fun node => ∃ mark items, node = .sequence mark .sequence none items ∧ result items :=
  (reads_inside reads shallow).bind fun items holds => reads_pure ⟨start, items, rfl, holds⟩

theorem reads_mappingNode {entries : YamlParsing (List (PlacedNode × PlacedNode))}
    {result : List (PlacedNode × PlacedNode) → Prop}
    (reads : entries.Reads before after (depth + 1) result) (shallow : depth < depthLimit) :
    (mappingNode ⟨none, none⟩ start entries).Reads before after depth
      fun node => ∃ mark entries, node = .mapping mark .mapping none entries ∧ result entries :=
  (reads_inside reads shallow).bind fun entries holds => reads_pure ⟨start, entries, rfl, holds⟩

/-- What stands in front of a node is read first, which is nothing here. -/
theorem reads_opening {first : PlacedToken → YamlParsing PlacedNode}
    {content : YamlMark → Properties → PlacedToken → YamlParsing PlacedNode} (begins : BeginsNode kind)
    (isContent : ∀ start,
      first (kind, start) = YamlDocument.properties start >>= fun found => peek >>= content start found)
    (reads : ∀ start mark,
      (content start ⟨none, none⟩ (kind, mark)).Reads (kind :: kinds) after depth placed) :
    YamlParsing.Reads (peek >>= first) (kind :: kinds) after depth placed := by
  refine reads_peek.bind fun token same => ?_
  obtain ⟨_, start⟩ := token
  subst same
  rw [isContent]
  refine (reads_properties begins start).bind fun _ none => ?_
  subst none
  refine reads_peek.bind fun token same => ?_
  obtain ⟨_, mark⟩ := token
  subst same
  exact reads start mark

/-- A scalar is a node by itself. -/
theorem reads_scalar {text : String} {plain : Bool} :
    (node (fuel + 1) place).Reads (.scalar text plain :: kinds) kinds depth
      fun node => ∃ mark, node = .scalar mark (scalarTag none text plain) text := by
  refine reads_opening (.scalar text plain) (fun _ => rfl) fun start _ => ?_
  exact reads_advance.bind fun _ _ => reads_pure ⟨start, rfl⟩

/-- A sequence in a block of its own. -/
theorem reads_blockSequence {result : List PlacedNode → Prop} (notFlow : place ≠ .flow)
    (reads : ∀ mark, (blockItems fuel mark).Reads kinds after (depth + 1) result)
    (shallow : depth < depthLimit) :
    (node (fuel + 1) place).Reads (.blockSequenceStart :: kinds) after depth
      fun node => ∃ mark items, node = .sequence mark .sequence none items ∧ result items := by
  refine reads_opening .blockSequence (fun _ => rfl) fun start mark => ?_
  cases place with
  | flow => exact absurd rfl notFlow
  | _ => exact reads_advance.bind fun _ _ => reads_sequenceNode (reads mark) shallow

/-- A sequence in the block of its mapping. -/
theorem reads_dashes {result : List PlacedNode → Prop}
    (reads : (dashes fuel).Reads (.blockEntry :: kinds) after (depth + 1) result)
    (shallow : depth < depthLimit) :
    (node (fuel + 1) .blockOrDashes).Reads (.blockEntry :: kinds) after depth
      fun node => ∃ mark items, node = .sequence mark .sequence none items ∧ result items := by
  refine reads_opening .dash (fun _ => rfl) fun start mark => ?_
  exact reads_sequenceNode reads shallow

theorem reads_blockMapping {result : List (PlacedNode × PlacedNode) → Prop} (notFlow : place ≠ .flow)
    (reads : ∀ mark, (blockEntries fuel mark).Reads kinds after (depth + 1) result)
    (shallow : depth < depthLimit) :
    (node (fuel + 1) place).Reads (.blockMappingStart :: kinds) after depth
      fun node => ∃ mark entries, node = .mapping mark .mapping none entries ∧ result entries := by
  refine reads_opening .blockMapping (fun _ => rfl) fun start mark => ?_
  cases place with
  | flow => exact absurd rfl notFlow
  | _ => exact reads_advance.bind fun _ _ => reads_mappingNode (reads mark) shallow

/-- Brackets with nothing in them. -/
theorem reads_emptySequence (shallow : depth < depthLimit) :
    (node (fuel + 2) place).Reads (.flowSequenceStart :: .flowSequenceEnd :: kinds) kinds depth
      fun node => ∃ mark, node = .sequence mark .sequence none [] := by
  have inside (mark : YamlMark) : (flowItems (fuel + 1) mark true).Reads (.flowSequenceEnd :: kinds)
      kinds (depth + 1) (· = []) := by
    exact reads_if_sees rfl (reads_advance.bind fun _ _ => reads_pure rfl)
  refine reads_opening .flowSequence (fun _ => rfl) fun start mark => ?_
  refine reads_advance.bind fun _ _ => (reads_sequenceNode (inside mark) shallow).mono ?_
  rintro node ⟨mark, items, same, rfl⟩
  exact ⟨mark, same⟩

theorem reads_emptyMapping (shallow : depth < depthLimit) :
    (node (fuel + 2) place).Reads (.flowMappingStart :: .flowMappingEnd :: kinds) kinds depth
      fun node => ∃ mark, node = .mapping mark .mapping none [] := by
  have inside (mark : YamlMark) : (flowEntries (fuel + 1) mark true).Reads (.flowMappingEnd :: kinds)
      kinds (depth + 1) (· = []) := by
    exact reads_if_sees rfl (reads_advance.bind fun _ _ => reads_pure rfl)
  refine reads_opening .flowMapping (fun _ => rfl) fun start mark => ?_
  refine reads_advance.bind fun _ _ => (reads_mappingNode (inside mark) shallow).mono ?_
  rintro node ⟨mark, entries, same, rfl⟩
  exact ⟨mark, same⟩

end YamlDocument

/-! ### Trees -/

namespace YamlNode

open YamlDocument YamlParsing

/-- The places of the nodes of trees. A sequence in the block of its mapping ends where no dash
follows. -/
inductive Stands : Place → Bool → List YamlToken → Prop where
  | block {rest : List YamlToken} : Stands .block false rest
  | value {rest : List YamlToken} : Stands .blockOrDashes false rest
  | dashes {kind : YamlToken} {rest : List YamlToken} : kind ≠ .blockEntry →
      Stands .blockOrDashes true (kind :: rest)

/-- A node is read from its tokens, whatever follows. -/
def IsRead (node : YamlNode) : Prop :=
  ∀ {fuel depth : Nat} {place : Place} {indentless : Bool} {rest : List YamlToken},
    4 * (node.tokens indentless).length ≤ fuel → depth + node.nesting ≤ depthLimit →
    Stands place indentless rest →
    (YamlDocument.node fuel place).Reads (node.tokens indentless ++ rest) rest depth
      (·.bare? = some node)

variable {items : List YamlNode} {entries : List (YamlNode × YamlNode)} {fuel depth : Nat}
  {place : Place} {rest : List YamlToken} {kind : YamlToken} {tag : YamlTag} {text : String}
  {start : YamlMark} {indentless : Bool}

/-- The first token of a node. -/
theorem IsTree.exists_begins {node : YamlNode} (isTree : node.IsTree) (indentless : Bool) :
    ∃ kind more, node.tokens indentless = kind :: more ∧ BeginsNode kind
      ∧ (kind = .blockEntry → indentless = true) := by
  cases isTree with
  | scalar => exact ⟨_, [], by rw [tokens], .scalar _ _, by simp⟩
  | @sequence items =>
    cases items with
    | nil => exact ⟨_, _, by rw [tokens], .flowSequence, by simp⟩
    | cons item items =>
      cases indentless with
      | false => 
        exact ⟨_, _, by rw [tokens, if_neg Bool.false_ne_true, List.cons_append], .blockSequence, by simp⟩
      | true => exact ⟨_, _, by rw [tokens, if_pos rfl], .dash, by simp⟩
  | @mapping entries =>
    cases entries with
    | nil => exact ⟨_, _, by rw [tokens], .flowMapping, by simp⟩
    | cons entry entries => exact ⟨_, _, by rw [tokens, List.cons_append], .blockMapping, by simp⟩

/-- A text that is not plain is a text, and a plain one tells what it is. -/
theorem scalarTag_of_choose {asKey : Bool}
    (isText : tag = .str ∨ ScalarStyle.choose tag text asKey = .plain) :
    scalarTag none text (decide (ScalarStyle.choose tag text asKey = .plain)) = tag := by
  by_cases plain : ScalarStyle.choose tag text asKey = .plain
  · rw [decide_eq_true plain]
    exact (ScalarStyle.plain_of_choose plain).1
  · rw [decide_eq_false plain]
    exact (isText.resolve_right plain).symm

theorem isRead_scalar (isScalar : IsTreeScalar tag text) : (YamlNode.scalar tag text).IsRead := by
  intro fuel depth place indentless rest enough _ _
  rw [tokens] at enough ⊢
  obtain ⟨fuel, rfl⟩ : ∃ less, fuel = less + 1 := ⟨fuel - 1, by simp at enough; omega⟩
  refine reads_scalar.mono ?_
  rintro _ ⟨mark, rfl⟩
  rw [scalarTag_of_choose (isScalar.imp id And.right)]
  rfl

/-- A key is read from its token. -/
theorem reads_key (text : String) :
    (YamlDocument.node (fuel + 1) place).Reads ((YamlNode.scalar .str text).keyTokens ++ rest) rest depth
      (·.bare? = some (.scalar .str text)) := by
  refine reads_scalar.mono ?_
  rintro _ ⟨mark, rfl⟩
  rw [scalarTag_of_choose (.inl rfl)]
  rfl

/-- The node behind a dash. -/
theorem reads_item {item : YamlNode} (isTree : item.IsTree) (isRead : item.IsRead)
    (indentless : Bool) (enough : 4 * (item.tokens false).length ≤ fuel)
    (shallow : depth + item.nesting ≤ depthLimit) :
    (nodeBehind (fuel + 1) (endsEntry indentless) .block).Reads
      (.blockEntry :: (item.tokens false ++ rest)) rest depth (·.bare? = some item) := by
  obtain ⟨kind, more, split, begins, noDash⟩ := isTree.exists_begins false
  have reads := @isRead fuel depth .block false rest enough shallow .block
  rw [split] at reads ⊢
  refine reads_nodeBehind ?_ reads
  cases begins with
  | dash => cases noDash rfl
  | _ => rfl

/-- The items of a sequence that is indented are read one after another. -/
theorem reads_blockItems (parts : ∀ item ∈ items, item.IsTree ∧ item.IsRead)
    (enough : 4 * (itemTokens items).length + 1 ≤ fuel)
    (shallow : depth + itemsNesting items ≤ depthLimit) :
    (blockItems fuel start).Reads (itemTokens items ++ .blockEnd :: rest) rest depth
      (PlacedNode.bareItems? · = some items) := by
  induction items generalizing fuel with
  | nil =>
    obtain ⟨fuel, rfl⟩ : ∃ less, fuel = less + 1 := ⟨fuel - 1, by omega⟩
    rw [itemTokens, List.nil_append]
    exact reads_unless_sees rfl (reads_if_sees rfl (reads_advance.bind fun _ _ => reads_pure rfl))
  | cons item items ih =>
    obtain ⟨isTree, isRead⟩ := parts item List.mem_cons_self
    simp only [itemTokens, List.length_cons, List.length_append, itemsNesting] at enough shallow
    obtain ⟨fuel, rfl⟩ : ∃ less, fuel = less + 2 := ⟨fuel - 2, by omega⟩
    rw [itemTokens, List.cons_append, List.append_assoc]
    refine reads_if_sees rfl ?_
    refine (reads_item isTree isRead false (by omega) (by omega)).bind fun placed isItem => ?_
    refine (ih (fun item member => parts item (List.mem_cons_of_mem _ member)) (by omega)
      (by omega)).bind fun others areItems => ?_
    exact reads_pure (PlacedNode.bareItems?_cons isItem areItems)

/-- The items of a sequence in the block of its mapping end where no dash follows. -/
theorem reads_itemDashes (parts : ∀ item ∈ items, item.IsTree ∧ item.IsRead)
    (enough : 4 * (itemTokens items).length ≤ fuel + 1)
    (shallow : depth + itemsNesting items ≤ depthLimit) (noDash : kind ≠ .blockEntry) :
    (dashes fuel).Reads (itemTokens items ++ kind :: rest) (kind :: rest) depth
      (PlacedNode.bareItems? · = some items) := by
  induction items generalizing fuel with
  | nil =>
    rw [itemTokens, List.nil_append]
    cases fuel with
    | zero => exact reads_pure rfl
    | succ fuel =>
      exact reads_unless_sees (decide_eq_false noDash) (reads_pure rfl)
  | cons item items ih =>
    obtain ⟨isTree, isRead⟩ := parts item List.mem_cons_self
    simp only [itemTokens, List.length_cons, List.length_append, itemsNesting] at enough shallow
    obtain ⟨fuel, rfl⟩ : ∃ less, fuel = less + 2 := ⟨fuel - 2, by omega⟩
    rw [itemTokens, List.cons_append, List.append_assoc]
    refine reads_if_sees rfl ?_
    refine (reads_item isTree isRead true (by omega) (by omega)).bind fun placed isItem => ?_
    refine (ih (fun item member => parts item (List.mem_cons_of_mem _ member)) (by omega)
      (by omega)).bind fun others areItems => ?_
    exact reads_pure (PlacedNode.bareItems?_cons isItem areItems)

/-- The value behind a key: no dash follows it. -/
theorem reads_entryValue {value : YamlNode} (isTree : value.IsTree) (isRead : value.IsRead)
    (enough : 4 * (value.tokens indentless).length ≤ fuel)
    (shallow : depth + value.nesting ≤ depthLimit) (noDash : kind ≠ .blockEntry) :
    (valueNode (fuel + 2) endsPair .blockOrDashes).Reads
      (.value :: (value.tokens indentless ++ kind :: rest)) (kind :: rest) depth
      (·.bare? = some value) := by
  obtain ⟨first, more, split, begins, -⟩ := isTree.exists_begins indentless
  have stands : Stands .blockOrDashes indentless (kind :: rest) := by
    cases indentless with
    | false => exact .value
    | true => exact .dashes noDash
  have reads := isRead enough shallow stands
  rw [split] at reads ⊢
  exact reads_valueNode (by cases begins <;> rfl) reads

/-- The entries of a mapping are read one after another. -/
theorem reads_blockEntries
    (parts : ∀ entry ∈ entries,
      (∃ text, entry.1 = .scalar .str text) ∧ entry.2.IsTree ∧ entry.2.IsRead)
    (enough : 4 * (entryTokens entries).length + 1 ≤ fuel)
    (shallow : depth + entriesNesting entries ≤ depthLimit) :
    (blockEntries fuel start).Reads (entryTokens entries ++ .blockEnd :: rest) rest depth
      (PlacedNode.bareEntries? · = some entries) := by
  induction entries generalizing fuel with
  | nil =>
    obtain ⟨fuel, rfl⟩ : ∃ less, fuel = less + 1 := ⟨fuel - 1, by omega⟩
    rw [entryTokens, List.nil_append]
    exact reads_if_sees rfl (reads_advance.bind fun _ _ => reads_pure rfl)
  | cons entry entries ih =>
    obtain ⟨key, value⟩ := entry
    obtain ⟨⟨text, isKey⟩, isTree, isRead⟩ := parts (key, value) List.mem_cons_self
    obtain rfl : key = .scalar .str text := isKey
    dsimp only at isTree isRead
    simp only [entryTokens, List.length_cons, List.length_append, entriesNesting] at enough shallow
    obtain ⟨fuel, rfl⟩ : ∃ less, fuel = less + 4 := ⟨fuel - 4, by omega⟩
    -- a key or the end of the block stands behind the value
    obtain ⟨kind, more, split, noDash⟩ : ∃ kind more,
        entryTokens entries ++ .blockEnd :: rest = kind :: more ∧ kind ≠ .blockEntry := by
      cases entries with
      | nil => exact ⟨.blockEnd, rest, rfl, by simp⟩
      | cons entry entries => exact ⟨.key, _, by rw [entryTokens, List.cons_append], by simp⟩
    rw [entryTokens, List.cons_append, List.append_assoc, List.cons_append,
      List.append_assoc, split]
    refine reads_unless_sees rfl (reads_if_sees rfl ?_)
    refine (reads_nodeBehind rfl (reads_key text)).bind fun placedKey isKey => ?_
    refine (reads_entryValue isTree isRead (by omega) (by omega) noDash).bind fun placed isValue => ?_
    rw [← split]
    refine (ih (fun entry member => parts entry (List.mem_cons_of_mem _ member)) (by omega)
      (by omega)).bind fun others areEntries => ?_
    exact reads_pure (PlacedNode.bareEntries?_cons isKey isValue areEntries)

/-- Trees are read from their tokens. -/
theorem IsTree.isRead {node : YamlNode} (isTree : node.IsTree) : node.IsRead := by
  induction isTree with
  | scalar isScalar => exact isRead_scalar isScalar
  | @sequence items each ih =>
    intro fuel depth place indentless rest enough shallow stands
    rw [nesting] at shallow
    cases items with
    | nil =>
      rw [tokens] at enough ⊢
      obtain ⟨fuel, rfl⟩ : ∃ less, fuel = less + 2 := ⟨fuel - 2, by simp at enough; omega⟩
      refine (reads_emptySequence (by omega)).mono ?_
      rintro _ ⟨mark, rfl⟩
      rfl
    | cons item items =>
      have parts : ∀ inner ∈ item :: items, inner.IsTree ∧ inner.IsRead :=
        fun inner member => ⟨each inner member, ih inner member⟩
      have long : 1 ≤ (itemTokens (item :: items)).length := by simp [itemTokens]
      rw [tokens_sequence] at enough ⊢
      have isNode : ∀ placed : PlacedNode, (∃ mark placedItems,
          placed = .sequence mark .sequence none placedItems
            ∧ PlacedNode.bareItems? placedItems = some (item :: items)) →
          placed.bare? = some (.sequence .sequence (item :: items)) := by
        rintro _ ⟨mark, placedItems, rfl, areItems⟩
        exact congrArg (Option.map (YamlNode.sequence .sequence)) areItems
      cases indentless with
      | true =>
        cases stands with
        | dashes noDash =>
          rw [if_pos rfl] at enough ⊢
          obtain ⟨fuel, rfl⟩ : ∃ less, fuel = less + 1 := ⟨fuel - 1, by omega⟩
          refine YamlParsing.Reads.mono ?_ isNode
          exact reads_dashes (reads_itemDashes parts enough (by omega) noDash) (by omega)
      | false =>
        have notFlow : place ≠ .flow := by cases stands <;> simp
        rw [if_neg Bool.false_ne_true] at enough ⊢
        simp only [List.length_cons, List.length_append, List.length_nil] at enough
        obtain ⟨fuel, rfl⟩ : ∃ less, fuel = less + 1 := ⟨fuel - 1, by omega⟩
        refine YamlParsing.Reads.mono ?_ isNode
        rw [List.cons_append, List.cons_append, List.append_assoc]
        exact reads_blockSequence notFlow
          (fun mark => reads_blockItems parts (by omega) (by omega)) (by omega)
  | @mapping entries keys each ih =>
    intro fuel depth place indentless rest enough shallow stands
    rw [nesting] at shallow
    cases entries with
    | nil =>
      rw [tokens] at enough ⊢
      obtain ⟨fuel, rfl⟩ : ∃ less, fuel = less + 2 := ⟨fuel - 2, by simp at enough; omega⟩
      refine (reads_emptyMapping (by omega)).mono ?_
      rintro _ ⟨mark, rfl⟩
      rfl
    | cons entry entries =>
      have parts : ∀ inner ∈ entry :: entries, (∃ text, inner.1 = .scalar .str text)
          ∧ inner.2.IsTree ∧ inner.2.IsRead :=
        fun inner member => ⟨keys inner member, each inner member, ih inner member⟩
      have notFlow : place ≠ .flow := by cases stands <;> simp
      rw [tokens_mapping] at enough ⊢
      simp only [List.length_cons, List.length_append, List.length_nil] at enough
      obtain ⟨fuel, rfl⟩ : ∃ less, fuel = less + 1 := ⟨fuel - 1, by omega⟩
      rw [List.cons_append, List.cons_append, List.append_assoc]
      refine (reads_blockMapping notFlow
        (fun mark => reads_blockEntries parts (by omega) (by omega)) (by omega)).mono ?_
      rintro _ ⟨mark, placedEntries, rfl, areEntries⟩
      exact congrArg (Option.map (YamlNode.mapping .mapping)) areEntries

end YamlNode

/-! ### Documents -/

namespace YamlDocument

open YamlParsing

variable {kind : YamlToken} {kinds ends : List YamlToken} {depth fuel : Nat}

theorem reads_skipEnds (noEnd : kind ≠ .documentEnd) :
    (skipEnds fuel).Reads (kind :: kinds) (kind :: kinds) depth fun _ => True := by
  cases fuel with
  | zero => exact reads_pure trivial
  | succ fuel => exact reads_unless_sees (decide_eq_false noEnd) (reads_pure trivial)

/-- Nothing stands behind the only document. -/
theorem reads_explicitStart_end :
    (explicitStart fuel).Reads (.streamEnd :: kinds) (.streamEnd :: kinds) depth (· = none) :=
  (reads_skipEnds (by simp)).bind fun _ _ => reads_if_sees rfl (reads_pure rfl)

/-- There are no directives in front of a mark. -/
theorem reads_directives (handles : List (String × String)) :
    (directives fuel false handles).Reads (.documentStart :: kinds) (.documentStart :: kinds) depth
      fun _ => True := by
  cases fuel with
  | zero => exact reads_pure trivial
  | succ fuel =>
    refine reads_peek.bind fun token same => ?_
    obtain ⟨_, mark⟩ := token
    subst same
    exact reads_pure trivial

theorem reads_handles (handles : List (String × String)) :
    (modify fun stream => { stream with handles := handles } : YamlParsing Unit).Reads kinds kinds depth
      fun _ => True :=
  fun _ there => ⟨(), _, rfl, ⟨there.kinds, there.failure, there.depth, there.anchors⟩, trivial⟩

/-- The mark in front of a document. -/
theorem reads_explicitStart :
    (explicitStart fuel).Reads (.documentStart :: kinds) kinds depth (∃ mark, · = some mark) := by
  refine (reads_skipEnds (by simp)).bind fun _ _ => reads_unless_sees rfl ?_
  refine reads_peek.bind fun token _ => (reads_directives []).bind fun handles _ => ?_
  refine (reads_handles _).bind fun _ _ => reads_if_sees ?_ ?_
  · rfl
  · exact reads_advance.bind fun _ _ => reads_pure ⟨_, rfl⟩

/-- The only document of a stream is its tree. -/
theorem reads_single {node : YamlNode} (isTree : node.IsTree) (ended : ends = [] ∨ ends = [.documentEnd])
    (enough : 4 * (node.tokens false).length ≤ fuel) (shallow : node.nesting ≤ depthLimit) :
    (single fuel).Reads (.documentStart :: (node.tokens false ++ (ends ++ [.streamEnd]))) [.streamEnd] 0
      (∃ root, · = some root ∧ root.bare? = some node) := by
  obtain ⟨kind, more, split, begins, -⟩ := isTree.exists_begins false
  have reads : (YamlDocument.node fuel .block).Reads (node.tokens false ++ (ends ++ [.streamEnd]))
      (ends ++ [.streamEnd]) 0 (·.bare? = some node) := isTree.isRead enough (by omega) .block
  refine reads_peek.bind fun token same => ?_
  obtain ⟨_, mark⟩ := token
  subst same
  refine reads_explicitStart.bind fun found isStart => ?_
  obtain ⟨start, rfl⟩ := isStart
  rw [split] at reads ⊢
  refine reads_peek.bind fun token same => ?_
  obtain ⟨_, content⟩ := token
  refine reads_unless_sees (by cases begins <;> rfl) (reads.bind fun root isRoot => ?_)
  rcases ended with rfl | rfl
  on_goal 1 => refine reads_unless_sees rfl ?_
  on_goal 2 => refine reads_if_sees rfl (reads_advance.bind fun _ _ => ?_)
  all_goals
    refine reads_explicitStart_end.bind fun found none => ?_
    subst none
    exact reads_pure ⟨root, rfl, isRoot⟩

end YamlDocument

end ModelSchema
