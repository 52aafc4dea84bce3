import ModelSchema.Proofs.Schema.Node
import ModelSchema.Validation.Part

/-!
The parts of values that do not hold themselves.

Such parts are values of their own as they stand. So a schema in which nothing holds itself is read
like any other node.
-/

namespace ModelSchema.Value

variable {table : ClassTable} {node : Node} {items : List Value}

/-! ### Values that end -/

theorem itemsEndless_eq_any : itemsEndless items = items.any isEndless := by
  induction items with
  | nil => rfl
  | cons item rest ih => exact congrArg (item.isEndless || ·) ih

theorem entriesEndless_eq_any : entriesEndless node = node.any (·.2.isEndless) := by
  induction node with
  | nil => rfl
  | cons entry rest ih => exact congrArg (entry.2.isEndless || ·) ih

theorem isEndless_list :
    (Value.list items).isEndless = false ↔ ∀ item ∈ items, item.isEndless = false := by
  show itemsEndless items = false ↔ _
  rw [itemsEndless_eq_any, List.any_eq_false]
  exact forall₂_congr fun _ _ => Bool.eq_false_iff.symm

theorem isEndless_dict :
    (Value.dict node).isEndless = false ↔ ∀ entry ∈ node, entry.2.isEndless = false := by
  show entriesEndless node = false ↔ _
  rw [entriesEndless_eq_any, List.any_eq_false]
  exact forall₂_congr fun _ _ => Bool.eq_false_iff.symm

@[simp] theorem isEndless_str {text : String} : (Value.str text).isEndless = false := rfl

@[simp] theorem isEndless_int {n : Int} : (Value.int n).isEndless = false := rfl

@[simp] theorem isEndless_bool {b : Bool} : (Value.bool b).isEndless = false := rfl

@[simp] theorem isEndless_nil : (Value.dict []).isEndless = false := rfl

@[simp] theorem isEndless_cons {entry : Value × Value} :
    (Value.dict (entry :: node)).isEndless = (entry.2.isEndless || (Value.dict node).isEndless) :=
  rfl

@[simp] theorem isEndless_strings {texts : List String} :
    (Value.strings texts).isEndless = false := by
  refine isEndless_list.mpr fun item member => ?_
  obtain ⟨text, -, rfl⟩ := List.mem_map.mp member
  rfl

theorem isEndless_append {other : Node} :
    (Value.dict (node ++ other)).isEndless
      = ((Value.dict node).isEndless || (Value.dict other).isEndless) := by
  induction node with
  | nil => rfl
  | cons entry rest ih => rw [List.cons_append, isEndless_cons, isEndless_cons, ih, Bool.or_assoc]

/-- What is behind a key of a value that ends does so too. -/
theorem isEndless_of_get? {key : String} {value : Value}
    (ends : (Value.dict node).isEndless = false) (found : node.get? key = some value) :
    value.isEndless = false := by
  rw [Node.get?_eq] at found
  obtain ⟨entry, at?, rfl⟩ := Option.map_eq_some_iff.mp found
  exact isEndless_dict.mp ends entry (List.mem_of_find?_eq_some at?)

@[simp] theorem text?_str {text : String} : (Value.str text).text? = some text := rfl

/-! ### Their parts -/

theorem unfoldedPart_eq {container part : Value} {place : Nat} (ends : part.isEndless = false) :
    container.unfoldedPart place part = part := by
  unfold unfoldedPart
  rw [ends, if_neg Bool.false_ne_true]

theorem unfoldedChildren_eq {container : Value}
    (ends : ∀ child ∈ container.children, child.isEndless = false) :
    container.unfoldedChildren = container.children := by
  have same : ∀ pair ∈ container.children.zip (List.range container.children.length),
      container.unfoldedPart pair.2 pair.1 = pair.1 :=
    fun pair member => unfoldedPart_eq (ends _ (List.of_mem_zip member).1)
  unfold unfoldedChildren
  rw [List.map_congr_left same, List.map_fst_zip (Nat.le_of_eq List.length_range.symm)]

theorem parts_list (ends : (Value.list items).isEndless = false) :
    (Value.list items).parts table = .ok items :=
  congrArg Except.ok (unfoldedChildren_eq (isEndless_list.mp ends))

theorem partEntries_dict (ends : (Value.dict node).isEndless = false) :
    (Value.dict node).partEntries table = .ok node := by
  have children : (Value.dict node).unfoldedChildren = node.map (·.2) := by
    refine unfoldedChildren_eq fun child member => ?_
    obtain ⟨entry, inside, rfl⟩ := List.mem_map.mp member
    exact isEndless_dict.mp ends entry inside
  unfold partEntries
  dsimp only
  rw [children, List.zip_map']
  exact congrArg Except.ok (List.map_id node)

theorem entryNamed?_eq {key : String} {container : Value} :
    ∀ {node : Node}, (∀ entry ∈ node, entry.2.isEndless = false) →
      entryNamed? key container node = node.get? key
  | [], _ => rfl
  | (k, value) :: rest, ends => by
    have later : entryNamed? key container rest = Node.get? rest key :=
      entryNamed?_eq fun other member => ends other (List.mem_cons_of_mem _ member)
    unfold entryNamed? at later ⊢
    rw [List.findIdx?_cons, Node.get?_cons_of_text]
    dsimp only
    have same : k.same (.str key) = true ↔ k.text? = some key := by rw [same_str, beq_iff_eq]
    by_cases here : k.text? = some key
    · rw [if_pos (same.mpr here), if_pos here]
      exact congrArg some (unfoldedPart_eq (ends _ List.mem_cons_self))
    · rw [if_neg (mt same.mp here), if_neg here, ← later, Option.bind_map]
      refine Option.bind_congr fun place found => ?_
      obtain ⟨inside, -⟩ := List.findIdx?_eq_some_iff_getElem.mp found
      have endsThere : rest[place].2.isEndless = false :=
        ends _ (List.mem_cons_of_mem _ (List.getElem_mem inside))
      dsimp only [Function.comp]
      rw [List.getElem?_cons_succ, List.getElem?_eq_getElem inside, Option.map_some,
        Option.map_some, unfoldedPart_eq endsThere, unfoldedPart_eq endsThere]

theorem partNamed?_dict {key : String} (ends : (Value.dict node).isEndless = false) :
    (Value.dict node).partNamed? table key = .ok (node.get? key) :=
  congrArg Except.ok (entryNamed?_eq (isEndless_dict.mp ends))

/-- An object has the keys that it has, whatever is behind them. -/
theorem hasPart_dict {key : String} :
    (Value.dict node).hasPart table (.str key) = .ok (node.get? key).isSome :=
  rfl

end ModelSchema.Value
