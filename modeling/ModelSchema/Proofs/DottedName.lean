import ModelSchema.Proofs.Storage.Path

/-!
Dotted names and their parts.

A name is its parts with dots between them (`intercalate_dottedParts`), so that different names have
different parts (`dottedParts_inj`). No part has a dot (`noDot_of_mem_dottedParts`). Names behind
each other have the parts of the first and then those of the second (`dottedParts_append`), and
every name that begins with the parts of another one comes about so (`dottedParts_isPrefix_iff`).
-/

namespace ModelSchema

/-! ### Lists between marks -/

/-- What is between marks has no mark. -/
theorem notMem_of_mem_splitOn {α : Type} [BEq α] [LawfulBEq α] {mark : α} {list part : List α}
    (member : part ∈ list.splitOn mark) : mark ∉ part := by
  induction list generalizing part with
  | nil =>
    rw [List.splitOn_nil, List.mem_singleton] at member
    exact member ▸ List.not_mem_nil
  | cons a rest ih =>
    rw [List.splitOn_cons_eq_if_modifyHead] at member
    split at member
    next =>
      rcases List.mem_cons.mp member with rfl | later
      · exact List.not_mem_nil
      · exact ih later
    next differs =>
      cases parts : rest.splitOn mark with
      | nil => exact absurd parts (List.splitOn_ne_nil _ _)
      | cons first others =>
        rw [parts] at member ih
        rcases List.mem_cons.mp member with rfl | later
        · rintro isMark
          rcases List.mem_cons.mp isMark with rfl | inFirst
          · exact differs (beq_self_eq_true _)
          · exact ih List.mem_cons_self inFirst
        · exact ih (List.mem_cons_of_mem _ later)

/-- What is in lists with a mark between them is the mark or in one of the lists. -/
theorem eq_or_exists_of_mem_intercalate {α : Type} {mark a : α} {lists : List (List α)}
    (member : a ∈ [mark].intercalate lists) : a = mark ∨ ∃ list ∈ lists, a ∈ list := by
  induction lists with
  | nil => exact absurd member List.not_mem_nil
  | cons first rest ih =>
    cases rest with
    | nil =>
      rw [List.intercalate_singleton] at member
      exact .inr ⟨first, List.mem_cons_self, member⟩
    | cons second others =>
      rw [List.intercalate_cons_cons, List.mem_append, List.mem_append] at member
      rcases member with (inFirst | isMark) | later
      · exact .inr ⟨first, List.mem_cons_self, inFirst⟩
      · exact .inl (List.mem_singleton.mp isMark)
      · rcases ih later with isMark | ⟨list, inLists, inList⟩
        · exact .inl isMark
        · exact .inr ⟨list, List.mem_cons_of_mem _ inLists, inList⟩

/-! ### Dotted names -/

variable {name other part : String}

theorem intercalate_dottedParts (name : String) : ".".intercalate (dottedParts name) = name := by
  have chars : ".".toList = ['.'] := rfl
  rw [← String.toList_inj, String.toList_intercalate, dottedParts_eq, List.map_map, chars]
  have same : String.toList ∘ String.ofList = id := funext fun _ => String.toList_ofList
  rw [same, List.map_id, List.intercalate_splitOn]

theorem dottedParts_inj : dottedParts name = dottedParts other ↔ name = other := by
  refine ⟨fun same => ?_, congrArg _⟩
  rw [← intercalate_dottedParts name, same, intercalate_dottedParts]

theorem noDot_of_mem_dottedParts (member : part ∈ dottedParts name) : '.' ∉ part.toList := by
  rw [dottedParts_eq] at member
  obtain ⟨chars, inside, rfl⟩ := List.mem_map.mp member
  rw [String.toList_ofList]
  exact notMem_of_mem_splitOn inside

theorem dottedParts_ne_nil : dottedParts name ≠ [] := by
  rw [dottedParts_eq]
  simp

/-- A name without dots is its only part. -/
theorem dottedParts_of_noDot (noDot : '.' ∉ name.toList) : dottedParts name = [name] := by
  rw [dottedParts_eq, List.splitOn_eq_singleton noDot, List.map_singleton, String.ofList_toList]

/-- Names behind each other with a dot between them have the parts of both. -/
theorem dottedParts_append (name other : String) :
    dottedParts (name ++ "." ++ other) = dottedParts name ++ dottedParts other := by
  have chars : (name ++ "." ++ other).toList = name.toList ++ '.' :: other.toList := by simp
  rw [dottedParts_eq, dottedParts_eq, dottedParts_eq, chars, List.splitOn_append_cons_self,
    List.map_append]

/-- The parts of a name are the first ones of another one that is the name, or has it and a dot in
front. -/
theorem dottedParts_isPrefix_iff :
    dottedParts other <+: dottedParts name
      ↔ name = other ∨ name.startsWith (other ++ ".") = true := by
  rw [String.startsWith_string_iff]
  constructor
  · rintro ⟨rest, joined⟩
    have whole : ".".intercalate (dottedParts other ++ rest) = name := by
      rw [joined, intercalate_dottedParts]
    by_cases none : rest = []
    · rw [none, List.append_nil, intercalate_dottedParts] at whole
      exact .inl whole.symm
    · rw [String.intercalate_append_of_ne_nil dottedParts_ne_nil none, intercalate_dottedParts]
        at whole
      refine .inr ?_
      rw [← whole, String.toList_append (s := other ++ ".")]
      exact List.prefix_append _ _
  · rintro (rfl | ⟨rest, joined⟩)
    · exact List.prefix_refl _
    · have whole : name = other ++ "." ++ String.ofList rest := by
        rw [← String.toList_inj, String.toList_append, String.toList_ofList]
        exact joined.symm
      rw [whole, dottedParts_append]
      exact List.prefix_append _ _

end ModelSchema
