import Mathlib.Data.List.Perm.Subperm
import ModelSchema.Schema.Outline
import Std.Data.String.ToNat

/-!
Definition names.

Attempts at a name differ from each other, so that one attempt more than there are names taken is
enough (`uniqueName_notMem`). Every name is made of characters that stand for themselves in a
reference (`isNameChar_of_mem_uniqueName`).
-/

namespace ModelSchema

/-! ### Attempts -/

theorem nameAttempt_succ (name : String) (n : Nat) :
    nameAttempt name (n + 1) = name ++ "_" ++ Nat.repr (n + 1) := by
  simp [nameAttempt, toString]

theorem nameAttempt_injective {name : String} {n m : Nat}
    (same : nameAttempt name n = nameAttempt name m) : n = m := by
  have longer : ∀ k, name ≠ nameAttempt name (k + 1) := by
    intro k same
    have length := congrArg String.length same
    rw [nameAttempt_succ, String.length_append, String.length_append] at length
    have : "_".length = 1 := rfl
    omega
  cases n with
  | zero =>
    cases m with
    | zero => rfl
    | succ m => exact absurd same (longer m)
  | succ n =>
    cases m with
    | zero => exact absurd same.symm (longer n)
    | succ m =>
      rw [nameAttempt_succ, nameAttempt_succ, String.append_right_inj] at same
      exact Nat.repr_injective same

/-- Among one attempt more than there are names taken, one is free. -/
theorem exists_free_attempt (taken : List String) (name : String) :
    ∃ n, n < taken.length + 1 ∧ nameAttempt name n ∉ taken := by
  by_cases free : ∃ n, n < taken.length + 1 ∧ nameAttempt name n ∉ taken
  · exact free
  · have attempts : ((List.range (taken.length + 1)).map (nameAttempt name)).Nodup :=
      List.Pairwise.map _ (fun _ _ differ same => differ (nameAttempt_injective same))
        List.nodup_range
    have inside : (List.range (taken.length + 1)).map (nameAttempt name) ⊆ taken := by
      intro attempt member
      obtain ⟨n, hn, rfl⟩ := List.mem_map.mp member
      exact Decidable.byContradiction fun absent => free ⟨n, List.mem_range.mp hn, absent⟩
    have length := (List.subperm_of_subset attempts inside).length_le
    rw [List.length_map, List.length_range] at length
    exact absurd length (Nat.not_succ_le_self _)

/-- A new definition name is the first attempt at the name in its plain form that is not taken. -/
theorem uniqueName_first (taken : List String) (name : String) :
    ∃ n ≤ taken.length, uniqueName taken name = nameAttempt (sanitizedName name) n
      ∧ uniqueName taken name ∉ taken ∧ ∀ m < n, nameAttempt (sanitizedName name) m ∈ taken := by
  unfold uniqueName
  dsimp only
  rw [List.find?_map]
  cases found : (List.range (taken.length + 1)).find?
      ((fun attempt => !taken.contains attempt) ∘ nameAttempt (sanitizedName name)) with
  | none =>
    obtain ⟨n, small, free⟩ := exists_free_attempt taken (sanitizedName name)
    have all := List.find?_eq_none.mp found n (List.mem_range.mpr small)
    exact absurd (by simpa using all) free
  | some n =>
    obtain ⟨free, inside, before⟩ := List.find?_range_eq_some.mp found
    refine ⟨n, Nat.le_of_lt_succ (List.mem_range.mp inside), rfl, by simpa using free, ?_⟩
    exact fun m less => by simpa using before m less

/-- A new definition name is not taken, and it is an attempt at the name in its plain form. -/
theorem uniqueName_spec (taken : List String) (name : String) :
    uniqueName taken name ∉ taken ∧ ∃ n, uniqueName taken name = nameAttempt (sanitizedName name) n := by
  obtain ⟨n, -, made, free, -⟩ := uniqueName_first taken name
  exact ⟨free, n, made⟩

theorem uniqueName_notMem (taken : List String) (name : String) :
    uniqueName taken name ∉ taken :=
  (uniqueName_spec taken name).1

/-! ### Characters -/

theorem isNameChar_of_mem_sanitizeFrom {c : Char} {inRun : Bool} {text : List Char}
    (member : c ∈ sanitizeFrom inRun text) : isNameChar c = true := by
  induction text generalizing inRun with
  | nil => exact absurd member List.not_mem_nil
  | cons d rest ih =>
    rw [sanitizeFrom] at member
    split at member
    next plain =>
      rcases List.mem_cons.mp member with rfl | later
      · exact plain
      · exact ih later
    next =>
      split at member
      · exact ih member
      · rcases List.mem_cons.mp member with rfl | later
        · rfl
        · exact ih later

theorem isNameChar_of_isDigit {c : Char} (digit : c.isDigit = true) : isNameChar c = true := by
  simp [isNameChar, Char.isAlphanum, digit]

/-- A definition name has characters for names only. -/
theorem isNameChar_of_mem_uniqueName {taken : List String} {name : String} {c : Char}
    (member : c ∈ (uniqueName taken name).toList) : isNameChar c = true := by
  obtain ⟨-, n, made⟩ := uniqueName_spec taken name
  have plain : ∀ c ∈ (sanitizedName name).toList, isNameChar c = true := by
    intro c member
    rw [sanitizedName, String.toList_ofList] at member
    exact isNameChar_of_mem_sanitizeFrom member
  rw [made] at member
  cases n with
  | zero => exact plain c member
  | succ n =>
    rw [nameAttempt_succ, String.toList_append, String.toList_append] at member
    rcases List.mem_append.mp member with before | digits
    · rcases List.mem_append.mp before with old | sign
      · exact plain c old
      · cases List.mem_singleton.mp sign
        rfl
    · rw [Nat.toList_repr] at digits
      exact isNameChar_of_isDigit
        (Nat.isDigit_of_mem_toDigits (Nat.succ_pos 9) (Nat.le_refl 10) digits)

end ModelSchema
