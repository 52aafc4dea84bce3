/-!
Saturation: all that is reached from some items by following what each one leads to.

`saturate next rounds known` adds in every round what the known items lead to. When there are at
most `rounds` further items the result is closed: it holds everything its items lead to.

* `length_filter_lt`: bounds searches that take one more item out of a finite list at every step.
* `saturate_succ`: what one round does.
* `saturate_induction`: nothing is reached but what the known items lead to.
* `saturate_closed`: all of it is, when there are at least as many rounds as items that are not known
  yet.
* `nodup_saturate`: and each item is reached once.
-/

namespace ModelSchema

section

variable {α : Type} [BEq α]

/-- What known items lead to and is not known yet, each item once. -/
def newlyReached (next : α → List α) (known : List α) : List α :=
  ((known.flatMap next).filter fun item => !known.contains item).eraseDups

/-- Adds what the known items lead to, in at most `rounds` rounds. -/
def saturate (next : α → List α) : Nat → List α → List α
  | 0, known => known
  | rounds + 1, known =>
    match newlyReached next known with
    | [] => known
    | added => saturate next rounds (known ++ added)

end

/-! ### Progress -/

/-- A stricter condition keeps fewer items when it drops one. -/
theorem length_filter_lt {α : Type} {p q : α → Bool} (stricter : ∀ x, q x = true → p x = true)
    {dropped : α} (hp : p dropped = true) (hq : q dropped = false) :
    ∀ {items : List α}, dropped ∈ items → (items.filter q).length < (items.filter p).length
  | [], h => nomatch h
  | x :: rest, h => by
    have monotone : ∀ l : List α, (l.filter q).length ≤ (l.filter p).length := by
      intro l
      induction l with
      | nil => simp
      | cons y ys ih =>
        cases hy : q y with
        | true => simp [hy, stricter y hy, ih]
        | false =>
          cases hy' : p y with
          | true => simp [hy, hy']; omega
          | false => simp [hy, hy', ih]
    cases List.mem_cons.mp h with
    | inl heq =>
      subst heq
      have := monotone rest
      simp only [List.filter_cons, hp, hq, Bool.false_eq_true, if_true, if_false,
        List.length_cons]
      omega
    | inr hmem =>
      have ih := length_filter_lt stricter hp hq hmem
      cases hx : q x with
      | true => simp [hx, stricter x hx]; omega
      | false =>
        cases hx' : p x with
        | true => simp [hx, hx']; omega
        | false => simp [hx, hx']; omega

/-! ### What is reached -/

section

variable {α : Type} [BEq α] {next : α → List α}

/-- Nothing is added when the known items lead to nothing else. -/
theorem saturate_eq_self {known : List α} (nothing : newlyReached next known = []) :
    ∀ rounds, saturate next rounds known = known
  | 0 => rfl
  | rounds + 1 => by
    show (match newlyReached next known with
      | [] => known
      | added => saturate next rounds (known ++ added)) = known
    rw [nothing]

/-- A round adds what is newly reached, also where that is nothing. -/
theorem saturate_succ (rounds : Nat) (known : List α) :
    saturate next (rounds + 1) known
      = saturate next rounds (known ++ newlyReached next known) := by
  by_cases nothing : newlyReached next known = []
  · rw [saturate_eq_self nothing, nothing, List.append_nil, saturate_eq_self nothing]
  · show (match newlyReached next known with
      | [] => known
      | added => saturate next rounds (known ++ added)) = _
    split
    · contradiction
    · rfl

/-- Known items stay known. -/
theorem subset_saturate (rounds : Nat) (known : List α) : known ⊆ saturate next rounds known := by
  induction rounds generalizing known with
  | zero => exact fun x hx => hx
  | succ rounds ih =>
    intro x hx
    rw [saturate_succ]
    exact ih _ (List.mem_append_left _ hx)

variable [LawfulBEq α]

theorem mem_newlyReached_iff {known : List α} {y : α} :
    y ∈ newlyReached next known ↔ (∃ x ∈ known, y ∈ next x) ∧ y ∉ known := by
  unfold newlyReached
  rw [List.mem_eraseDups, List.mem_filter, List.mem_flatMap]
  simp

/-- No item is kept twice. -/
theorem nodup_eraseDups : ∀ items : List α, items.eraseDups.Nodup
  | [] => by simp
  | x :: rest => by
    rw [List.eraseDups_cons, List.nodup_cons]
    constructor
    · rw [List.mem_eraseDups]
      simp
    · exact nodup_eraseDups (rest.filter fun y => !y == x)
  termination_by items => items.length
  decreasing_by exact Nat.lt_succ_of_le (List.length_filter_le _ _)

/-- What is reached is reached once. -/
theorem nodup_saturate {rounds : Nat} {known : List α} (once : known.Nodup) :
    (saturate next rounds known).Nodup := by
  induction rounds generalizing known with
  | zero => exact once
  | succ rounds ih =>
    rw [saturate_succ]
    refine ih (List.nodup_append.mpr ⟨once, nodup_eraseDups _, ?_⟩)
    rintro x old y added rfl
    rw [mem_newlyReached_iff] at added
    exact added.2 old

/-- What holds of the known items, and of all that an item leads to of which it holds, holds of all
that is reached. -/
theorem saturate_induction {P : α → Prop} {rounds : Nat} {known : List α}
    (start : ∀ x ∈ known, P x) (step : ∀ x, P x → ∀ y ∈ next x, P y) :
    ∀ x ∈ saturate next rounds known, P x := by
  induction rounds generalizing known with
  | zero => exact start
  | succ rounds ih =>
    rw [saturate_succ]
    refine ih fun y hy => ?_
    rcases List.mem_append.mp hy with old | added
    · exact start y old
    · rw [mem_newlyReached_iff] at added
      obtain ⟨⟨x, hx, hxy⟩, -⟩ := added
      exact step x (start x hx) y hxy

/-- Every round that adds something leaves fewer items of the domain to add, so that enough rounds
reach everything. -/
theorem saturate_closed {domain : List α} (inside : ∀ x, ∀ y ∈ next x, y ∈ domain) {rounds : Nat}
    {known : List α} (enough : (domain.filter fun y => !known.contains y).length ≤ rounds) :
    ∀ x ∈ saturate next rounds known, ∀ y ∈ next x, y ∈ saturate next rounds known := by
  induction rounds generalizing known with
  | zero =>
    intro x _ y hy
    have none_left := List.eq_nil_of_length_eq_zero (Nat.le_zero.mp enough)
    have := List.filter_eq_nil_iff.mp none_left y (inside x y hy)
    show y ∈ known
    simpa using this
  | succ rounds ih =>
    by_cases nothing : newlyReached next known = []
    · rw [saturate_eq_self nothing]
      intro x hx y hy
      by_cases old : y ∈ known
      · exact old
      · have : y ∈ newlyReached next known := by
          rw [mem_newlyReached_iff]
          exact ⟨⟨x, hx, hy⟩, old⟩
        rw [nothing] at this
        exact absurd this List.not_mem_nil
    · rw [saturate_succ]
      refine ih ?_
      obtain ⟨y, hy⟩ := List.exists_mem_of_ne_nil _ nothing
      have fromKnown := hy
      rw [mem_newlyReached_iff] at fromKnown
      obtain ⟨⟨x, _, hxy⟩, fresh⟩ := fromKnown
      have fewer : (domain.filter fun z => !(known ++ newlyReached next known).contains z).length
          < (domain.filter fun z => !known.contains z).length := by
        refine length_filter_lt (fun z hz => ?_) ?_ ?_ (inside x y hxy)
        · simp only [Bool.not_eq_true', List.contains_eq_mem, decide_eq_false_iff_not,
            List.mem_append, not_or] at hz ⊢
          exact hz.1
        · simpa using fresh
        · simpa using fun _ => hy
      omega

end

end ModelSchema
