import ModelSchema.Validation.Applicator

/-!
Checks that settle.

A check is made at some depth, and it is given up where it would go deeper. `Settles` says that a
check comes to one answer: at every depth it gives that answer or is given up, and from some depth
on it is not given up. `Resolves` says the same of what can fail otherwise.

* `Settles.each`: checks one behind the other settle for the conjunction of their answers.
* `Settles.isClean`, `Settles.all`: whoever asks a check that settles gets its answer.
* `resolves_firstFitting`, `resolves_filterM`: asking the checks of a list.
-/

namespace ModelSchema

/-! ### Results -/

/-- A result that is the same at all depths, unless it is given up. -/
structure Resolves {α : Type} (result : Nat → Except Fault α) (a : α) : Prop where
  answers : ∀ depth, result depth = .ok a ∨ result depth = .error .endless
  eventually : ∃ enough, ∀ depth, enough ≤ depth → result depth = .ok a

namespace Resolves

variable {α β : Type} {result : Nat → Except Fault α} {a : α}

theorem ok (a : α) : Resolves (fun _ => .ok a) a :=
  ⟨fun _ => .inl rfl, 0, fun _ _ => rfl⟩

theorem bind {next : Nat → α → Except Fault β} {b : β} (first : Resolves result a)
    (second : Resolves (fun depth => next depth a) b) :
    Resolves (fun depth => result depth >>= next depth) b := by
  constructor
  · intro depth
    rcases first.answers depth with here | here
    · rw [here]
      exact second.answers depth
    · rw [here]
      exact .inr rfl
  · obtain ⟨enough, here⟩ := first.eventually
    obtain ⟨more, there⟩ := second.eventually
    refine ⟨max enough more, fun depth deep => ?_⟩
    rw [here depth (Nat.le_trans (Nat.le_max_left ..) deep)]
    exact there depth (Nat.le_trans (Nat.le_max_right ..) deep)

theorem map {f : α → β} (first : Resolves result a) :
    Resolves (fun depth => (result depth).map f) (f a) := by
  constructor
  · intro depth
    rcases first.answers depth with here | here
    · exact .inl (by rw [here]; rfl)
    · exact .inr (by rw [here]; rfl)
  · obtain ⟨enough, here⟩ := first.eventually
    refine ⟨enough, fun depth deep => ?_⟩
    rw [here depth deep]
    rfl

end Resolves

/-! ### Checks -/

/-- Whether a check gives an answer to the question whether a value is valid, or is given up. One
that is given up finds nothing wrong with a valid value before. -/
def Checked.Answers (valid : Bool) (check : Checked) : Prop :=
  (check.fault = none ∧ check.found.isEmpty = valid)
    ∨ (check.fault = some .endless ∧ (valid = true → check.found = []))

/-- A check that gives the same answer at all depths, unless it is given up. -/
structure Settles (check : Nat → Checked) (valid : Bool) : Prop where
  answers : ∀ depth, (check depth).Answers valid
  eventually : ∃ enough, ∀ depth, enough ≤ depth → (check depth).fault = none

namespace Checked

theorem Answers.andThen {check : Checked} {next : Unit → Checked} {valid validNext : Bool}
    (first : check.Answers valid) (second : (next ()).Answers validNext) :
    (check.andThen next).Answers (valid && validNext) := by
  unfold Checked.andThen
  rcases first with ⟨noFault, rfl⟩ | ⟨endless, clean⟩
  · rw [noFault]
    dsimp only
    rcases second with ⟨noFault, rfl⟩ | ⟨endless, clean⟩
    · exact .inl ⟨noFault, by cases check.found <;> rfl⟩
    · refine .inr ⟨endless, fun both => ?_⟩
      obtain ⟨empty, isValid⟩ := (Bool.and_eq_true ..).mp both
      rw [clean isValid, List.isEmpty_iff.mp empty]
      rfl
  · rw [endless]
    exact .inr ⟨endless, fun both => clean ((Bool.and_eq_true ..).mp both).1⟩

theorem Answers.within {check : Checked} {valid : Bool} {part : PathPart}
    (answers : check.Answers valid) : (check.within part).Answers valid := by
  rcases answers with ⟨noFault, rfl⟩ | ⟨endless, clean⟩
  · exact .inl ⟨noFault, List.isEmpty_map⟩
  · refine .inr ⟨endless, fun isValid => ?_⟩
    unfold Checked.within
    dsimp only
    rw [clean isValid]
    rfl

/-- Whoever asks whether there is a violation gets the answer, unless the check is given up. -/
theorem Answers.isClean {check : Checked} {valid : Bool} (answers : check.Answers valid) :
    check.isClean = .ok valid ∨ check.isClean = .error .endless := by
  unfold Checked.isClean Checked.all
  rcases answers with ⟨noFault, rfl⟩ | ⟨endless, clean⟩
  · rw [noFault]
    cases check.found.isEmpty
    · exact .inl rfl
    · exact .inl rfl
  · rw [endless]
    cases empty : check.found.isEmpty with
    | true => exact .inr rfl
    | false =>
      cases valid with
      | false => exact .inl rfl
      | true =>
        rw [clean rfl] at empty
        cases empty

theorem isClean_of_fault {check : Checked} (noFault : check.fault = none) :
    check.isClean = .ok check.found.isEmpty := by
  unfold isClean all
  rw [noFault]
  cases check.found.isEmpty <;> rfl

end Checked

namespace Settles

variable {check other : Nat → Checked} {valid validElse : Bool}

/-- A check settles for one answer only. -/
theorem unique (settles : Settles check valid) (settlesElse : Settles check validElse) :
    valid = validElse := by
  obtain ⟨enough, noFault⟩ := settles.eventually
  have fault : (check enough).fault ≠ some .endless := by simp [noFault enough (Nat.le_refl enough)]
  have here := ((settles.answers enough).resolve_right fun given => fault given.1).2
  have there := ((settlesElse.answers enough).resolve_right fun given => fault given.1).2
  exact here.symm.trans there

end Settles

open Classical in
/-- The answer that a check settles for. -/
noncomputable def settled (check : Nat → Checked) : Bool := decide (Settles check true)

open Classical in
theorem Settles.settled_eq {check : Nat → Checked} {valid : Bool} (settles : Settles check valid) :
    settled check = valid := by
  unfold settled
  cases valid with
  | true => exact decide_eq_true settles
  | false => exact decide_eq_false fun admits => nomatch settles.unique admits

namespace Settles

variable {check other : Nat → Checked} {valid validElse : Bool}

theorem clean : Settles (fun _ => .clean) true :=
  ⟨fun _ => .inl ⟨rfl, rfl⟩, 0, fun _ _ => rfl⟩

theorem one (problem : Problem) : Settles (fun _ => .one problem) false :=
  ⟨fun _ => .inl ⟨rfl, rfl⟩, 0, fun _ _ => rfl⟩

theorem oneIf (condition : Bool) (problem : Problem) :
    Settles (fun _ => .oneIf condition problem) (!condition) := by
  cases condition with
  | true => exact one problem
  | false => exact clean

/-- A check that reports a problem unless a condition holds. -/
theorem reporting {condition : Bool} (problem : Problem)
    (same : ∀ depth, check depth = .oneIf (!condition) problem) : Settles check condition := by
  have settles := oneIf (!condition) problem
  rw [Bool.not_not] at settles
  rwa [funext same]

theorem always (same : ∀ depth, check depth = .clean) : Settles check true := by
  rw [funext same]
  exact clean

/-- Nothing is settled at depth zero, and then it goes one step down. -/
theorem succ (settles : Settles other valid) (zero : check 0 = .failed .endless)
    (succ : ∀ depth, check (depth + 1) = other depth) : Settles check valid := by
  constructor
  · intro depth
    cases depth with
    | zero => exact zero ▸ .inr ⟨rfl, fun _ => rfl⟩
    | succ depth => exact succ depth ▸ settles.answers depth
  · obtain ⟨enough, noFault⟩ := settles.eventually
    refine ⟨enough + 1, fun depth deep => ?_⟩
    cases depth with
    | zero => exact absurd deep (Nat.not_succ_le_zero enough)
    | succ depth => exact succ depth ▸ noFault depth (Nat.le_of_succ_le_succ deep)

theorem andThen {next : Nat → Unit → Checked} (first : Settles check valid)
    (second : Settles (fun depth => next depth ()) validElse) :
    Settles (fun depth => (check depth).andThen (next depth)) (valid && validElse) := by
  refine ⟨fun depth => (first.answers depth).andThen (second.answers depth), ?_⟩
  obtain ⟨enough, noFault⟩ := first.eventually
  obtain ⟨more, noFaultElse⟩ := second.eventually
  refine ⟨max enough more, fun depth deep => ?_⟩
  have here := noFault depth (Nat.le_trans (Nat.le_max_left ..) deep)
  have there := noFaultElse depth (Nat.le_trans (Nat.le_max_right ..) deep)
  unfold Checked.andThen
  rw [here]
  exact there

theorem within {part : PathPart} (settles : Settles check valid) :
    Settles (fun depth => (check depth).within part) valid :=
  ⟨fun depth => (settles.answers depth).within, settles.eventually⟩

theorem after {α : Type} {result : Nat → Except Fault α} {a : α} {next : Nat → α → Checked}
    (resolves : Resolves result a) (settles : Settles (fun depth => next depth a) valid) :
    Settles (fun depth => .after (result depth) (next depth)) valid := by
  constructor
  · intro depth
    rcases resolves.answers depth with here | here
    · rw [here]
      exact settles.answers depth
    · rw [here]
      exact .inr ⟨rfl, fun _ => rfl⟩
  · obtain ⟨enough, here⟩ := resolves.eventually
    obtain ⟨more, noFault⟩ := settles.eventually
    refine ⟨max enough more, fun depth deep => ?_⟩
    rw [here depth (Nat.le_trans (Nat.le_max_left ..) deep)]
    exact noFault depth (Nat.le_trans (Nat.le_max_right ..) deep)

/-- Checks one behind the other settle for the conjunction of their answers. -/
theorem each {α : Type} {check : Nat → α → Checked} {valid : α → Bool} :
    ∀ {list : List α}, (∀ a ∈ list, Settles (fun depth => check depth a) (valid a)) →
      Settles (fun depth => Checked.each (check depth) list) (list.all valid)
  | [], _ => clean
  | a :: rest, settles => by
    rw [List.all_cons]
    exact (settles a List.mem_cons_self).andThen
      (each fun b member => settles b (List.mem_cons_of_mem a member))

/-! ### Asking checks -/

theorem isClean (settles : Settles check valid) :
    Resolves (fun depth => (check depth).isClean) valid := by
  refine ⟨fun depth => (settles.answers depth).isClean, ?_⟩
  obtain ⟨enough, noFault⟩ := settles.eventually
  refine ⟨enough, fun depth deep => ?_⟩
  rcases settles.answers depth with ⟨-, rfl⟩ | ⟨endless, -⟩
  · exact Checked.isClean_of_fault (noFault depth deep)
  · rw [noFault depth deep] at endless
    cases endless

/-- Collecting all violations tells whether there are any. -/
theorem all {α : Type} {next : Nat → List Violation → Except Fault α} {a : α}
    (settles : Settles check valid)
    (resolves : ∀ found : Nat → List Violation, (∀ depth, (found depth).isEmpty = valid) →
      Resolves (fun depth => next depth (found depth)) a) :
    Resolves (fun depth => (check depth).all >>= next depth) a := by
  obtain ⟨some, isEmpty⟩ : ∃ found : List Violation, found.isEmpty = valid := by
    cases valid with
    | true => exact ⟨[], rfl⟩
    | false => exact ⟨[.here (.forbidden .null)], rfl⟩
  -- where the check is given up, any violations with the right answer will do
  have result := resolves
    (fun depth => if (check depth).fault = none then (check depth).found else some) fun depth => by
      split
      next noFault =>
        rcases settles.answers depth with ⟨-, answer⟩ | ⟨endless, -⟩
        · exact answer
        · rw [noFault] at endless
          cases endless
      next => exact isEmpty
  have given : ∀ depth, (check depth).fault = none → ((check depth).all >>= next depth)
      = next depth (if (check depth).fault = none then (check depth).found else some) := by
    intro depth noFault
    unfold Checked.all
    rw [if_pos noFault, noFault]
    rfl
  constructor
  · intro depth
    rcases settles.answers depth with ⟨noFault, -⟩ | ⟨endless, -⟩
    · rw [given depth noFault]
      exact result.answers depth
    · refine .inr ?_
      unfold Checked.all
      rw [endless]
      rfl
  · obtain ⟨enough, noFault⟩ := settles.eventually
    obtain ⟨more, here⟩ := result.eventually
    refine ⟨max enough more, fun depth deep => ?_⟩
    rw [given depth (noFault depth (Nat.le_trans (Nat.le_max_left ..) deep))]
    exact here depth (Nat.le_trans (Nat.le_max_right ..) deep)

end Settles

/-! ### Asking the checks of a list -/

section

variable {α : Type} {valid : α → Bool}

theorem resolves_filterAuxM {test : Nat → α → Except Fault Bool} :
    ∀ {list : List α} {kept : List α},
      (∀ a ∈ list, Resolves (fun depth => test depth a) (valid a)) →
      Resolves (fun depth => list.filterAuxM (test depth) kept)
        ((list.filter valid).reverse ++ kept)
  | [], kept, _ => .ok kept
  | a :: rest, kept, resolves => by
    have later : Resolves
        (fun depth => rest.filterAuxM (test depth) (cond (valid a) (a :: kept) kept))
        ((rest.filter valid).reverse ++ cond (valid a) (a :: kept) kept) :=
      resolves_filterAuxM fun b member => resolves b (List.mem_cons_of_mem a member)
    have same : (rest.filter valid).reverse ++ cond (valid a) (a :: kept) kept
        = ((a :: rest).filter valid).reverse ++ kept := by
      rw [List.filter_cons]
      cases valid a <;> simp
    exact (resolves a List.mem_cons_self).bind (same ▸ later)

/-- The members of a list that checks admit. -/
theorem resolves_filterM {test : Nat → α → Except Fault Bool} {list : List α}
    (resolves : ∀ a ∈ list, Resolves (fun depth => test depth a) (valid a)) :
    Resolves (fun depth => list.filterM (test depth)) (list.filter valid) := by
  have collected : Resolves (fun depth => list.filterAuxM (test depth) [])
      ((list.filter valid).reverse ++ []) := resolves_filterAuxM resolves
  have same : ((list.filter valid).reverse ++ []).reverse = list.filter valid := by
    rw [List.append_nil, List.reverse_reverse]
  refine collected.bind ?_
  rw [same]
  exact .ok _

theorem filterM_ok {test : α → Except Fault Bool} {list : List α}
    (same : ∀ a ∈ list, test a = .ok (valid a)) : list.filterM test = .ok (list.filter valid) := by
  have resolves : Resolves (fun _ => list.filterM test) (list.filter valid) :=
    resolves_filterM fun a member =>
      ⟨fun _ => .inl (same a member), 0, fun _ _ => same a member⟩
  obtain ⟨enough, result⟩ := resolves.eventually
  exact result enough (Nat.le_refl enough)

end

/-- The first of some schemas that admits a value, with those behind it. -/
def firstValid (valid : Value → Bool) : List Value → Option (Value × List Value)
  | [] => none
  | schema :: rest => if valid schema then some (schema, rest) else firstValid valid rest

theorem resolves_firstFitting {scope : Nat → KeywordScope} {value : Value}
    {valid : Value → Bool} :
    ∀ {schemas : List Value},
      (∀ schema ∈ schemas, Settles (fun depth => (scope depth).below schema value) (valid schema)) →
      Resolves (fun depth => Applicator.firstFitting (scope depth) value schemas)
        (firstValid valid schemas)
  | [], _ => .ok none
  | schema :: rest, settles => by
    have later : Resolves (fun depth => Applicator.firstFitting (scope depth) value rest)
        (firstValid valid rest) :=
      resolves_firstFitting fun other member => settles other (List.mem_cons_of_mem schema member)
    unfold Applicator.firstFitting firstValid
    refine (settles schema List.mem_cons_self).all fun found isEmpty => ?_
    simp only [isEmpty]
    cases valid schema with
    | true => exact .ok _
    | false => exact later

end ModelSchema
