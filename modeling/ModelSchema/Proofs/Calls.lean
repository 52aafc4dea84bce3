/-!
Runs of calls that make further calls.

What a recursive procedure does is told call by call: how a call changes the state, and which calls it
makes. A run makes the pending calls in turn, those that a call makes before all others, until none is
left or one fails. Nothing bounds how long it takes.

* `Runs`: the runs, with the calls that are made.
* `Runs.unique`: there is at most one.
* `ends_of_wellFounded`: there is one, where every call lowers a level of the state or makes only calls
  below itself.
* `Runs.nodup`: what is marked in the state when it is called for is called once.
-/

namespace ModelSchema

section

variable {State Call Reason : Type} {next : State → Call → Except Reason (State × List Call)}

/-- `Runs next state pending made final outcome`: from `state`, the calls `made` are made one after the
other. Either no pending call is left then, or the last one that was made has failed. -/
inductive Runs (next : State → Call → Except Reason (State × List Call)) :
    State → List Call → List Call → State → Option Reason → Prop where
  | done {state : State} : Runs next state [] [] state none
  | fails {state : State} {call : Call} {rest : List Call} {reason : Reason} :
      next state call = .error reason → Runs next state (call :: rest) [call] state (some reason)
  | makes {state after final : State} {call : Call} {inner rest made : List Call}
      {outcome : Option Reason} : next state call = .ok (after, inner) →
      Runs next after (inner ++ rest) made final outcome →
      Runs next state (call :: rest) (call :: made) final outcome

/-- Whether the calls that are pending in a state come to an end. -/
def Ends (next : State → Call → Except Reason (State × List Call)) (state : State)
    (pending : List Call) : Prop :=
  ∃ made final outcome, Runs next state pending made final outcome

variable {state final : State} {pending made : List Call} {outcome : Option Reason}

theorem Runs.unique (run : Runs next state pending made final outcome) {madeElse : List Call}
    {finalElse : State} {outcomeElse : Option Reason}
    (runElse : Runs next state pending madeElse finalElse outcomeElse) :
    made = madeElse ∧ final = finalElse ∧ outcome = outcomeElse := by
  induction run generalizing madeElse with
  | done =>
    cases runElse
    exact ⟨rfl, rfl, rfl⟩
  | fails failed =>
    cases runElse with
    | fails again =>
      cases failed.symm.trans again
      exact ⟨rfl, rfl, rfl⟩
    | makes again => cases failed.symm.trans again
  | makes isCall _ ih =>
    cases runElse with
    | fails again => cases isCall.symm.trans again
    | makes again rest =>
      cases isCall.symm.trans again
      obtain ⟨rfl, rfl, rfl⟩ := ih rest
      exact ⟨rfl, rfl, rfl⟩

/-! ### Runs end -/

section

variable (next) (level : State → Nat) (Known : Call → Prop)

/-- Whether a call ends at all levels up to `most` in front of known calls that do. -/
def EndsInFront (most : Nat) (call : Call) : Prop :=
  ∀ (here : State) (rest : List Call), level here ≤ most → (∀ later ∈ rest, Known later) →
    (∀ there, level there ≤ most → Ends next there rest) → Ends next here (call :: rest)

end

variable {level : State → Nat} {Known : Call → Prop} {below : Call → Call → Prop}

/-- So do several calls of this kind, one after the other. -/
theorem ends_append {most : Nat} {calls rest : List Call} (known : ∀ call ∈ calls, Known call)
    (inFront : ∀ call ∈ calls, EndsInFront next level Known most call)
    (knownRest : ∀ call ∈ rest, Known call)
    (ends : ∀ there, level there ≤ most → Ends next there rest) :
    ∀ here, level here ≤ most → Ends next here (calls ++ rest) := by
  induction calls with
  | nil => exact ends
  | cons first more ih =>
    intro here atMost
    obtain ⟨-, knownMore⟩ := List.forall_mem_cons.mp known
    obtain ⟨firstInFront, moreInFront⟩ := List.forall_mem_cons.mp inFront
    refine firstInFront here (more ++ rest) atMost (fun call member => ?_) (ih knownMore moreInFront)
    exact (List.mem_append.mp member).elim (knownMore call) (knownRest call)

/-- Calls come to an end where every call lowers the level of the state, or keeps it and makes only
calls below itself. -/
theorem ends_of_wellFounded (level : State → Nat) (wellFounded : WellFounded below)
    (progress : ∀ state call after inner, Known call → next state call = .ok (after, inner) →
      (∀ made ∈ inner, Known made)
        ∧ (level after < level state ∨ (level after ≤ level state ∧ ∀ made ∈ inner, below made call)))
    (known : ∀ call ∈ pending, Known call) : Ends next state pending := by
  generalize atLevel : level state = n
  induction n using Nat.strongRecOn generalizing state pending with
  | ind n lower =>
  have inFront : ∀ call, Known call → EndsInFront next level Known n call := by
    intro call
    induction call using wellFounded.induction with
    | _ call ih =>
    intro isKnown here rest notAbove knownRest ends
    cases isCall : next here call with
    | error reason => exact ⟨_, _, _, .fails isCall⟩
    | ok result =>
      obtain ⟨after, inner⟩ := result
      obtain ⟨knownInner, less⟩ := progress here call after inner isKnown isCall
      have innerEnds : Ends next after (inner ++ rest) := by
        rcases less with less | ⟨same, less⟩
        · refine lower _ (Nat.lt_of_lt_of_le less notAbove) (fun call member => ?_) rfl
          exact (List.mem_append.mp member).elim (knownInner call) (knownRest call)
        · exact ends_append knownInner
            (fun made member => ih made (less made member) (knownInner made member)) knownRest ends
            after (Nat.le_trans same notAbove)
      obtain ⟨made, final, outcome, run⟩ := innerEnds
      exact ⟨_, _, _, .makes isCall run⟩
  rw [← List.append_nil pending]
  exact ends_append known (fun call member => inFront call (known call member))
    (fun _ member => absurd member List.not_mem_nil) (fun there _ => ⟨_, _, _, .done⟩) state
    (Nat.le_of_eq atLevel)

/-! ### Calls that are made once -/

/-- What calls are for is called for once, when it is marked in the state as soon as it is called for,
and is not called for again while it is marked. -/
theorem Runs.nodup {α : Type} (mark : Call → Option α) (marked : State → α → Prop)
    (run : Runs next state pending made final outcome)
    (kept : ∀ state call after inner, next state call = .ok (after, inner) →
      ∀ a, marked state a → marked after a)
    (fresh : ∀ state call after inner, next state call = .ok (after, inner) →
      (inner.filterMap mark).Nodup ∧ ∀ a ∈ inner.filterMap mark, ¬ marked state a ∧ marked after a)
    (once : (pending.filterMap mark).Nodup)
    (isMarked : ∀ a ∈ pending.filterMap mark, marked state a) :
    (made.filterMap mark).Nodup
      ∧ ∀ a ∈ made.filterMap mark, a ∈ pending.filterMap mark ∨ ¬ marked state a := by
  induction run with
  | done => exact ⟨List.nodup_nil, fun _ member => absurd member List.not_mem_nil⟩
  | @fails state call rest reason failed =>
    have first : List.Sublist [call] (call :: rest) := List.singleton_sublist.mpr List.mem_cons_self
    exact ⟨once.sublist (first.filterMap mark), fun a member => .inl ((first.filterMap mark).subset member)⟩
  | @makes state after final call inner rest made outcome isCall _ ih =>
    obtain ⟨onceInner, new⟩ := fresh _ _ _ _ isCall
    have before : ∀ a ∈ rest.filterMap mark, marked state a := by
      intro a member
      refine isMarked a ?_
      rw [List.filterMap_cons]
      split
      · exact member
      · exact List.mem_cons_of_mem _ member
    have onceRest : (rest.filterMap mark).Nodup :=
      once.sublist ((List.sublist_cons_self call rest).filterMap mark)
    have both : (inner ++ rest).filterMap mark = inner.filterMap mark ++ rest.filterMap mark :=
      List.filterMap_append
    obtain ⟨onceMade, origin⟩ := ih
      (by
        rw [both, List.nodup_append]
        exact ⟨onceInner, onceRest, fun a here b there same => (new a here).1 (same ▸ before b there)⟩)
      (by
        intro a member
        rw [both] at member
        exact (List.mem_append.mp member).elim (fun here => (new a here).2)
          (fun there => kept _ _ _ _ isCall a (before a there)))
    have origin : ∀ a ∈ made.filterMap mark, a ∈ rest.filterMap mark ∨ ¬ marked state a := by
      intro a member
      rcases origin a member with inside | unmarked
      · rw [both] at inside
        exact (List.mem_append.mp inside).symm.imp_right fun here => (new a here).1
      · exact .inr fun already => unmarked (kept _ _ _ _ isCall a already)
    rw [List.filterMap_cons, List.filterMap_cons] at *
    cases isFor : mark call with
    | none =>
      rw [isFor] at once isMarked
      exact ⟨onceMade, origin⟩
    | some b =>
      rw [isFor] at once isMarked
      refine ⟨List.nodup_cons.mpr ⟨fun again => ?_, onceMade⟩, ?_⟩
      · rcases origin b again with later | unmarked
        · exact (List.nodup_cons.mp once).1 later
        · exact unmarked (isMarked b List.mem_cons_self)
      · intro a member
        rcases List.mem_cons.mp member with rfl | later
        · exact .inl List.mem_cons_self
        · exact (origin a later).imp_left (List.mem_cons_of_mem _)

end

end ModelSchema
