import ModelSchema.Class.Enumeration

/-!
The values of the members of enumerations.

* `Value.isMade`: members, one inside the other, have values that their mixins make.
* `EnumInfo.IsMade`: so it is of all that an enumeration consists of.
* `ClassTable.isMade_addMember`: adding a member keeps that.
* `ClassTable.isMade_of_declared`: the members of every enumeration that is declared are made.
-/

namespace ModelSchema

/-- Whether a mixin makes values of the kind of a value. -/
def Mixin.fits : Mixin → Value → Bool
  | .none, _ | .flag, _ | .str, .str _ | .int, .int _ | .intFlag, .int _ | .float, .float _ => true
  | _, _ => false

/-- Whether members, one inside the other, have values that their mixins make. -/
def Value.isMade : Value → Bool
  | .member _ mixin _ value => mixin.fits value && value.isMade
  | _ => true

/-- Whether a mixin makes the values of all members, the ones that iteration does not meet too. -/
structure EnumInfo.IsMade (info : EnumInfo) : Prop where
  members : ∀ m ∈ info.members, info.mixin.fits m.value = true ∧ m.value.isMade = true
  names : ∀ entry ∈ info.names,
    info.mixin.fits entry.2.value = true ∧ entry.2.value.isMade = true

theorem exists_of_map_eq_ok {α β ε : Type} {x : Except ε α} {f : α → β} {b : β}
    (mapped : x.map f = .ok b) : ∃ a, x = .ok a ∧ f a = b := by
  cases x with
  | error reason => cases mapped
  | ok a => exact ⟨a, rfl, Except.ok.inj mapped⟩

namespace ClassTable

variable {table : ClassTable} {mixin : Mixin} {value made : Value} {info after : EnumInfo}

/-- A mixin makes values of its own kind. -/
theorem fits_mixedValue (mixed : table.mixedValue mixin value = .ok made) :
    mixin.fits made = true := by
  cases mixin with
  | none | flag => rfl
  | _ =>
    obtain ⟨_, -, rfl⟩ := exists_of_map_eq_ok mixed
    rfl

theorem isMade_mixedValue (isMade : value.isMade = true)
    (mixed : table.mixedValue mixin value = .ok made) : made.isMade = true := by
  cases mixin with
  | none | flag => exact Except.ok.inj mixed ▸ isMade
  | _ =>
    obtain ⟨_, -, rfl⟩ := exists_of_map_eq_ok mixed
    rfl

/-- A member that is added has a value that the mixin makes, whether its name is new or not. -/
theorem isMade_addMember {entry : String × Value} (isMade : info.IsMade)
    (value : entry.2.isMade = true) (added : table.addMember info entry = .ok after) :
    after.IsMade ∧ after.mixin = info.mixin := by
  have withName : ∀ {name : String} {m : EnumMember},
      info.mixin.fits m.value = true ∧ m.value.isMade = true →
      ∀ entry ∈ info.names ++ [(name, m)],
        info.mixin.fits entry.2.value = true ∧ entry.2.value.isMade = true :=
    fun new => List.forall_mem_append.mpr ⟨isMade.names, List.forall_mem_singleton.mpr new⟩
  unfold addMember at added
  cases mixed : table.mixedValue info.mixin entry.2 with
  | error fault => simp [mixed, Bind.bind, Except.bind] at added
  | ok made =>
    simp only [mixed, Bind.bind, Except.bind, pure, Except.pure] at added
    have fresh := And.intro (fits_mixedValue mixed) (isMade_mixedValue value mixed)
    split at added
    next m found =>
      cases added
      obtain ⟨other, member⟩ : ∃ other, (other, m) ∈ info.names :=
        ⟨_, List.mem_of_find?_eq_some found⟩
      exact ⟨⟨isMade.members, withName (isMade.names _ member)⟩, rfl⟩
    next =>
      split at added
      · cases added
      next iterated _ =>
        cases added
        refine ⟨⟨?_, withName fresh⟩, rfl⟩
        cases iterated with
        | true =>
          exact List.forall_mem_append.mpr
            ⟨isMade.members, List.forall_mem_singleton.mpr fresh⟩
        | false => exact isMade.members

/-- What every step of a loop keeps holds at its end. -/
theorem holds_of_foldlM {α β ε : Type} {f : β → α → Except ε β} {list : List α}
    {start last : β} (holds : β → Prop)
    (step : ∀ a ∈ list, ∀ b next, holds b → f b a = .ok next → holds next) (starts : holds start)
    (done : list.foldlM f start = .ok last) : holds last := by
  induction list generalizing start with
  | nil => exact Except.ok.inj done ▸ starts
  | cons a rest ih =>
    rw [List.foldlM_cons] at done
    cases first : f start a with
    | error reason => simp [first, Bind.bind, Except.bind] at done
    | ok next =>
      rw [first] at done
      exact ih (fun a member => step a (List.mem_cons_of_mem _ member))
        (step a List.mem_cons_self start next starts first) done

/-- Entries that are members are among the entries that are given. -/
theorem mem_of_memberEntries {owner : String} {entries members : List (String × Value)}
    (found : memberEntries table owner entries = .ok members) :
    ∀ entry ∈ members, entry ∈ entries := by
  unfold memberEntries at found
  simp only [Bind.bind, Except.bind, pure, Except.pure] at found
  split at found
  · cases found
  next all collected =>
    split at found
    · cases found
      refine holds_of_foldlM (fun members => ∀ entry ∈ members, entry ∈ entries)
        (fun entry given kept next inside made => ?_) (by simp) collected
      have added : ∀ other ∈ kept ++ [entry], other ∈ entries :=
        List.forall_mem_append.mpr ⟨inside, List.forall_mem_singleton.mpr given⟩
      repeat' split at made
      all_goals cases made
      all_goals first
        | exact inside
        | exact added
    · cases found

/-- The members of a class that consists of values that its mixin makes, with or without a name that
iteration does not meet. -/
theorem isMade_member {c : ClassRef} {member : Value} (isMade : info.IsMade)
    (found : table.enumeration? c = some info)
    (named : member ∈ table.members c ∨ ∃ name, table.member? c name = some member) :
    member.isMade = true := by
  rcases named with iterated | ⟨name, named⟩
  · have all : table.members c = info.members.map (memberValue c info.mixin) := by
      rw [members, found]
    obtain ⟨m, inside, rfl⟩ := List.mem_map.mp (all ▸ iterated)
    exact Bool.and_eq_true_iff.mpr (isMade.members m inside)
  · unfold member? at named
    rw [found, Option.bind_some] at named
    obtain ⟨entry, first, rfl⟩ := Option.map_eq_some_iff.mp named
    exact Bool.and_eq_true_iff.mpr (isMade.names entry (List.mem_of_find?_eq_some first))

/-- So a mixin makes the values of all members of an enumeration that is declared. -/
theorem isMade_of_declared {id : String} {className : ClassName}
    {entries : List (String × Value)} {declared : ClassTable × ClassRef}
    (isMade : ∀ entry ∈ entries, entry.2.isMade = true)
    (found : table.declareEnumeration id className mixin entries = .ok declared) :
    ∃ info, declared.1.enumeration? declared.2 = some info ∧ info.IsMade := by
  unfold declareEnumeration at found
  simp only [Bind.bind, Except.bind, pure, Except.pure] at found
  split at found
  · cases found
  split at found
  · cases found
  next members read =>
    split at found
    · cases found
    next info added =>
      cases found
      refine ⟨info, by simp [enumeration?, info?, addClass], ?_⟩
      refine holds_of_foldlM EnumInfo.IsMade (fun entry member info after kept step => ?_)
        ⟨by simp, by simp⟩ added
      exact (isMade_addMember kept (isMade entry (mem_of_memberEntries read entry member)) step).1

end ClassTable

end ModelSchema
