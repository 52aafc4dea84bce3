import ModelSchema.Class.Parametrised
import ModelSchema.Proofs.Class.Declarations

/-!
Parametrised models among the classes.

Giving arguments to a generic model adds classes behind those that are there, with the generic model as their
only base. Of the classes that are there none changes its place in the hierarchy. So this is one more way to
declare classes, and all that holds of declared classes holds of parametrised models.

* `Declaring.GrowsIn`: a step that leads from a table in layers to tables that extend it.
* `Ty.grows_substitute`: replacing type variables is such a step when giving arguments is.
* `ClassTable.extends_parametrise`: giving arguments is.
-/

namespace ModelSchema

namespace ClassTable

variable {table later last : ClassTable}

theorem Extends.refl (layered : table.Layered) : table.Extends table := ⟨fun _ _ => rfl, layered⟩

theorem Extends.mem_allClasses (grown : table.Extends later) (layered : table.Layered) {c : ClassRef}
    (known : c ∈ table.allClasses) : c ∈ later.allClasses := by
  have own := layered.mem_ancestors_self known
  rw [← grown.ancestors c known] at own
  exact mem_allClasses_of_mem_ancestors own

theorem Extends.trans (first : table.Extends later) (layered : table.Layered)
    (second : later.Extends last) : table.Extends last :=
  ⟨fun c known =>
    (second.ancestors c (first.mem_allClasses layered known)).trans (first.ancestors c known),
    second.layered⟩

/-- The place of a class in the hierarchy: its bases and its ancestors. -/
def place? (table : ClassTable) (i : Nat) : Option (List ClassRef × List ClassRef) :=
  (table.classes[i]?).map fun info => (info.bases, info.ancestors)

/-- A table in which the same classes have the same places. -/
theorem extends_of_samePlaces (layered : table.Layered) (same : ∀ i, later.place? i = table.place? i) :
    table.Extends later := by
  have ancestors : ∀ c, later.ancestors c = table.ancestors c := by
    intro c
    cases c with
    | basic b => rfl
    | declared i =>
      have here := same i
      unfold place? at here
      unfold ClassTable.ancestors
      cases found : later.classes[i]? <;> cases foundBefore : table.classes[i]? <;> simp_all
  have before : ∀ {i : Nat} {info : ClassInfo}, later.classes[i]? = some info →
      ∃ old, table.classes[i]? = some old ∧ old.bases = info.bases ∧ old.ancestors = info.ancestors := by
    intro i info found
    have here := same i
    unfold place? at here
    rw [found] at here
    obtain ⟨old, isOld, both⟩ := Option.map_eq_some_iff.mp here.symm
    exact ⟨old, isOld, congrArg Prod.fst both, congrArg Prod.snd both⟩
  refine ⟨fun c _ => ancestors c, ?_, ?_, ?_⟩
  · intro i info found j member
    obtain ⟨old, isOld, bases, -⟩ := before found
    exact layered.base_earlier isOld (bases ▸ member)
  · intro i info found
    obtain ⟨old, isOld, -, above⟩ := before found
    exact above ▸ layered.ancestors_head isOld
  · intro i info found c
    obtain ⟨old, isOld, bases, above⟩ := before found
    rw [← above, ← bases, layered.mem_ancestors isOld]
    simp only [ancestors]

/-- Setting the fields of a model leaves all classes in their places. -/
theorem extends_setFields (layered : table.Layered) (c : ClassRef) (fields : List Field) :
    table.Extends (table.setFields c fields) := by
  refine extends_of_samePlaces layered fun i => ?_
  cases c with
  | basic b => rfl
  | declared index =>
    unfold place? setFields
    dsimp only
    rw [Array.getElem?_modify, apply_ite (Option.map _), Option.map_map]
    split
    · refine congrArg (fun f => Option.map f _) (funext fun info => ?_)
      dsimp only [Function.comp]
      split <;> rfl
    · rfl

/-- A parametrised model is a class behind the others, with its origin as the only base. -/
theorem extends_addParametrised (layered : table.Layered) {origin : ClassRef} {info : ModelInfo}
    (isModel : table.model? origin = some info) (arguments : List Ty) :
    table.Extends (table.addParametrised origin info arguments).1 := by
  have known : origin ∈ table.allClasses := by
    cases origin with
    | basic b => exact basic_mem_allClasses b
    | declared i =>
      refine declared_mem_allClasses.mpr (Nat.lt_of_not_le fun outside => ?_)
      have noInfo : table.info? (.declared i) = none := Array.getElem?_eq_none outside
      simp [model?, noInfo] at isModel
  refine extends_of_push rfl layered ?_ rfl ?_
  · simpa using known
  · simp

end ClassTable

/-! ### Steps that declare classes -/

namespace Declaring

variable {α β : Type} {table : ClassTable}

/-- Whether a step that is taken in a table in layers leads to a table that extends it, if it does not
fail. -/
def GrowsIn (table : ClassTable) (step : Declaring α) : Prop :=
  table.Layered → ∀ a later, step.run table = .ok (a, later) → table.Extends later

theorem growsIn_pure (a : α) : GrowsIn table (pure a) := by
  intro layered _ _ made
  cases made
  exact .refl layered

theorem GrowsIn.bind {first : Declaring α} {next : α → Declaring β} (grows : GrowsIn table first)
    (growsNext : ∀ a later, first.run table = .ok (a, later) → GrowsIn later (next a)) :
    GrowsIn table (first >>= next) := by
  intro layered b last made
  rw [StateT.run_bind] at made
  obtain ⟨⟨a, later⟩, here, made⟩ := exists_of_bind_eq_ok made
  have grown := grows layered a later here
  exact grown.trans layered (growsNext a later here grown.layered b last made)

theorem growsIn_get {next : ClassTable → Declaring β} (grows : GrowsIn table (next table)) :
    GrowsIn table (get >>= next) := grows

theorem growsIn_set {new : ClassTable} (grown : table.Layered → table.Extends new) :
    GrowsIn table (set new) := by
  intro layered _ _ made
  cases made
  exact grown layered

theorem growsIn_modify {change : ClassTable → ClassTable}
    (grown : table.Layered → table.Extends (change table)) : GrowsIn table (modify change) := by
  intro layered _ _ made
  cases made
  exact grown layered

theorem growsIn_mapM {step : α → Declaring β} {list : List α}
    (grows : ∀ a ∈ list, ∀ table, GrowsIn table (step a)) (table : ClassTable) :
    GrowsIn table (list.mapM step) := by
  induction list generalizing table with
  | nil => exact growsIn_pure _
  | cons a rest ih =>
    obtain ⟨first, others⟩ := List.forall_mem_cons.mp grows
    rw [List.mapM_cons]
    refine (first table).bind fun b later _ => (ih others later).bind fun bs last _ => growsIn_pure _

end Declaring

/-! ### Giving arguments -/

section

open Declaring

variable {parametrise : ClassRef → List Ty → Declaring ClassRef} {σ : Substitution}

mutual

/-- Replacing type variables declares classes only by giving arguments. -/
theorem Ty.grows_substitute (grows : ∀ c arguments table, GrowsIn table (parametrise c arguments)) :
    ∀ (t : Ty) (table : ClassTable), GrowsIn table (t.substitute parametrise σ)
  | .typeVar i, table => by
    rw [Ty.substitute]
    exact growsIn_pure _
  | .cls c, table => by
    rw [Ty.substitute]
    refine growsIn_get ?_
    dsimp only
    split
    · exact growsIn_pure _
    · exact (grows c _ table).bind fun _ later _ => growsIn_pure _
  | .array k t, table => by
    rw [Ty.substitute]
    exact (grows_substitute grows t table).bind fun _ later _ => growsIn_pure _
  | .tuple ts, table => by
    rw [Ty.substitute]
    exact (grows_substituteList grows ts table).bind fun _ later _ => growsIn_pure _
  | .map k a b, table => by
    rw [Ty.substitute]
    exact (grows_substitute grows a table).bind fun _ later _ =>
      (grows_substitute grows b later).bind fun _ last _ => growsIn_pure _
  | .union p ts, table => by
    rw [Ty.substitute]
    exact (grows_substituteList grows ts table).bind fun _ later _ => growsIn_pure _
  | .annotated t notes, table => by
    rw [Ty.substitute]
    exact (grows_substitute grows t table).bind fun _ later _ => growsIn_pure _
  | .unsupported k t, table => by
    rw [Ty.substitute]
    exact (grows_substitute grows t table).bind fun _ later _ => growsIn_pure _
  | .any, table | .none, table | .ellipsis, table | .forward _, table | .bareName _, table
  | .newType _, table | .bareArray _, table | .bareTuple, table | .bareMap _, table
  | .literal _, table => growsIn_pure _

theorem Ty.grows_substituteList
    (grows : ∀ c arguments table, GrowsIn table (parametrise c arguments)) :
    ∀ (ts : List Ty) (table : ClassTable), GrowsIn table (Ty.substituteList parametrise σ ts)
  | [], table => growsIn_pure _
  | t :: ts, table => by
    rw [Ty.substituteList]
    exact (grows_substitute grows t table).bind fun _ later _ =>
      (grows_substituteList grows ts later).bind fun _ last _ => growsIn_pure _

end

namespace ClassTable

/-- Making a parametrised model, when it is not there, and its fields. -/
theorem grows_made {c : ClassRef} {arguments : List Ty} {base : ModelInfo} {table : ClassTable}
    (grows : ∀ c arguments table, GrowsIn table (parametrise c arguments))
    (isModel : table.model? c = some base) :
    GrowsIn table (do
      set (table.addParametrised c base arguments).1
      let fields ← base.fields.mapM fun field => do
        let annotation ← ((← get).resolve field.annotation).substitute parametrise σ
        pure { field with annotation := annotation }
      modify fun later => later.setFields (table.addParametrised c base arguments).2 fields
      pure (table.addParametrised c base arguments).2) := by
  refine (growsIn_set fun layered => extends_addParametrised layered isModel _).bind fun _ after _ => ?_
  refine (growsIn_mapM (fun field _ here => growsIn_get ?_) after).bind fun fields last _ => ?_
  · exact (Ty.grows_substitute grows _ here).bind fun _ _ _ => growsIn_pure _
  · exact (growsIn_modify fun layered => extends_setFields layered _ _).bind fun _ _ _ => growsIn_pure _

theorem grows_parametriseWith (depth : Nat) (c : ClassRef) (arguments : List Ty) (table : ClassTable) :
    GrowsIn table (parametriseWith depth c arguments) := by
  induction depth generalizing c arguments table with
  | zero => exact growsIn_pure _
  | succ depth ih =>
    rw [parametriseWith]
    refine growsIn_get ?_
    split
    · exact growsIn_pure _
    next info _ =>
    dsimp only
    split
    -- The arguments of a model that is parametrised already can declare classes on their own.
    on_goal 1 => refine (Ty.grows_substituteList ih info.arguments table).bind fun own later _ => ?_
    all_goals
      refine (growsIn_pure _).bind fun given here _ => growsIn_get ?_
      split
      · exact growsIn_pure _
      next base isModel =>
      split
      · exact growsIn_pure _
      split
      · exact growsIn_pure _
      · exact grows_made ih isModel

/-- Giving arguments to a generic model is one more way to declare classes. -/
theorem extends_parametrise {table later : ClassTable} (layered : table.Layered) {c made : ClassRef}
    {arguments : List Ty} (declared : table.parametrise c arguments = .ok (made, later)) :
    table.Extends later := by
  unfold parametrise at declared
  obtain ⟨_, -, declared⟩ := exists_of_bind_eq_ok declared
  obtain ⟨_, -, declared⟩ := exists_of_bind_eq_ok declared
  exact grows_parametriseWith _ c arguments table layered made later declared

end ClassTable

end

end ModelSchema
