import ModelSchema.Proofs.Agreement.Nulls

/-!
What a type or nothing admits.

The schema of a type or nothing is a choice between null and the schema of the type, of which
exactly one has to fit. So it admits null besides what the type admits, unless the type does that
already.

* `SchemaSource.nodeOf`: the node of an annotation in a document.
* `nodeOf_optional`: nothing as an alternative adds null to the choice, if it is not there.
* `accepts_optional`: what is accepted for a type or nothing, in terms of the type.
-/

namespace ModelSchema

/-! ### A type or nothing -/

namespace Ty

variable {t : Ty}

/-- Whether the members of a union are as they are left by its forming: at least two, and no two of
them equal. -/
def IsFormed : Ty → Prop
  | .union _ members => 2 ≤ members.length ∧ distinct members = members
  | _ => True

/-- Whether nothing is one of the types that an annotation stands for. -/
def hasNone (t : Ty) : Bool := t.unionMembers.any fun member => member.same .none

theorem IsFormed.distinct_unionMembers (formed : t.IsFormed) :
    distinct t.unionMembers = t.unionMembers := by
  cases t with
  | union _ members => exact formed.2
  | _ => rfl

theorem presentMembers_of_hasNone (noNone : t.hasNone = false) :
    presentMembers t.unionMembers = t.unionMembers := by
  refine List.filter_eq_self.mpr fun member inside => ?_
  rw [Bool.not_eq_true', ← Bool.not_eq_true]
  exact List.any_eq_false.mp noNone member inside

theorem presentMembers_concat {members : List Ty} :
    presentMembers (members ++ [.none]) = presentMembers members := by
  unfold presentMembers
  rw [List.filter_append]
  exact List.append_nil _

/-- Nothing is added to the members where it is not one yet. -/
theorem distinct_members_optional (formed : t.IsFormed) :
    distinct ([t, .none].flatMap unionMembers)
      = if t.hasNone then t.unionMembers else t.unionMembers ++ [.none] := by
  have parts : [t, .none].flatMap unionMembers = t.unionMembers ++ [.none] := by
    simp [unionMembers]
  rw [parts]
  unfold distinct
  rw [List.foldl_append]
  exact congrArg (fun kept : List Ty =>
    if kept.any (fun k => k.same .none) then kept else kept ++ [.none])
    formed.distinct_unionMembers

/-- So a type or nothing is the type, its way of writing apart, or the union of it with nothing. -/
theorem optional_cases (formed : t.IsFormed) :
    (t.hasNone = true ∧ (t = .none ∧ t.optional = .none
        ∨ ∃ piped members, t = .union piped members ∧ t.optional = .union false members))
      ∨ (t.hasNone = false ∧ t.optional = .union false (t.unionMembers ++ [.none])) := by
  unfold optional unionOf
  rw [distinct_members_optional formed]
  cases has : t.hasNone with
  | true =>
    refine .inl ⟨rfl, ?_⟩
    rw [if_pos rfl]
    cases t with
    | union piped members =>
      obtain ⟨several, -⟩ := formed
      refine .inr ⟨piped, members, rfl, ?_⟩
      match members with
      | _ :: _ :: _ => rfl
    | none => exact .inl ⟨rfl, rfl⟩
    | _ => simp [hasNone, unionMembers, same] at has
  | false =>
    refine .inr ⟨rfl, ?_⟩
    have something : t.unionMembers ≠ [] := by
      cases t with
      | union piped members =>
        rintro nothing
        have several := formed.1
        rw [show members = [] from nothing] at several
        exact absurd several (by decide)
      | _ => exact List.cons_ne_nil _ _
    obtain ⟨first, rest, same⟩ := List.exists_cons_of_ne_nil something
    rw [if_neg Bool.false_ne_true, same]
    cases rest <;> rfl

end Ty

/-- A union has the forms of its members other than nothing. -/
theorem ClassTable.form_union {table : ClassTable} {piped : Bool} {members : List Ty} :
    table.form (.union piped members)
      = .of (.union piped members) [] (.union ((Ty.presentMembers members).map table.form)
        (members.any fun t => t.same .none)) := by
  have atDepth : ∀ depth, table.formWithin depth (.union piped members)
      = .of (.union piped members) [] (.union
        ((Ty.presentMembers members).map (table.formWithin depth))
        (members.any fun t => t.same .none)) := by
    intro depth
    cases depth with
    | zero => exact Ty.formAt_union
    | succ depth => exact Ty.formAt_union
  exact atDepth table.nestingDepth

namespace SchemaSource

variable {source : SchemaSource} {owner : ClassRef} {t : Ty}

/-! ### Nodes in a document -/

/-- The node of an annotation in the body of `owner`, where the document of the source is. -/
def nodeOf (source : SchemaSource) (owner : ClassRef) (t : Ty) : Node :=
  source.formNode source.outline.1.nameOf owner [] (source.catalog.table.form t)

theorem isInner_nodeOf (unlimited : (source.catalog.table.form t).isUnlimited = true) :
    (source.nodeOf owner t).IsInner :=
  isInner_form _ (source.catalog.table.form_classified t) unlimited

theorem nodeOf_union {piped : Bool} {members : List Ty} :
    source.nodeOf owner (.union piped members)
      = unionNode ((Ty.presentMembers members).map (source.nodeOf owner))
        (members.any fun t => t.same .none) := by
  unfold nodeOf
  rw [ClassTable.form_union]
  change unionNode (source.formNodes _ owner [] _) _ = _
  rw [formNodes_eq, List.map_map]
  rfl

/-- An annotation without nothing is the choice between its members. -/
theorem nodeOf_eq_alternatives (noNone : t.hasNone = false) :
    source.nodeOf owner t = alternativesNode (t.unionMembers.map (source.nodeOf owner)) := by
  have present := Ty.presentMembers_of_hasNone noNone
  cases t with
  | union piped members =>
    rw [nodeOf_union, unionNode_eq, if_neg (Bool.not_eq_true _ ▸ noNone)]
    exact congrArg (fun members => alternativesNode (members.map (source.nodeOf owner))) present
  | _ => rfl

/-- Nothing as an alternative adds null to the choice, if it is not there. -/
theorem nodeOf_optional (formed : t.IsFormed) :
    source.nodeOf owner t.optional
      = if t.hasNone then source.nodeOf owner t
        else branchesNode [notIncluded, source.nodeOf owner t] := by
  rcases Ty.optional_cases formed with
    ⟨has, ⟨rfl, same⟩ | ⟨piped, members, rfl, same⟩⟩ | ⟨noNone, same⟩
  · rw [same, has, if_pos rfl]
  · rw [same, has, if_pos rfl, nodeOf_union, nodeOf_union]
  · have nullable : ((t.unionMembers ++ [Ty.none]).any fun t => t.same .none) = true := by
      simp [Ty.same]
    rw [same, noNone, if_neg Bool.false_ne_true, nodeOf_union, unionNode_eq,
      Ty.presentMembers_concat, Ty.presentMembers_of_hasNone noNone, nullable, if_pos rfl,
      nodeOf_eq_alternatives noNone]

/-- Whether one of the types that an annotation stands for admits null, nothing itself apart. -/
def presentNull? (source : SchemaSource) (owner : ClassRef) (t : Ty) : Option Bool :=
  source.anyNull? owner ((Ty.presentMembers t.unionMembers).map source.catalog.table.form)

theorem anyNull?_singleton {form : Form} :
    source.anyNull? owner [form] = source.nullAnswer? owner form := by
  rw [anyNull?, anyNull?]
  cases source.nullAnswer? owner form <;> simp

/-- An annotation admits null when nothing is among its types or one of the others admits null, but
not both. -/
theorem nullAnswer?_form {any : Bool} (asked : source.presentNull? owner t = some any) :
    source.nullAnswer? owner (source.catalog.table.form t) = some (t.hasNone ^^ any) := by
  cases noNone : t.hasNone with
  | true =>
    cases t with
    | union piped members =>
      rw [ClassTable.form_union, nullAnswer?, shapeNull?,
        show (members.any fun t => t.same .none) = true from noNone]
      exact congrArg (Option.map _) asked
    | none =>
      cases asked
      unfold ClassTable.form
      cases source.catalog.table.nestingDepth <;> rfl
    | _ => simp [Ty.hasNone, Ty.unionMembers, Ty.same] at noNone
  | false =>
    unfold presentNull? at asked
    rw [Ty.presentMembers_of_hasNone noNone] at asked
    cases t with
    | union piped members =>
      rw [ClassTable.form_union, nullAnswer?, shapeNull?,
        show (members.any fun t => t.same .none) = false from noNone,
        show Ty.presentMembers members = members from Ty.presentMembers_of_hasNone noNone]
      exact congrArg (Option.map _) asked
    | none => cases noNone
    | _ => rwa [Bool.false_xor, ← anyNull?_singleton]

variable {document : Node} {validator : Validator}

/-! ### Main result -/

/-- For a type or nothing, a document accepts the values other than null that it accepts for the
type. And what it accepts is null or accepted for the type, exactly when no member of the type admits
null. -/
theorem accepts_optional (read : source.IsReadBy document validator) (formed : t.IsFormed)
    (unlimited : (source.catalog.table.form t).isUnlimited = true) :
    (∀ value, value ≠ .null → (validator.Accepts (.dict (source.nodeOf owner t.optional)) value
        ↔ validator.Accepts (.dict (source.nodeOf owner t)) value))
      ∧ ∀ any, source.presentNull? owner t = some any →
        (∀ c label kind,
          .reference c label kind ∈ source.formSteps owner (source.catalog.table.form t) →
          source.outline.1.has c = true) →
        ((∀ value, validator.Accepts (.dict (source.nodeOf owner t.optional)) value
            ↔ value = .null ∨ validator.Accepts (.dict (source.nodeOf owner t)) value)
          ↔ any = false) := by
  have isDraft7 := read.isIn.isDraft7
  have isInner : (source.nodeOf owner t).IsInner := isInner_nodeOf unlimited
  have others : ∀ value, value ≠ .null →
      (validator.Accepts (.dict (source.nodeOf owner t.optional)) value
        ↔ validator.Accepts (.dict (source.nodeOf owner t)) value) := by
    intro value notNull
    rw [nodeOf_optional formed]
    split
    · rfl
    · exact Validator.accepts_nullable isDraft7 isInner notNull
  refine ⟨others, fun any asked defined => ?_⟩
  have settles : Settles (validator.judged (.dict (source.nodeOf owner t)) .null)
      (t.hasNone ^^ any) :=
    settles_null read _ (source.catalog.table.form_classified t) unlimited defined
      (nullAnswer?_form asked)
  have atNull : validator.Accepts (.dict (source.nodeOf owner t.optional)) .null ↔ any = false := by
    rw [nodeOf_optional formed]
    cases has : t.hasNone with
    | true =>
      rw [has] at settles
      rw [if_pos rfl, Validator.accepts_iff_of_settles isDraft7 isInner settles]
      simp
    | false =>
      rw [has] at settles
      rw [if_neg Bool.false_ne_true, Validator.accepts_nullable_null isDraft7 isInner,
        Validator.rejects_iff_of_settles isDraft7 isInner settles]
      simp
  rw [← atNull]
  constructor
  · intro law
    exact (law .null).mpr (.inl rfl)
  · intro accepts value
    by_cases isNull : value = .null
    · subst isNull
      exact ⟨fun _ => .inl rfl, fun _ => accepts⟩
    · rw [others value isNull, or_iff_right isNull]

end SchemaSource

/-! ### Examples -/

section

open Example

/-- The source of the document of a journal. -/
def journals : SchemaSource := ⟨events, [⟨event, [stamp]⟩], journal⟩

theorem exists_isReadBy_journals : ∃ validator, journals.IsReadBy journalDocument validator := by
  have made : journals.tree.2 = .ok (.dict journalDocument) := by cbv
  have noId : Dialect.draft7.id? events.table (.dict journalDocument) = .ok none :=
    Validator.id?_of_none rfl rfl (by simp [journalDocument, definitionsKeyword])
  obtain ⟨validator, -, isIn⟩ := Validator.exists_ofRoot true noId
  exact ⟨validator, made, rfl, isIn⟩

/-- A journal, a list of stamps, or an event. -/
def entryType : Ty := .union true [.cls journal, .array .list (.cls stamp), .cls event]

/-- In the document of a journal, an entry or nothing is null or an entry. -/
theorem accepts_optional_entry :
    ∃ validator : Validator, journals.IsReadBy journalDocument validator ∧ entryType.IsFormed
      ∧ (journals.catalog.table.form entryType).isUnlimited = true
      ∧ ∀ value, validator.Accepts (.dict (journals.nodeOf journal entryType.optional)) value
        ↔ value = .null ∨ validator.Accepts (.dict (journals.nodeOf journal entryType)) value := by
  have outline : journals.outline
      = (⟨[⟨stamp, "Instant", .fixed (.dict instantNode)⟩], []⟩, none) := by cbv
  have steps : journals.formSteps journal (journals.catalog.table.form entryType)
      = [.reference stamp "Instant" (.fixed (.dict instantNode)), journals.modelReference stamp] :=
    by cbv
  have formed : entryType.IsFormed := ⟨by decide, rfl⟩
  have unlimited : (journals.catalog.table.form entryType).isUnlimited = true := rfl
  obtain ⟨validator, read⟩ := exists_isReadBy_journals
  refine ⟨validator, read, formed, unlimited, ?_⟩
  refine ((SchemaSource.accepts_optional read formed unlimited).2 false (by cbv)
    fun c label kind member => ?_).mpr rfl
  rw [steps] at member
  rw [outline]
  rcases List.mem_pair.mp member with same | same <;> cases same <;> decide

/-- Null is not accepted for anything or nothing: both admit it, so that the choice does not. -/
theorem not_accepts_optional_any :
    ¬ ∀ (source : SchemaSource) (document : Node) (validator : Validator) (owner : ClassRef)
      (t : Ty), source.IsReadBy document validator → t.IsFormed →
      (source.catalog.table.form t).isUnlimited = true →
      (∀ c label kind,
        .reference c label kind ∈ source.formSteps owner (source.catalog.table.form t) →
        source.outline.1.has c = true) →
      ∀ value, validator.Accepts (.dict (source.nodeOf owner t.optional)) value
        ↔ value = .null ∨ validator.Accepts (.dict (source.nodeOf owner t)) value := by
  intro law
  obtain ⟨validator, read⟩ := exists_isReadBy_journals
  have noSteps : journals.formSteps journal (journals.catalog.table.form .any) = [] := rfl
  have node : journals.nodeOf journal .any = [] := rfl
  have isInner : Node.IsInner [] := ⟨rfl, rfl, rfl⟩
  have formed : Ty.any.IsFormed := trivial
  have accepts := (law journals journalDocument validator journal .any read formed rfl
    (fun c label kind member => absurd (noSteps ▸ member) List.not_mem_nil) .null).mpr (.inl rfl)
  rw [SchemaSource.nodeOf_optional formed, if_neg (by decide), node,
    Validator.accepts_nullable_null read.isIn.isDraft7 isInner,
    Validator.rejects_iff_of_settles read.isIn.isDraft7 isInner
      (Validator.settles_nil read.isIn.isDraft7)] at accepts
  cases accepts

end

end ModelSchema
