import Mathlib.Data.List.TakeWhile
import ModelSchema.Scope.Filter

/-!
What scopes admit.

A package pattern is matched as it is, and once more with a dot and a star behind it. What is put behind a
pattern never changes how the pattern itself is read: it holds no closing bracket, so that a bracket that
is open stays open. So the longer pattern matches what has, in front of one of its dots, a text that the
pattern matches.

* `Glob.admits_append`: elements one after the other match a text in two parts.
* `Glob.tokens_append`: what is put behind a pattern is read on its own.
* `Scope.inPackage_iff`: a package pattern admits what it matches, and all that is inside of it.
* `Scope.admission_iff`: so a scope asks, on each axis that has patterns, for one that admits the module.
-/

namespace ModelSchema

namespace Glob

/-! ### Elements one after the other -/

theorem mem_suffixes {text tail : List Char} : tail ∈ suffixes text ↔ ∃ front, text = front ++ tail := by
  induction text with
  | nil =>
    rw [suffixes, List.mem_singleton]
    exact ⟨fun isNil => ⟨[], isNil.symm⟩, fun ⟨_, whole⟩ => (List.append_eq_nil_iff.mp whole.symm).2⟩
  | cons c rest ih =>
    rw [suffixes, List.mem_cons, ih]
    constructor
    · rintro (rfl | ⟨front, rfl⟩)
      · exact ⟨[], rfl⟩
      · exact ⟨c :: front, rfl⟩
    · rintro ⟨front, whole⟩
      cases front with
      | nil => exact .inl whole.symm
      | cons d front => exact .inr ⟨front, (List.cons.inj whole).2⟩

theorem admits_nil {text : List Char} : admits [] text = true ↔ text = [] := List.isEmpty_iff

theorem admits_anyText {rest : List GlobToken} {text : List Char} :
    admits (.anyText :: rest) text = true ↔ ∃ front tail, text = front ++ tail ∧ admits rest tail = true := by
  refine List.any_eq_true.trans ?_
  simp only [mem_suffixes]
  constructor
  · rintro ⟨tail, ⟨front, whole⟩, matched⟩
    exact ⟨front, tail, whole, matched⟩
  · rintro ⟨front, tail, whole, matched⟩
    exact ⟨tail, ⟨front, whole⟩, matched⟩

theorem admits_cons {token : GlobToken} {rest : List GlobToken} {text : List Char}
    (oneChar : token ≠ .anyText) :
    admits (token :: rest) text = true
      ↔ ∃ c tail, text = c :: tail ∧ holds token c = true ∧ admits rest tail = true := by
  have nothing : admits (token :: rest) [] = false := by
    cases token with
    | anyText => exact absurd rfl oneChar
    | _ => rfl
  have step (c : Char) (tail : List Char) :
      admits (token :: rest) (c :: tail) = (holds token c && admits rest tail) := by
    cases token with
    | anyText => exact absurd rfl oneChar
    | _ => rfl
  cases text with
  | nil => simp [nothing]
  | cons c tail =>
    rw [step, Bool.and_eq_true]
    constructor
    · exact fun both => ⟨c, tail, rfl, both⟩
    · rintro ⟨_, _, same, both⟩
      cases same
      exact both

/-- Elements one after the other match the texts of which they match a part each. -/
theorem admits_append {first second : List GlobToken} {text : List Char} :
    admits (first ++ second) text = true
      ↔ ∃ front tail, text = front ++ tail ∧ admits first front = true ∧ admits second tail = true := by
  induction first generalizing text with
  | nil =>
    constructor
    · exact fun matched => ⟨[], text, rfl, rfl, matched⟩
    · rintro ⟨front, tail, rfl, here, there⟩
      rw [admits_nil] at here
      rwa [here]
  | cons token rest ih =>
    rw [List.cons_append]
    by_cases isStar : token = .anyText
    · subst isStar
      simp only [admits_anyText]
      constructor
      · rintro ⟨skipped, behind, rfl, matched⟩
        obtain ⟨front, tail, rfl, here, there⟩ := ih.mp matched
        exact ⟨skipped ++ front, tail, (List.append_assoc ..).symm, ⟨skipped, front, rfl, here⟩, there⟩
      · rintro ⟨_, tail, rfl, ⟨skipped, front, rfl, matched⟩, there⟩
        exact ⟨skipped, front ++ tail, List.append_assoc .., ih.mpr ⟨front, tail, rfl, matched, there⟩⟩
    · simp only [admits_cons isStar]
      constructor
      · rintro ⟨c, behind, rfl, held, matched⟩
        obtain ⟨front, tail, rfl, here, there⟩ := ih.mp matched
        exact ⟨c :: front, tail, rfl, ⟨c, front, rfl, held, here⟩, there⟩
      · rintro ⟨_, tail, rfl, ⟨c, front, rfl, held, matched⟩, there⟩
        exact ⟨c, front ++ tail, rfl, held, ih.mpr ⟨front, tail, rfl, matched, there⟩⟩

/-! ### Reading what is put behind a pattern -/

section

variable {text tail : List Char}

/-- A set is negated by its first character, and a bracket in front does not close it. -/
theorem setStart_cons {c : Char} {rest : List Char} :
    setStart (c :: rest)
      = if c = '!' then if rest.head? = some ']' then 2 else 1 else if c = ']' then 1 else 0 := by
  by_cases isSign : c = '!'
  · subst isSign
    cases rest with
    | nil => rfl
    | cons d rest => by_cases isBracket : d = ']' <;> simp [setStart, isBracket]
  · by_cases isBracket : c = ']' <;> simp [setStart, isSign, isBracket]

theorem setStart_le : setStart text ≤ text.length := by
  cases text with
  | nil => exact Nat.le_refl 0
  | cons c rest =>
    rw [setStart_cons]
    cases rest <;> split_ifs <;> simp_all

theorem setStart_append (noSign : tail.head? ≠ some '!') (noBracket : ']' ∉ tail) :
    setStart (text ++ tail) = setStart text := by
  have noHead : tail.head? ≠ some ']' := fun isHead => noBracket (List.mem_of_mem_head? isHead)
  cases text with
  | nil =>
    cases tail with
    | nil => rfl
    | cons c rest =>
      rw [List.nil_append, setStart_cons, if_neg fun isSign => noSign (congrArg some isSign),
        if_neg fun isBracket => noHead (congrArg some isBracket)]
      rfl
  | cons c rest =>
    rw [List.cons_append, setStart_cons, setStart_cons]
    cases rest with
    | nil => simp [noHead]
    | cons d rest => rfl

/-- A set is closed by the same bracket, or stays open. -/
theorem setBody?_append (noSign : tail.head? ≠ some '!') (noBracket : ']' ∉ tail) :
    setBody? (text ++ tail) = (setBody? text).map fun (body, rest) => (body, rest ++ tail) := by
  have staysOpen : tail.dropWhile (· != ']') = [] := by
    rw [List.dropWhile_eq_nil_iff]
    intro c member
    exact bne_iff_ne.mpr fun same => noBracket (same ▸ member)
  unfold setBody?
  simp only [setStart_append noSign noBracket]
  rw [List.drop_append_of_le_length setStart_le, List.take_append_of_le_length setStart_le,
    List.dropWhile_append]
  cases behind : (text.drop (setStart text)).dropWhile (· != ']') with
  | nil => simp [staysOpen]
  | cons c rest =>
    have stops : ((text.drop (setStart text)).takeWhile (· != ']')).length
        ≠ (text.drop (setStart text)).length := by
      intro same
      have whole := List.takeWhile_append_dropWhile (p := (· != ']')) (l := text.drop (setStart text))
      have lengths := congrArg List.length whole
      rw [behind, List.length_append, same, List.length_cons] at lengths
      omega
    rw [List.takeWhile_append, if_neg stops]
    rfl

/-- What is put behind a pattern is read on its own, when it can neither negate nor close a set. -/
theorem tokens_append (noSign : tail.head? ≠ some '!') (noBracket : ']' ∉ tail) (text : List Char) :
    tokens (text ++ tail) = tokens text ++ tokens tail := by
  fun_induction tokens text with
  | case1 => rfl
  | case2 rest ih => rw [List.cons_append, tokens, ih, List.cons_append]
  | case3 rest ih => rw [List.cons_append, tokens, ih, List.cons_append]
  | case4 rest body after closed ih =>
    rw [List.cons_append, tokens]
    split
    next bodyElse afterElse found =>
      rw [setBody?_append noSign noBracket, closed] at found
      cases found
      rw [ih, List.cons_append]
    next found =>
      rw [setBody?_append noSign noBracket, closed] at found
      cases found
  | case5 rest staysOpen ih =>
    rw [List.cons_append, tokens]
    split
    next bodyElse afterElse found =>
      rw [setBody?_append noSign noBracket, staysOpen] at found
      cases found
    next found => rw [ih, List.cons_append]
  | case6 c rest notStar notAny notSet ih =>
    rw [List.cons_append, tokens, ih, List.cons_append]
    all_goals assumption

end

end Glob

namespace Scope

/-! ### Main result -/

/-- A pattern with a dot and a star behind it matches what is inside of a package that the pattern
matches. -/
theorem globMatches_inside {pattern module : String} :
    globMatches (pattern ++ ".*") module = true
      ↔ ∃ package inner, module = package ++ "." ++ inner ∧ globMatches pattern package = true := by
  have behind : Glob.tokens ".*".toList = [.char '.', .anyText] := by simp [Glob.tokens]
  have dot : ∀ tail, Glob.admits [.char '.', .anyText] tail = true ↔ ∃ inner, tail = '.' :: inner := by
    intro tail
    rw [Glob.admits_cons (by simp)]
    constructor
    · rintro ⟨c, inner, rfl, isDot, -⟩
      exact ⟨inner, by rw [of_decide_eq_true isDot]⟩
    · rintro ⟨inner, rfl⟩
      exact ⟨'.', inner, rfl, rfl, Glob.admits_anyText.mpr ⟨inner, [], (List.append_nil _).symm, rfl⟩⟩
  unfold globMatches
  rw [String.toList_append, Glob.tokens_append (by decide) (by decide), Glob.admits_append, behind]
  constructor
  · rintro ⟨front, tail, whole, matched, isDot⟩
    obtain ⟨inner, rfl⟩ := (dot tail).mp isDot
    refine ⟨.ofList front, .ofList inner, ?_, by rwa [String.toList_ofList]⟩
    rw [← String.toList_inj, whole]
    simp
  · rintro ⟨package, inner, rfl, matched⟩
    refine ⟨package.toList, '.' :: inner.toList, by simp, matched, (dot _).mpr ⟨_, rfl⟩⟩

/-- A package pattern admits what it matches, and what is inside of a package that it matches. -/
theorem inPackage_iff {pattern module : String} :
    inPackage pattern module = true
      ↔ globMatches pattern module = true
        ∨ ∃ package inner, module = package ++ "." ++ inner ∧ globMatches pattern package = true := by
  rw [inPackage, Bool.or_eq_true, globMatches_inside]

/-- A bracket that is not closed stands for itself, also in front of the dot and the star. -/
example : inPackage "a[b" "a[b.c" = true := by cbv

/-- An axis without patterns admits everything; one with patterns, what one of them admits. -/
theorem axis_iff {patterns : List String} {admitted : String → Bool} :
    (patterns.isEmpty || patterns.any admitted) = true
      ↔ (patterns ≠ [] → ∃ pattern ∈ patterns, admitted pattern = true) := by
  cases patterns <;> simp

/-- Whatever the pattern, it admits as a package pattern the module that it matches, and each module with a
dot in front of which is a text that it matches. And a scope admits a module exactly when it is admitted on
each axis that has patterns: as a whole by one of the module patterns, and in this way by one of the package
patterns. -/
theorem admission_iff :
    (∀ pattern module : String, inPackage pattern module = true
      ↔ globMatches pattern module = true
        ∨ ∃ package inner, module = package ++ "." ++ inner ∧ globMatches pattern package = true)
    ∧ ∀ (scope : Scope) (module : String), scope.allowsModule module = true
      ↔ (scope.modules ≠ [] → ∃ pattern ∈ scope.modules, globMatches pattern module = true)
        ∧ (scope.packages ≠ [] → ∃ pattern ∈ scope.packages,
          globMatches pattern module = true
            ∨ ∃ package inner, module = package ++ "." ++ inner
              ∧ globMatches pattern package = true) := by
  refine ⟨fun _ _ => inPackage_iff, fun scope module => ?_⟩
  rw [allowsModule, Bool.and_eq_true, axis_iff, axis_iff]
  simp only [inPackage_iff]

end Scope

end ModelSchema
