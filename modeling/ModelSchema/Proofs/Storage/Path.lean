import Mathlib.Data.String.Basic
import ModelSchema.Output.Writer

/-!
Paths from texts, and where they lead.

* `splitOn_singleton`: a text between single marks is its characters between them. The parts of a
  dotted name and the components of a path are read off with it.
* `FilePath.StaysInside`: a relative path without double dots. Inside a directory it leads to the
  place of the directory with the path behind it (`FilePath.goUp_join_resolve`).
-/

namespace ModelSchema

/-! ### Texts between marks -/

section

open String

/-- The induction is on what is not read yet. Behind `done`, the last part begins with `within`. -/
theorem splitOnAux_eq (mark : Char) (done within rest : List Char) (parts : List String) :
    splitOnAux (ofList (done ++ within ++ rest)) (String.singleton mark) ⟨utf8Len done⟩
        ⟨utf8Len done + utf8Len within⟩ 0 parts
      = parts.reverse ++ (List.splitOnPPrepend (· == mark) rest within.reverse).map ofList := by
  have here : utf8Len done + utf8Len within = utf8Len (done ++ within) := by simp
  induction rest generalizing done within parts with
  | nil =>
    have atEnd := (atEnd_of_valid (done ++ within) []).mpr rfl
    have whole := extract_of_valid done within []
    rw [splitOnAux, here, if_pos atEnd, ← here, whole]
    simp
  | cons c rest ih =>
    have notAtEnd := (atEnd_of_valid (done ++ within) (c :: rest)).not.mpr (List.cons_ne_nil _ _)
    have get := get_of_valid (done ++ within) (c :: rest)
    have next := next_of_valid (done ++ within) c rest
    have unmoved : Pos.Raw.unoffsetBy ⟨utf8Len (done ++ within)⟩ 0
        = ⟨utf8Len (done ++ within)⟩ := by simp
    have getMark : Pos.Raw.get (String.singleton mark) 0 = mark := get_of_valid [] [mark]
    have nextMark : Pos.Raw.next (String.singleton mark) 0 = ⟨mark.utf8Size⟩ := by
      simpa using next_of_valid [] mark []
    have atEndMark : Pos.Raw.atEnd (String.singleton mark) ⟨mark.utf8Size⟩ = true := by
      simpa using (atEnd_of_valid [mark] []).mpr rfl
    rw [splitOnAux, here, if_neg notAtEnd, get, getMark, next, nextMark, unmoved, next,
      List.splitOnPPrepend_cons_eq_if]
    dsimp only [List.headD_cons]
    rw [if_pos atEndMark]
    by_cases isMark : c = mark
    · subst isMark
      have back : Pos.Raw.unoffsetBy ⟨utf8Len (done ++ within) + c.utf8Size⟩ ⟨c.utf8Size⟩
          = ⟨utf8Len done + utf8Len within⟩ := by
        rw [here]
        ext
        simp
      rw [back, extract_of_valid done within (c :: rest)]
      have later := ih (done ++ within ++ [c]) [] (ofList within :: parts) (by simp)
      simpa [Nat.add_assoc] using later
    · have later := ih done (within ++ [c]) parts (by simp)
      simpa [isMark, Nat.add_assoc] using later

/-- What is between the marks of a text are the characters between them. -/
theorem splitOn_singleton (text : String) (mark : Char) :
    text.splitOn (String.singleton mark) = (text.toList.splitOn mark).map ofList := by
  unfold String.splitOn
  rw [if_neg (by simp)]
  simpa [List.splitOn] using splitOnAux_eq mark [] [] text.toList []

end

theorem dottedParts_eq (name : String) :
    dottedParts name = (name.toList.splitOn '.').map String.ofList :=
  splitOn_singleton name '.'

namespace FilePath

theorem componentsOf_eq (text : String) :
    componentsOf text = ((text.toList.splitOn '/').map String.ofList).filter
      fun part => part != "" && part != "." :=
  congrArg _ (splitOn_singleton text '/')

/-! ### Double dots -/

variable {parts more : List String} {directory path other : FilePath}

/-- Whether a path leads from any directory to a place inside it. -/
structure StaysInside (path : FilePath) : Prop where
  relative : path.start = .relative
  noDots : ".." ∉ path.parts

instance : Decidable path.StaysInside :=
  decidable_of_iff (path.start = .relative ∧ ".." ∉ path.parts)
    ⟨fun ⟨relative, noDots⟩ => ⟨relative, noDots⟩, fun ⟨relative, noDots⟩ => ⟨relative, noDots⟩⟩

/-- Without double dots, nothing is left out. -/
theorem foldl_of_noDots {start : List String} (noDots : ".." ∉ more) :
    more.foldl (fun done part => if part = ".." then done.dropLast else done ++ [part]) start
      = start ++ more := by
  induction more generalizing start with
  | nil => simp
  | cons first rest ih =>
    obtain ⟨isFirst, notBehind⟩ := not_or.mp (List.mem_cons.not.mp noDots)
    rw [List.foldl_cons, if_neg (Ne.symm isFirst), ih notBehind, List.append_assoc]
    rfl

theorem StaysInside.eq_of_parts (inside : path.StaysInside) (otherInside : other.StaysInside)
    (same : path.parts = other.parts) : path = other := by
  obtain ⟨start, parts⟩ := path
  obtain ⟨otherStart, otherParts⟩ := other
  obtain rfl : start = .relative := inside.relative
  obtain rfl : otherStart = .relative := otherInside.relative
  exact congrArg _ same

/-- Without double dots, what is inside a directory is put behind it. -/
theorem goUp_append (noDots : ".." ∉ more) : goUp (parts ++ more) = goUp parts ++ more := by
  unfold goUp
  rw [List.foldl_append, foldl_of_noDots noDots]

theorem notMem_foldl {start : List String} (noDots : ".." ∉ start) :
    ".." ∉ parts.foldl (fun done part => if part = ".." then done.dropLast else done ++ [part])
      start := by
  induction parts generalizing start with
  | nil => exact noDots
  | cons part rest ih =>
    rw [List.foldl_cons]
    split
    · exact ih fun member => noDots (List.dropLast_subset _ member)
    next isOther => exact ih (by simp [noDots, Ne.symm isOther])

/-- Whoever has gone up has no double dots left. -/
theorem goUp_goUp : goUp (goUp parts) = goUp parts := by
  have noDots : ".." ∉ goUp parts := notMem_foldl (List.not_mem_nil)
  exact foldl_of_noDots noDots

/-- The place of a path inside a directory without double dots. -/
theorem goUp_join_resolve (inside : path.StaysInside) {workingDirectory : FilePath} :
    goUp ((directory.resolve workingDirectory).join path).parts
      = goUp (workingDirectory.join directory).parts ++ path.parts := by
  have relative : path.isAbsolute = false := by simp [isAbsolute, inside.relative]
  unfold join
  rw [if_neg (by simp [relative]), goUp_append inside.noDots]
  exact congrArg (· ++ path.parts) goUp_goUp

end FilePath

end ModelSchema
