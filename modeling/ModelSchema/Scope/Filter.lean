import ModelSchema.Class.Table

/-!
Scopes: which modules a search may find classes in.

A scope is made of glob patterns. A pattern is a text in which `*` stands for any text, `?` for any
character and a bracketed set for one character of the set. A bracket that is never closed stands
for itself.

* `Glob.tokens`: the elements of a pattern; `Glob.admits`: whether they match a text as a whole.
* `globMatches`: whether a pattern matches a text.
* `Scope`: patterns for modules and for packages. An axis without patterns admits everything.
* `Scope.allowsModule`: whether a module is in scope, `Scope.allows` whether a class is.
-/

namespace ModelSchema

/-- One element of a pattern. A set lists ranges of characters; a negated one holds all others. -/
inductive GlobToken where
  | anyText
  | anyChar
  | char (c : Char)
  | set (negated : Bool) (ranges : List (Char × Char))
  deriving DecidableEq, Repr, Inhabited

namespace Glob

/-! ### Bracketed sets -/

/-- Cuts the text of a set at the hyphens that make ranges. A hyphen makes one when it has a
character before it, which is not the end of another range, and one behind it. `skip` counts the
characters at which no cut is possible. -/
def cutAtRanges (skip : Nat) (current : List Char) : List Char → List (List Char)
  | [] => [current]
  | c :: rest =>
    match skip with
    | n + 1 => cutAtRanges n (current ++ [c]) rest
    | 0 =>
      if c = '-' then
        match rest with
        | [] => [current ++ ['-']]
        | d :: rest => current :: cutAtRanges 1 [d] rest
      else cutAtRanges 0 (current ++ [c]) rest

/-- Joins two pieces whose range would be empty, without its ends. -/
def joinPieces (left right : List Char) : Option (List Char) :=
  match left.getLast?, right.head? with
  | some low, some high => if high < low then some (left.dropLast ++ right.tail) else none
  | _, _ => none

/-- The pieces of a set without its empty ranges, the last of which go first. -/
def dropEmptyRanges : List (List Char) → List (List Char)
  | [] => []
  | piece :: rest =>
    match dropEmptyRanges rest with
    | [] => [piece]
    | next :: others =>
      match joinPieces piece next with
      | some joined => joined :: others
      | none => piece :: next :: others

/-- Every character as a range of its own. -/
def singles (chars : List Char) : List (Char × Char) := chars.map fun c => (c, c)

/-- The ranges of a set: one between any two neighbouring pieces, and all other characters. -/
def rangesOf (piece : List Char) : List (List Char) → List (Char × Char)
  | [] => singles piece
  | next :: rest =>
    match piece.getLast?, next with
    | some low, high :: others => singles piece.dropLast ++ (low, high) :: rangesOf others rest
    | _, _ => singles piece ++ rangesOf next rest

/-- The set that the text between two brackets describes. Right behind the sign that negates a set a
hyphen stands for itself. -/
def setOf (body : List Char) : GlobToken :=
  let skip := if body.head? = some '!' then 2 else 1
  match dropEmptyRanges (cutAtRanges skip [] body) with
  | ['!'] :: next :: rest => .set true (('-', '-') :: rangesOf next rest)
  | ('!' :: piece) :: rest => .set true (rangesOf piece rest)
  | piece :: rest => .set false (rangesOf piece rest)
  | [] => .set false []

/-- How many characters behind an opening bracket cannot close it. -/
def setStart : List Char → Nat
  | '!' :: ']' :: _ => 2
  | '!' :: _ => 1
  | ']' :: _ => 1
  | _ => 0

/-- The text of a set and what follows its closing bracket, given what follows the opening one. -/
def setBody? (text : List Char) : Option (List Char × List Char) :=
  let start := setStart text
  match (text.drop start).dropWhile (· != ']') with
  | [] => none
  | _ :: rest => some (text.take start ++ (text.drop start).takeWhile (· != ']'), rest)

/-- What follows a set is shorter than what follows its opening bracket. -/
theorem length_of_setBody? {text body rest : List Char}
    (h : setBody? text = some (body, rest)) : rest.length < text.length := by
  unfold setBody? at h
  simp only at h
  split at h
  · cases h
  · next heq =>
    cases h
    have hle := (List.dropWhile_sublist (l := text.drop (setStart text)) (· != ']')).length_le
    rw [heq] at hle
    simp only [List.length_cons, List.length_drop] at hle
    omega

/-! ### Patterns -/

/-- The elements of a pattern. -/
def tokens : List Char → List GlobToken
  | [] => []
  | '*' :: rest => .anyText :: tokens rest
  | '?' :: rest => .anyChar :: tokens rest
  | '[' :: rest =>
    match _h : setBody? rest with
    | some (body, after) => setOf body :: tokens after
    | none => .char '[' :: tokens rest
  | c :: rest => .char c :: tokens rest
  termination_by text => text.length
  decreasing_by
    all_goals simp_wf
    have := length_of_setBody? _h
    omega

/-- Whether an element other than `anyText` matches a character. -/
def holds (token : GlobToken) (c : Char) : Bool :=
  match token with
  | .anyText | .anyChar => true
  | .char d => c = d
  | .set negated ranges => ranges.any (fun (low, high) => low ≤ c && c ≤ high) != negated

/-- A text and all its shorter ends. -/
def suffixes : List Char → List (List Char)
  | [] => [[]]
  | c :: rest => (c :: rest) :: suffixes rest

/-- Whether elements match a text as a whole. -/
def admits : List GlobToken → List Char → Bool
  | [], text => text.isEmpty
  | .anyText :: rest, text => (suffixes text).any (admits rest)
  | token :: rest, text =>
    match text with
    | [] => false
    | c :: text => holds token c && admits rest text

end Glob

/-- Whether a pattern matches a text. -/
def globMatches (pattern text : String) : Bool :=
  Glob.admits (Glob.tokens pattern.toList) text.toList

/-! ### Scopes -/

/-- Patterns for the module of a class and for the packages around it. -/
structure Scope where
  modules : List String
  packages : List String
  deriving DecidableEq, Repr, Inhabited

namespace Scope

/-- The scope that admits everything. -/
def everything : Scope := ⟨[], []⟩

/-- Whether no axis is restricted. -/
def unrestricted (scope : Scope) : Bool := scope.modules.isEmpty && scope.packages.isEmpty

/-- Whether a package pattern admits a module: it matches the module or a package around it. -/
def inPackage (pattern module : String) : Bool :=
  globMatches pattern module || globMatches (pattern ++ ".*") module

/-- Whether a module is in scope. -/
def allowsModule (scope : Scope) (module : String) : Bool :=
  (scope.modules.isEmpty || scope.modules.any fun pattern => globMatches pattern module)
    && (scope.packages.isEmpty || scope.packages.any fun pattern => inPackage pattern module)

/-- Whether a class is in scope. -/
def allows (scope : Scope) (table : ClassTable) (c : ClassRef) : Bool :=
  scope.allowsModule (table.module c)

/-- The distinct texts of a list in increasing order. -/
def sortedNames (names : List String) : List String :=
  names.eraseDups.mergeSort (· ≤ ·)

/-- The patterns of an axis as text. -/
def axisText (patterns : List String) : String :=
  if patterns.isEmpty then "<ANY>" else "[" ++ ", ".intercalate (sortedNames patterns) ++ "]"

/-- A scope as text. -/
def text (scope : Scope) : String :=
  s!"modules={axisText scope.modules}, packages={axisText scope.packages}"

/-- The characters that make a text a pattern. -/
def globChars : List Char := ['*', '?', '[']

/-- The entries of a scope that name one module or package. -/
def literalNames (scope : Scope) : List String :=
  (scope.modules ++ scope.packages).filter fun pattern =>
    !pattern.toList.any globChars.contains

end Scope

end ModelSchema
