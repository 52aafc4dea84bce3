import ModelSchema.Text.CaseTables

/-!
Case conversion, and characters that differ in nothing but case.

* `lowerCase`: every character in its lower-case form; a capital sigma at the end of a word becomes
  the final small sigma.
* `titleCase`: the first cased character of each run in title case, the others in lower case.
* `caseVariants`: the characters that are the same as a character when case does not count.
* `asciiVariants`: the same where only the letters of ASCII have a case.
-/

namespace ModelSchema

/-! ### Case conversion of whole texts -/

/-- The lower-case form of a character on its own. Only the dotted capital I has two characters. -/
def lowerChar (c : Char) : List Char :=
  if c.toNat = 0x130 then ['i', Char.ofNat 0x307]
  else [Char.ofNat (shiftBy lowerShifts c.toNat)]

/-- The title-case form of a character. -/
def titleChar (c : Char) : List Char :=
  match titleExpansions.find? (·.1 = c.toNat) with
  | some (_, codes) => codes.map Char.ofNat
  | none => [Char.ofNat (shiftBy titleShifts c.toNat)]

def isCased (c : Char) : Bool := inBounds casedBounds c.toNat

def isCaseIgnorable (c : Char) : Bool := inBounds caseIgnorableBounds c.toNat

/-- Whether the nearest character that counts, the ignorable ones skipped, has a case. -/
def nearestIsCased (text : List Char) : Bool :=
  match text.dropWhile isCaseIgnorable with
  | c :: _ => isCased c
  | [] => false

/-- The capital sigma. -/
def capitalSigma : Char := Char.ofNat 0x3a3

/-- Lower case of a text whose characters before it, nearest first, are `before`. -/
def lowerFrom (before : List Char) : List Char → List Char
  | [] => []
  | c :: rest =>
    let lowered :=
      if c = capitalSigma then
        [Char.ofNat (if nearestIsCased before && !nearestIsCased rest then 0x3c2 else 0x3c3)]
      else lowerChar c
    lowered ++ lowerFrom (c :: before) rest

/-- The lower-case form of a text. -/
def lowerCase (text : String) : String := String.ofList (lowerFrom [] text.toList)

/-- Title case of a text that follows a cased character, or does not. -/
def titleFrom (afterCased : Bool) : List Char → List Char
  | [] => []
  | c :: rest => (if afterCased then lowerChar c else titleChar c) ++ titleFrom (isCased c) rest

/-- The title-case form of a text. -/
def titleCase (text : String) : String := String.ofList (titleFrom false text.toList)

/-! ### Characters whose case does not count -/

/-- The lower-case form of a character. The dotted capital I goes to the letter with a dot. -/
def simpleLower (c : Char) : Char :=
  if c.toNat = 0x130 then 'i' else Char.ofNat (shiftBy lowerShifts c.toNat)

/-- Lower-case characters that have an upper-case form in common. -/
def lowerTwins : List (List Nat) := [
    [105, 305], [115, 383], [181, 956], [837, 953, 8126], [912, 8147], [944, 8163], [946, 976],
    [949, 1013], [952, 977], [954, 1008], [960, 982], [961, 1009], [962, 963], [966, 981],
    [1074, 7296], [1076, 7297], [1086, 7298], [1089, 7299], [1090, 7300, 7301], [1098, 7302],
    [1123, 7303], [7304, 42571], [7777, 7835], [64261, 64262]]

/-- The lower-case characters that are the same as one of them when case does not count. -/
def twinsOf (code : Nat) : List Nat := (lowerTwins.find? (·.contains code)).getD [code]

/-- The characters other than itself that have a code point as their lower-case form. -/
def upperForms (code : Nat) : List Nat :=
  let shifted := lowerShifts.filterMap fun (first, last, step, shift) =>
    let upper := (code - shift).toNat
    if first ≤ upper && upper ≤ last && (upper - first) % step = 0 then some upper else none
  if code = 'i'.toNat then 0x130 :: shifted else shifted

/-- The characters that are the same as a character when case does not count. -/
def caseVariants (c : Char) : List Char :=
  (twinsOf (simpleLower c).toNat).flatMap fun code =>
    Char.ofNat code :: (upperForms code).map Char.ofNat

/-- The characters that are the same as a character when the case of ASCII letters does not
count. -/
def asciiVariants (c : Char) : List Char :=
  if c.isLower then [c, c.toUpper] else if c.isUpper then [c, c.toLower] else [c]

end ModelSchema
