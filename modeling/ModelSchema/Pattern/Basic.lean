import ModelSchema.Text.Case
import ModelSchema.Text.CharClass

/-!
Patterns: regular expressions.

* `CharSet`: what a single character has to be.
* `Pattern`: the expressions. Groups, references and repetitions of all manners are among them.
* `Pattern.width`: the least and the greatest number of characters that a pattern can match.
-/

namespace ModelSchema

/-- The named classes of characters. -/
inductive CharKind where
  | digit
  | blank
  | word
  deriving DecidableEq, Repr, Inhabited

/-- How case counts. -/
inductive CaseRule where
  | exact
  /-- the case of ASCII letters does not count -/
  | asciiFolded
  /-- case does not count -/
  | folded
  deriving DecidableEq, Repr, Inhabited

/-- A part of a set of characters. The classes can be narrowed to ASCII. -/
inductive CharRange where
  | between (low high : Char)
  | kind (kind : CharKind) (ascii negated : Bool)
  deriving DecidableEq, Repr, Inhabited

/-- A set of characters. -/
structure CharSet where
  negated : Bool
  ranges : List CharRange
  caseRule : CaseRule
  deriving DecidableEq, Repr, Inhabited

/-- Conditions on a place in a text. `beforeLastBreak` holds at the end, also before a last line
end. The word conditions hold nowhere in the empty text. -/
inductive Anchor where
  | textStart
  | textEnd
  | lineStart
  | lineEnd
  | beforeLastBreak
  | wordEdge (ascii negated : Bool)
  deriving DecidableEq, Repr, Inhabited

/-- Which of its matches a repetition prefers. A possessive one has no other. -/
inductive Greed where
  | eager
  | lazy
  | possessive
  deriving DecidableEq, Repr, Inhabited

/-- The numbers of characters that a pattern can match: at least and at most. -/
structure MatchWidth where
  least : Nat
  most : Nat
  deriving DecidableEq, Repr, Inhabited

/-- A regular expression. -/
inductive Pattern where
  | empty
  | char (set : CharSet)
  | anchor (a : Anchor)
  | sequence (first second : Pattern)
  | choice (first second : Pattern)
  | repeated (body : Pattern) (least : Nat) (most : Option Nat) (greed : Greed)
  | group (number : Nat) (body : Pattern)
  | atomic (body : Pattern)
  | ahead (negated : Bool) (body : Pattern)
  /-- the body matches right before a place; it has a width -/
  | behind (negated : Bool) (width : MatchWidth) (body : Pattern)
  /-- the text that a group has matched, which has a width, again -/
  | reference (number : Nat) (width : MatchWidth) (caseRule : CaseRule)
  /-- the one pattern if a group has matched, the other if not -/
  | conditional (number : Nat) (present absent : Pattern)
  deriving DecidableEq, Repr, Inhabited

/-! ### Characters -/

def CharKind.holds (kind : CharKind) (c : Char) : Bool :=
  match kind with
  | digit => isDecimalDigit c
  | blank => isBlank c
  | word => isWordChar c

/-- The class within ASCII. -/
def CharKind.holdsInAscii (kind : CharKind) (c : Char) : Bool :=
  match kind with
  | digit => c.isDigit
  | blank => c = ' ' || (0x09 ≤ c.toNat && c.toNat ≤ 0x0d)
  | word => c.isAlphanum || c = '_'

/-- The characters that count as the same. -/
def CaseRule.variants : CaseRule → Char → List Char
  | exact, c => [c]
  | asciiFolded, c => asciiVariants c
  | folded, c => caseVariants c

/-- The form of characters by which they are compared with a text that was matched before. -/
def CaseRule.fold : CaseRule → Char → Char
  | exact, c => c
  | asciiFolded, c => c.toLower
  | folded, c => simpleLower c

def CharRange.holds (range : CharRange) (c : Char) : Bool :=
  match range with
  | between low high => low ≤ c && c ≤ high
  | kind k ascii negated => (if ascii then k.holdsInAscii c else k.holds c) != negated

namespace CharSet

def holds (set : CharSet) (c : Char) : Bool :=
  (set.caseRule.variants c).any (fun d => set.ranges.any (·.holds d)) != set.negated

/-- The set of one character. -/
def single (caseRule : CaseRule) (c : Char) : CharSet := ⟨false, [.between c c], caseRule⟩

/-- Any character but a line end. -/
def withinLine : CharSet := ⟨true, [.between '\n' '\n'], .exact⟩

/-- Any character. -/
def any : CharSet := ⟨true, [], .exact⟩

end CharSet

/-! ### Widths -/

namespace MatchWidth

/-- The width that stands for all larger ones. -/
def limit : Nat := Nat.pow 2 64

def zero : MatchWidth := ⟨0, 0⟩

/-- One pattern behind the other. -/
def add (a b : MatchWidth) : MatchWidth :=
  ⟨min (a.least + b.least) limit, min (a.most + b.most) limit⟩

/-- One pattern or the other. -/
def union (a b : MatchWidth) : MatchWidth := ⟨min a.least b.least, max a.most b.most⟩

/-- A pattern a number of times. -/
def times (a : MatchWidth) (least : Nat) (most : Option Nat) : MatchWidth :=
  ⟨min (a.least * least) limit,
    match most with
    | some n => min (a.most * n) limit
    | none => if a.most = 0 then 0 else limit⟩

end MatchWidth

/-- How many characters a pattern can match. -/
def Pattern.width : Pattern → MatchWidth
  | empty | anchor _ | ahead .. | behind .. => .zero
  | char _ => ⟨1, 1⟩
  | sequence first second => first.width.add second.width
  | choice first second => first.width.union second.width
  | repeated body least most _ => body.width.times least most
  | group _ body | atomic body => body.width
  | reference _ width _ => width
  | conditional _ present absent => present.width.union absent.width

end ModelSchema
