import ModelSchema.Pattern.Basic
import Std.Data.HashSet

/-!
Where a pattern matches a text.

* `Trial`: a place in a text, and what the groups that matter have matched on the way to it.
* `Pattern.ends`: the trials that a match can end with, the preferred one first, each once.
* `Pattern.found`: whether a pattern matches anywhere in a text.

Only groups that the pattern refers to are kept in a trial. So a pattern without references has no
more trials than there are places, however often its parts can match.
-/

namespace ModelSchema

/-- A place in a text and the parts of the text, from one place to another, that groups have
matched. -/
structure Trial where
  place : Nat
  groups : List (Nat × Nat × Nat)
  deriving DecidableEq, Repr, Inhabited, Hashable

/-- The text that is searched, and the groups whose matches are kept. -/
structure SearchedText where
  chars : Array Char
  kept : List Nat
  deriving Inhabited

namespace Trial

/-- What a group has matched last. -/
def group? (trial : Trial) (number : Nat) : Option (Nat × Nat) :=
  (trial.groups.find? (·.1 = number)).map (·.2)

/-- Notes what a group has matched. -/
def setGroup (trial : Trial) (number start stop : Nat) : Trial :=
  if trial.groups.any (·.1 = number) then
    { trial with
      groups := trial.groups.map fun g => if g.1 = number then (number, start, stop) else g }
  else { trial with groups := trial.groups ++ [(number, start, stop)] }

end Trial

namespace SearchedText

def size (text : SearchedText) : Nat := text.chars.size

/-- The trial behind the next character, if that satisfies a condition. -/
def next? (text : SearchedText) (trial : Trial) (condition : Char → Bool) : Option Trial :=
  match text.chars[trial.place]? with
  | some c => if condition c then some { trial with place := trial.place + 1 } else none
  | none => none

/-- The character in front of a place. -/
def before? (text : SearchedText) (place : Nat) : Option Char :=
  if place = 0 then none else text.chars[place - 1]?

/-- Whether a word begins or ends at a place. -/
def isWordEdge (text : SearchedText) (ascii : Bool) (place : Nat) : Bool :=
  let isWord (c : Char) : Bool :=
    if ascii then CharKind.word.holdsInAscii c else CharKind.word.holds c
  (text.before? place).any isWord != (text.chars[place]?).any isWord

def satisfies (text : SearchedText) (place : Nat) : Anchor → Bool
  | .textStart => place = 0
  | .textEnd => place = text.size
  | .lineStart => place = 0 || text.before? place = some '\n'
  | .lineEnd => place = text.size || text.chars[place]? = some '\n'
  | .beforeLastBreak =>
    place = text.size || (place + 1 = text.size && text.chars[place]? = some '\n')
  | .wordEdge ascii negated => text.size != 0 && text.isWordEdge ascii place != negated

/-- The characters between two places. -/
def between (text : SearchedText) (start stop : Nat) : List Char :=
  (text.chars.extract start stop).toList

/-- The trial behind the text of a group, if that comes next. -/
def again? (text : SearchedText) (trial : Trial) (number : Nat) (caseRule : CaseRule) :
    Option Trial :=
  match trial.group? number with
  | none => none
  | some (start, stop) =>
    let wanted := (text.between start stop).map caseRule.fold
    let stop := trial.place + wanted.length
    if (text.between trial.place stop).map caseRule.fold = wanted then
      some { trial with place := stop }
    else none

end SearchedText

namespace Pattern

/-- The distinct trials of a list, each where it comes first. -/
def distinct (trials : List Trial) : List Trial :=
  (trials.foldl (fun (seen, kept) trial =>
      if seen.contains trial then (seen, kept) else (seen.insert trial, trial :: kept))
    ((∅ : Std.HashSet Trial), ([] : List Trial))).2.reverse

/-! ### Repetitions -/

/-- What is known of a repetition: the rounds that were tried, by their number, the trial they began
with and whether it may go on from there, and the trials that it can end with, last first. -/
structure Exploration where
  seen : Std.HashSet (Nat × Bool × Trial)
  ends : List Trial
  deriving Inhabited

/-- Explores the rounds of a repetition from a trial on, after some rounds. A round that has not
moved on is the last one, unless more are needed. `last` is the place where the round before began.
-/
def explore (step : Trial → List Trial) (least : Nat) (most : Option Nat) (isLazy : Bool) :
    Nat → Nat → Option Nat → Exploration → Trial → Exploration
  | 0, _, _, exploration, _ => exploration
  | fuel + 1, rounds, last, exploration, trial =>
    let stuck : Bool := last = some trial.place
    let key := (if most.isNone then min rounds least else rounds, stuck, trial)
    if exploration.seen.contains key then exploration
    else
      let exploration := { exploration with seen := exploration.seen.insert key }
      if rounds < least then
        (step trial).foldl (explore step least most isLazy fuel (rounds + 1) last) exploration
      else
        let further (exploration : Exploration) : Exploration :=
          if stuck || most.any (· ≤ rounds) then exploration
          else
            (step trial).foldl
              (explore step least most isLazy fuel (rounds + 1) (some trial.place)) exploration
        let here (exploration : Exploration) : Exploration :=
          { exploration with ends := trial :: exploration.ends }
        if isLazy then further (here exploration) else here (further exploration)

/-- Takes the preferred end of every round, as many rounds as there are. -/
def exhaust (step : Trial → List Trial) (least : Nat) (most : Option Nat) :
    Nat → Nat → Option Nat → Trial → Option Trial
  | 0, _, _, trial => some trial
  | fuel + 1, rounds, last, trial =>
    if rounds < least then
      match step trial with
      | [] => none
      | first :: _ => exhaust step least most fuel (rounds + 1) last first
    else if last = some trial.place || most.any (· ≤ rounds) then some trial
    else
      match step trial with
      | [] => some trial
      | first :: _ => exhaust step least most fuel (rounds + 1) (some trial.place) first

/-- The ends of a repetition with a number of characters left. Further rounds than one more than
that can not move on. -/
def repetitionEnds (step : Trial → List Trial) (least : Nat) (most : Option Nat) (greed : Greed)
    (left : Nat) (trial : Trial) : List Trial :=
  let needed := min least (left + 1)
  let most := most.map fun most => needed + (most - least)
  let fuel := needed + left + 3
  match greed with
  | .possessive => (exhaust step needed most fuel 0 none trial).toList
  | greed =>
    distinct (explore step needed most (greed = .lazy) fuel 0 none ⟨∅, []⟩ trial).ends.reverse

/-! ### Matches -/

/-- The trials that a match that begins with a trial can end with, the preferred one first. -/
def ends (text : SearchedText) : Pattern → Trial → List Trial
  | empty, trial => [trial]
  | char set, trial => (text.next? trial set.holds).toList
  | anchor a, trial => if text.satisfies trial.place a then [trial] else []
  | sequence first second, trial =>
    match first.ends text trial with
    | [] => []
    | [middle] => second.ends text middle
    | middles => distinct (middles.flatMap (second.ends text))
  | choice first second, trial => distinct (first.ends text trial ++ second.ends text trial)
  | repeated body least most greed, trial =>
    repetitionEnds (body.ends text) least most greed (text.size - trial.place) trial
  | group number body, trial =>
    if text.kept.contains number then
      (body.ends text trial).map fun behind => behind.setGroup number trial.place behind.place
    else body.ends text trial
  | atomic body, trial => (body.ends text trial).take 1
  | ahead negated body, trial =>
    match body.ends text trial, negated with
    | [], true => [trial]
    | first :: _, false => [{ first with place := trial.place }]
    | _, _ => []
  | behind negated width body, trial =>
    let found :=
      if trial.place < width.least then []
      else body.ends text { trial with place := trial.place - width.least }
    match found, negated with
    | [], true => [trial]
    | first :: _, false => [{ first with place := trial.place }]
    | _, _ => []
  | reference number _ caseRule, trial => (text.again? trial number caseRule).toList
  | conditional number present absent, trial =>
    if (trial.group? number).isSome then present.ends text trial else absent.ends text trial

/-- The groups that a pattern refers to. -/
def references : Pattern → List Nat
  | empty | char _ | anchor _ => []
  | sequence first second | choice first second => first.references ++ second.references
  | repeated body .. | group _ body | atomic body | ahead _ body | behind _ _ body =>
    body.references
  | reference number .. => [number]
  | conditional number present absent => number :: (present.references ++ absent.references)

/-- Whether a pattern matches anywhere in a text. -/
def found (pattern : Pattern) (text : String) : Bool :=
  let text : SearchedText := ⟨text.toList.toArray, pattern.references⟩
  (List.range (text.size + 1)).any fun place => !(pattern.ends text ⟨place, []⟩).isEmpty

end Pattern

end ModelSchema
