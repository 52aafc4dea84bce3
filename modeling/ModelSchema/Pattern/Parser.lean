import ModelSchema.Pattern.Escape
import ModelSchema.Pattern.Matching

/-!
Reading patterns.

* `PatternReader.branches`: the alternatives up to the end of a group or of the text.
* `Pattern.problem?`: what is wrong with a pattern as a whole.
* `Pattern.ofText`: the pattern of a text, or what is wrong with it.
-/

namespace ModelSchema

/-- Whether a part of a branch can be repeated. -/
inductive PartKind where
  | ordinary
  | anchor
  | repetition
  deriving DecidableEq, Repr, Inhabited

/-- A part of a branch. -/
structure PatternPart where
  pattern : Pattern
  kind : PartKind
  deriving DecidableEq, Repr, Inhabited

/-- What a parenthesis opens. -/
inductive GroupStart where
  | comment
  | reference (pattern : Pattern)
  | globalFlags
  | capturing (name : Option String)
  | plain (on off : List Char)
  | atomic
  | ahead (negated : Bool)
  | behind (negated : Bool)
  | conditional (number : Nat)
  deriving DecidableEq, Repr, Inhabited

namespace PatternReader

/-! ### Flags -/

def flagLetters : List Char := "iLmsxatu".toList

/-- The flags that tell which alphabet counts. -/
def kindLetters : List Char := ['a', 'L', 'u']

/-- The flag that no group can turn on or off. -/
def globalLetter : Char := 't'

/-- A token that is no flag, where one may stand. -/
def notAFlag {α : Type} (token : List Char) (missing : PatternProblem) : PatternReader α :=
  let isLetter : Bool :=
    match token with
    | [c] => startsIdentifier c && c != '_'
    | _ => false
  fail (if isLetter then .unknownFlag else missing) token.length

/-- The flags that are turned on, from a letter on, and the token behind them. -/
def flagsOn : Nat → List Char → Char → PatternReader (List Char × Char)
  | 0, on, c => return (on, c)
  | fuel + 1, on, c => do
    if c = 'L' then fail .localeFlag 0
    else if kindLetters.contains c && on.any (fun d => kindLetters.contains d && d != c) then
      fail .incompatibleFlags 0
    else
      let on := if on.contains c then on else on ++ [c]
      match ← take with
      | none => fail .missingFlagEnd 0
      | some [d] =>
        if d = ')' || d = '-' || d = ':' then return (on, d)
        else if flagLetters.contains d then flagsOn fuel on d
        else notAFlag [d] .missingFlagEnd
      | some token => notAFlag token .missingFlagEnd

/-- The flags that are turned off, from a letter on, up to a colon. -/
def flagsOff : Nat → List Char → Char → PatternReader (List Char)
  | 0, off, _ => return off
  | fuel + 1, off, c => do
    if kindLetters.contains c then fail .turnedOffKind 0
    else
      let off := off ++ [c]
      match ← take with
      | none => fail .missingColon 0
      | some [d] =>
        if d = ':' then return off
        else if flagLetters.contains d then flagsOff fuel off d
        else notAFlag [d] .missingColon
      | some token => notAFlag token .missingColon

/-- Reads the flags that begin with a letter or a dash: for the whole pattern or for a group. -/
def flagGroup (first : Char) : PatternReader GroupStart := do
  let fuel := (← get).source.rest.length + 2
  let (on, c) ← if first = '-' then pure ([], '-') else flagsOn fuel [] first
  if c = ')' then
    modify fun state =>
      { state with flags := state.flags.change on [], flagLetters := state.flagLetters ++ on }
    return .globalFlags
  else if on.contains globalLetter then fail .turnedOnGlobal 1
  else
    let off ←
      if c != '-' then pure []
      else
        match ← take with
        | none => fail .missingFlag 0
        | some [d] =>
          if flagLetters.contains d then flagsOff fuel [] d else notAFlag [d] .missingFlag
        | some token => notAFlag token .missingFlag
    if off.contains globalLetter then fail .turnedOffGlobal 1
    else if on.any off.contains then fail .turnedOnAndOff 1
    else return .plain on off

/-! ### Starts of groups -/

/-- Reads the name of a group up to its terminator. -/
def groupName (terminator : Char) : PatternReader String := do
  let name ← name terminator "group name"
  if isIdentifier name then return name else fail (.badGroupName name) (name.length + 1)

/-- The number of the group with a name. -/
def numberOfName (name : String) : PatternReader Nat := do
  match (← get).groupNames.find? (·.1 = name) with
  | some (_, number) => return number
  | none => fail (.unknownGroupName name) (name.length + 1)

/-- The largest number that a group can have. -/
def groupLimit : Nat := 1073741823

/-- Reads the group that a condition asks for. -/
def condition : PatternReader GroupStart := do
  let name ← name ')' "group name"
  let back := name.length + 1
  let number ←
    if isIdentifier name then numberOfName name
    else
      match Numeral.integer 10 name with
      | .ok (.ofNat 0) => fail .zeroGroup back
      | .ok (.ofNat number) =>
        if groupLimit ≤ number then fail (.unknownGroup number) back
        else
          let place := (← position) - back
          modify fun state =>
            if state.conditions.any (·.1 = number) then state
            else { state with conditions := state.conditions ++ [(number, place)] }
          pure number
      | _ => fail (.badGroupName name) back
  checkBehind number
  return .conditional number

/-- Skips a comment that began at a position. -/
def skipComment (start : Nat) : Nat → PatternReader Unit
  | 0 => return
  | fuel + 1 => do
    match ← peek with
    | none => throw (.placed .unterminatedComment start)
    | some token =>
      advance
      if token = [')'] then return else skipComment start fuel

/-- Reads what stands behind a parenthesis at a position. -/
def groupStart (flags : PatternFlags) (start : Nat) : PatternReader GroupStart := do
  if !(← accept '?') then return .capturing none
  else
    match ← take with
    | none => fail .unexpectedEnd 0
    | some ['P'] =>
      if ← accept '<' then return .capturing (some (← groupName '>'))
      else if ← accept '=' then
        let name ← groupName ')'
        return .reference (← reference flags (← numberOfName name) (name.length + 1))
      else
        match ← take with
        | none => fail .unexpectedEnd 0
        | some token =>
          fail (.unknownExtension ("?P" ++ String.ofList token)) (token.length + 2)
    | some [':'] => return .plain [] []
    | some ['#'] =>
      skipComment start ((← get).source.rest.length + 2)
      return .comment
    | some ['='] => return .ahead false
    | some ['!'] => return .ahead true
    | some ['<'] =>
      match ← take with
      | none => fail .unexpectedEnd 0
      | some ['='] => return .behind false
      | some ['!'] => return .behind true
      | some token =>
        fail (.unknownExtension ("?<" ++ String.ofList token)) (token.length + 2)
    | some ['('] => condition
    | some ['>'] => return .atomic
    | some token =>
      match token with
      | [c] =>
        if flagLetters.contains c || c = '-' then flagGroup c
        else fail (.unknownExtension ("?" ++ String.ofList token)) (token.length + 1)
      | token => fail (.unknownExtension ("?" ++ String.ofList token)) (token.length + 1)

/-! ### Repetitions -/

/-- The number of repetitions that stands for no limit. -/
def repetitionLimit : Nat := 4294967295

/-- The number of some digits, if there are any. -/
def repetitionCount? (digits : List Char) : PatternReader (Option Nat) := do
  if digits.isEmpty then return none
  else if repetitionLimit ≤ digitsValue digits then throw .repetitionTooLarge
  else return some (digitsValue digits)

/-- The bounds of the repetition whose brace was just read. If there are none, the brace is a
character like others, and what was read behind it is read again. -/
def bounds : PatternReader (Option (Nat × Option Nat)) := do
  let before ← get
  let start := before.source.position
  let fuel := before.source.rest.length + 2
  if before.source.next = some ['\x7d'] then return none
  else
    let low ← takeWhile Char.isDigit fuel
    let high ← if ← accept ',' then takeWhile Char.isDigit fuel else pure low
    if ← accept '\x7d' then
      let least ← repetitionCount? low
      let most ← repetitionCount? high
      if most.any (· < least.getD 0) then throw (.placed .reversedRepeat start)
      else return some (least.getD 0, most)
    else
      set before
      return none

/-- Which of its matches a repetition prefers. -/
def greed : PatternReader Greed := do
  if ← accept '?' then return .lazy
  if ← accept '+' then return .possessive
  return .eager

/-- Repeats the last part of a branch. `length` is the length of the sign and `start` the position
behind it. -/
def repetition (least : Nat) (most : Option Nat) (length start : Nat) (parts : List PatternPart) :
    PatternReader (List PatternPart) := do
  match parts with
  | [] => throw (.placed .nothingToRepeat (start - length))
  | ⟨_, .anchor⟩ :: _ => throw (.placed .nothingToRepeat (start - length))
  | ⟨_, .repetition⟩ :: _ => throw (.placed .multipleRepeat (start - length))
  | ⟨body, .ordinary⟩ :: rest =>
    return ⟨.repeated body least most (← greed), .repetition⟩ :: rest

/-! ### Branches -/

/-- The parts of a branch, last part first, as one pattern. -/
def branchOf (parts : List PatternPart) : Pattern :=
  parts.foldl (fun behind part =>
    match behind with
    | .empty => part.pattern
    | behind => .sequence part.pattern behind) .empty

/-- Takes the parenthesis that closes a group which began at a position. -/
def closing (start : Nat) : PatternReader Unit := do
  if !(← accept ')') then throw (.placed .unterminatedGroup start)

/-- Skips the rest of a line. -/
def skipLine : Nat → PatternReader Unit
  | 0 => return
  | fuel + 1 => do
    match ← take with
    | none => return
    | some token => if token = ['\n'] then return else skipLine fuel

/-- What the signs between parts of branches stand for. -/
def signPart? (flags : PatternFlags) (c : Char) : Option PatternPart :=
  match c with
  | '^' => some ⟨.anchor (if flags.multiline then .lineStart else .textStart), .anchor⟩
  | '$' => some ⟨.anchor (if flags.multiline then .lineEnd else .beforeLastBreak), .anchor⟩
  | '.' => some ⟨.char (if flags.dotAll then .any else .withinLine), .ordinary⟩
  | _ => none

/-- The bounds of a repetition sign. -/
def signBounds? (c : Char) : Option (Nat × Option Nat) :=
  match c with
  | '?' => some (0, some 1)
  | '*' => some (0, none)
  | '+' => some (1, none)
  | _ => none

/-- Whether a character is skipped where blanks do not count. -/
def isSkippedBlank (c : Char) : Bool := CharKind.blank.holdsInAscii c

mutual

/-- The alternatives up to the end of a group or of the text. `top` tells that no group is around,
and `first` that the alternative is the first one. -/
def branches : Nat → PatternFlags → Bool → Bool → PatternReader Pattern
  | 0, _, _, _ => return .empty
  | fuel + 1, flags, top, first => do
    let branch ← parts fuel flags top (top && first) []
    if ← accept '|' then
      let whole ← get
      let flags := if top then whole.flags else flags
      return .choice branch (← branches fuel flags top false)
    else return branch

/-- The parts of a branch behind those that were read, which stand last first. Flags for the whole
pattern can stand only in front of the first part of all. -/
def parts : Nat → PatternFlags → Bool → Bool → List PatternPart → PatternReader Pattern
  | 0, _, _, _, read => return branchOf read
  | fuel + 1, flags, top, first, read => do
    match ← peek with
    | none | some ['|'] | some [')'] => return branchOf read
    | some ['\\', c] =>
      advance
      let pattern ← escape flags c
      let kind := if pattern matches .anchor _ then PartKind.anchor else .ordinary
      parts fuel flags top first (⟨pattern, kind⟩ :: read)
    | some [c] =>
      advance
      if flags.verbose && isSkippedBlank c then parts fuel flags top first read
      else if flags.verbose && c = '#' then
        skipLine fuel
        parts fuel flags top first read
      else
        match signPart? flags c, signBounds? c with
        | some part, _ => parts fuel flags top first (part :: read)
        | none, some (least, most) =>
          parts fuel flags top first (← repetition least most 1 (← position) read)
        | none, none =>
          if c = '\x7b' then
            let start ← position
            match ← bounds with
            | some (least, most) =>
              parts fuel flags top first (← repetition least most 1 start read)
            | none =>
              parts fuel flags top first (⟨.char (.single flags.caseRule c), .ordinary⟩ :: read)
          else if c = '[' then
            parts fuel flags top first (⟨.char (← charSet flags), .ordinary⟩ :: read)
          else if c = '(' then
            let start := (← position) - 1
            match ← groupStart flags start with
            | .comment => parts fuel flags top first read
            | .globalFlags =>
              if !first || !read.isEmpty then throw (.placed .lateFlags start)
              else parts fuel (← get).flags top first read
            | .reference pattern => parts fuel flags top first (⟨pattern, .ordinary⟩ :: read)
            | other =>
              let pattern ← group fuel flags start other
              parts fuel flags top first (⟨pattern, .ordinary⟩ :: read)
          else parts fuel flags top first (⟨.char (.single flags.caseRule c), .ordinary⟩ :: read)
    | some _ => return branchOf read

/-- The group that began at a position, behind its start. -/
def group : Nat → PatternFlags → Nat → GroupStart → PatternReader Pattern
  | 0, _, _, _ => return .empty
  | fuel + 1, flags, start, groupStart => do
    match groupStart with
    | .capturing name =>
      let number ← openGroup name
      let body ← branches fuel flags false true
      closing start
      closeGroup number body.width
      return .group number body
    | .atomic =>
      let body ← branches fuel flags false true
      closing start
      return .atomic body
    | .ahead negated =>
      let body ← branches fuel flags false true
      closing start
      return .ahead negated body
    | .behind negated =>
      let state ← get
      if state.behindLimit.isNone then
        modify fun state => { state with behindLimit := some (groupCount state) }
      let body ← branches fuel flags false true
      if state.behindLimit.isNone then modify fun state => { state with behindLimit := none }
      closing start
      return .behind negated body.width body
    | .conditional number =>
      let present ← parts fuel flags false false []
      let absent ←
        if ← accept '|' then do
          let absent ← parts fuel flags false false []
          if (← peek) = some ['|'] then fail .tooManyBranches 0
          pure absent
        else pure .empty
      closing start
      return .conditional number present absent
    | .plain on off =>
      let body ← branches fuel (flags.change on off) false true
      closing start
      return body
    | .comment | .reference _ | .globalFlags => return .empty

end

end PatternReader

namespace Pattern

/-- The name of a manner of repetition. -/
def repetitionName : Greed → String
  | .eager => "MAX_REPEAT"
  | .lazy => "MIN_REPEAT"
  | .possessive => "POSSESSIVE_REPEAT"

/-- What is wrong with a pattern as a whole: a look-behind without a width of its own, or a
repetition in a pattern that is only a template. -/
def problem? (template : Bool) : Pattern → Option PatternProblem
  | empty | char _ | anchor _ | reference .. => none
  | sequence first second | choice first second | conditional _ first second =>
    (first.problem? template).orElse fun _ => second.problem? template
  | repeated body _ _ greed =>
    if template then some (.templateRepeat (repetitionName greed)) else body.problem? template
  | group _ body | atomic body | ahead _ body => body.problem? template
  | behind _ width body =>
    if width.least = width.most then body.problem? template else some .variableBehind

/-- Reads a pattern and checks it as a whole. -/
def reader (fuel : Nat) : PatternReader Pattern := do
  let pattern ← PatternReader.branches fuel .none true true
  let state ← get
  if state.flagLetters.contains 'a' && state.flagLetters.contains 'u' then throw .twoAlphabets
  if state.source.next.isSome then PatternReader.fail .unbalancedGroup 0
  match state.conditions.find? fun (number, _) => PatternReader.groupCount state ≤ number with
  | some (number, place) => throw (.placed (.unknownGroup number) place)
  | none =>
    match pattern.problem? (state.flagLetters.contains PatternReader.globalLetter) with
    | some problem => throw (.unplaced problem)
    | none => return pattern

/-- The pattern of a text, or what is wrong with the text. -/
def ofText (text : String) : Except Fault Pattern :=
  let chars := text.toList
  let read : Except PatternError Pattern := do
    let source ← PatternSource.from_ 0 chars
    let (pattern, _) ← reader (3 * chars.length + 3) ⟨source, .none, [], [], [], none, []⟩
    return pattern
  read.mapError (PatternError.fault chars)

end Pattern

end ModelSchema
