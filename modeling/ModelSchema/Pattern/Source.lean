import ModelSchema.Failure
import ModelSchema.Number.Numeral
import ModelSchema.Pattern.Basic
import ModelSchema.Text.Identifier

/-!
Reading the text of a pattern token by token.

* `PatternProblem`: what is wrong with the text; a `PatternError` has the position of the character
  at which it is noticed.
* `PatternSource`: the tokens that are still to be read. A token is a character, or a backslash with
  the character behind it.
* `PatternFlags`: what is asked for by flags, for the whole pattern or in a group.
* `PatternReader`: reading with an eye on the groups that were met so far.
-/

namespace ModelSchema

/-! ### Problems -/

/-- What is wrong with the text of a pattern. -/
inductive PatternProblem where
  | badEscape (text : String)
  | incompleteEscape (text : String)
  | danglingEscape
  | octalEscape (text : String)
  | missingBrace
  | unknownCharacter (name : String)
  | unexpectedEnd
  | unterminatedSet
  | badRange (text : String)
  | unknownExtension (text : String)
  | unterminatedComment
  | unterminatedGroup
  | unbalancedGroup
  | missingName (what : String)
  | unterminatedName (terminator : Char)
  | badGroupName (name : String)
  | unknownGroupName (name : String)
  | repeatedGroupName (name : String) (number first : Nat)
  | unknownGroup (number : Nat)
  | zeroGroup
  | openGroup
  | groupWithinBehind
  | tooManyBranches
  | nothingToRepeat
  | multipleRepeat
  | reversedRepeat
  | missingFlagEnd
  | missingFlag
  | missingColon
  | unknownFlag
  | localeFlag
  | incompatibleFlags
  | turnedOffKind
  | turnedOnGlobal
  | turnedOffGlobal
  | turnedOnAndOff
  | lateFlags
  | variableBehind
  | templateRepeat (name : String)
  deriving DecidableEq, Repr, Inhabited

def PatternProblem.text : PatternProblem → String
  | badEscape text => "bad escape " ++ text
  | incompleteEscape text => "incomplete escape " ++ text
  | danglingEscape => "bad escape (end of pattern)"
  | octalEscape text => s!"octal escape value {text} outside of range 0-0o377"
  | missingBrace => "missing \x7b"
  | unknownCharacter name => s!"undefined character name {quoted name}"
  | unexpectedEnd => "unexpected end of pattern"
  | unterminatedSet => "unterminated character set"
  | badRange text => "bad character range " ++ text
  | unknownExtension text => "unknown extension " ++ text
  | unterminatedComment => "missing ), unterminated comment"
  | unterminatedGroup => "missing ), unterminated subpattern"
  | unbalancedGroup => "unbalanced parenthesis"
  | missingName what => "missing " ++ what
  | unterminatedName terminator => "missing " ++ terminator.toString ++ ", unterminated name"
  | badGroupName name => s!"bad character in group name {quoted name}"
  | unknownGroupName name => s!"unknown group name {quoted name}"
  | repeatedGroupName name number first =>
    s!"redefinition of group name {quoted name} as group {number}; was group {first}"
  | unknownGroup number => s!"invalid group reference {number}"
  | zeroGroup => "bad group number"
  | openGroup => "cannot refer to an open group"
  | groupWithinBehind => "cannot refer to group defined in the same lookbehind subpattern"
  | tooManyBranches => "conditional backref with more than two branches"
  | nothingToRepeat => "nothing to repeat"
  | multipleRepeat => "multiple repeat"
  | reversedRepeat => "min repeat greater than max repeat"
  | missingFlagEnd => "missing -, : or )"
  | missingFlag => "missing flag"
  | missingColon => "missing :"
  | unknownFlag => "unknown flag"
  | localeFlag => "bad inline flags: cannot use 'L' flag with a str pattern"
  | incompatibleFlags => "bad inline flags: flags 'a', 'u' and 'L' are incompatible"
  | turnedOffKind => "bad inline flags: cannot turn off flags 'a', 'u' and 'L'"
  | turnedOnGlobal => "bad inline flags: cannot turn on global flag"
  | turnedOffGlobal => "bad inline flags: cannot turn off global flag"
  | turnedOnAndOff => "bad inline flags: flag turned on and off"
  | lateFlags => "global flags not at the start of the expression"
  | variableBehind => "look-behind requires fixed-width pattern"
  | templateRepeat name => "internal: unsupported template operator " ++ name

/-- What is wrong with a pattern, and where. -/
inductive PatternError where
  | placed (problem : PatternProblem) (position : Nat)
  | unplaced (problem : PatternProblem)
  /-- a number of repetitions is too large -/
  | repetitionTooLarge
  /-- the pattern asks for ASCII and for all of Unicode -/
  | twoAlphabets
  /-- an escape has the code of no character -/
  | noCharacter (code : Nat)
  deriving DecidableEq, Repr, Inhabited

/-- The position of a problem in a text, in a text of several lines with line and column. -/
def patternPlace (text : List Char) (position : Nat) : String :=
  let before := text.take position
  let line := before.count '\n' + 1
  let column := (before.reverse.takeWhile (· != '\n')).length + 1
  s!" at position {position}"
    ++ if text.contains '\n' then s!" (line {line}, column {column})" else ""

/-- The error in the text of a pattern as a cause of failures. -/
def PatternError.fault (text : List Char) : PatternError → Fault
  | placed problem position => .other "error" (problem.text ++ patternPlace text position)
  | unplaced problem => .other "error" problem.text
  | repetitionTooLarge => .other "OverflowError" "the repetition number is too large"
  | twoAlphabets => .other "ValueError" "ASCII and UNICODE flags are incompatible"
  | noCharacter code => .noCharacter code

/-! ### Sources -/

/-- The next token with its position, and the text behind it. -/
structure PatternSource where
  next : Option (List Char)
  position : Nat
  rest : List Char
  deriving DecidableEq, Repr, Inhabited

/-- What is asked for by flags. -/
structure PatternFlags where
  ignoreCase : Bool
  multiline : Bool
  dotAll : Bool
  verbose : Bool
  ascii : Bool
  deriving DecidableEq, Repr, Inhabited

/-- What is known of a pattern that is being read. The widths of the groups begin with that of group
1; a group that is open has none yet. `flags` and `flagLetters` are those of the whole pattern.
`behindLimit` is the number of groups in front of the outermost look-behind around the current
place, and `conditions` are the groups that conditions ask for by number, with their positions. -/
structure PatternState where
  source : PatternSource
  flags : PatternFlags
  flagLetters : List Char
  groupNames : List (String × Nat)
  groupWidths : List (Option MatchWidth)
  behindLimit : Option Nat
  conditions : List (Nat × Nat)
  deriving Repr, Inhabited

/-- Reading a pattern. -/
abbrev PatternReader (α : Type) := StateT PatternState (Except PatternError) α

namespace PatternSource

/-- The source from a position on. A backslash needs a character behind it. -/
def from_ (position : Nat) : List Char → Except PatternError PatternSource
  | [] => .ok ⟨none, position, []⟩
  | ['\\'] => .error (.placed .danglingEscape position)
  | '\\' :: c :: rest => .ok ⟨some ['\\', c], position, rest⟩
  | c :: rest => .ok ⟨some [c], position, rest⟩

/-- The source behind the next token. -/
def advance (source : PatternSource) : Except PatternError PatternSource :=
  from_ (source.position + (source.next.getD []).length) source.rest

end PatternSource

namespace PatternFlags

def none : PatternFlags := ⟨false, false, false, false, false⟩

/-- The flags with some letters turned on and others turned off. -/
def change (flags : PatternFlags) (on off : List Char) : PatternFlags :=
  let value (letter : Char) (before : Bool) : Bool :=
    (before || on.contains letter) && !off.contains letter
  { ignoreCase := value 'i' flags.ignoreCase
    multiline := value 'm' flags.multiline
    dotAll := value 's' flags.dotAll
    verbose := value 'x' flags.verbose
    ascii := on.contains 'a' || (flags.ascii && !on.contains 'u') }

/-- How case counts. -/
def caseRule (flags : PatternFlags) : CaseRule :=
  if !flags.ignoreCase then .exact else if flags.ascii then .asciiFolded else .folded

end PatternFlags

namespace PatternReader

/-! ### Tokens -/

/-- The next token. -/
def peek : PatternReader (Option (List Char)) := return (← get).source.next

/-- The position of the next token. -/
def position : PatternReader Nat := return (← get).source.position

/-- Takes the next token away. -/
def advance : PatternReader Unit := do
  let state ← get
  set { state with source := (← state.source.advance) }

/-- Takes the next token. -/
def take : PatternReader (Option (List Char)) := do
  let token ← peek
  advance
  return token

/-- Takes the next token away if it is a character. -/
def accept (c : Char) : PatternReader Bool := do
  if (← peek) = some [c] then
    advance
    return true
  else return false

/-- A problem that is noticed some characters before the next token. -/
def fail {α : Type} (problem : PatternProblem) (back : Nat) : PatternReader α := do
  throw (.placed problem ((← position) - back))

/-- Takes up to a number of characters that satisfy a condition. -/
def takeWhile (condition : Char → Bool) : Nat → PatternReader (List Char)
  | 0 => return []
  | count + 1 => do
    match ← peek with
    | some [c] =>
      if condition c then
        advance
        return c :: (← takeWhile condition count)
      else return []
    | _ => return []

/-- Takes the tokens up to a terminator, which is taken away. `length` counts the characters read so
far. -/
def upToWithin (terminator : Char) (what : String) : Nat → Nat → PatternReader (List Char)
  | 0, _ => return []
  | fuel + 1, length => do
    match ← take with
    | none =>
      if length = 0 then fail (.missingName what) 0
      else fail (.unterminatedName terminator) length
    | some token =>
      if token = [terminator] then
        if length = 0 then fail (.missingName what) 1 else return []
      else return token ++ (← upToWithin terminator what fuel (length + token.length))

/-- Takes a name up to its terminator. -/
def name (terminator : Char) (what : String) : PatternReader String := do
  let fuel := (← get).source.rest.length + 2
  return String.ofList (← upToWithin terminator what fuel 0)

/-! ### Groups -/

/-- The number that the next group gets. -/
def groupCount (state : PatternState) : Nat := state.groupWidths.length + 1

/-- The width of a group that is closed. -/
def groupWidth? (state : PatternState) (number : Nat) : Option MatchWidth :=
  if number = 0 then none else (state.groupWidths[number - 1]?).join

/-- Opens a group, which may have a name. -/
def openGroup (name : Option String) : PatternReader Nat := do
  let state ← get
  let number := groupCount state
  let names ←
    match name with
    | none => pure state.groupNames
    | some name =>
      match state.groupNames.find? (·.1 = name) with
      | some (_, first) => fail (.repeatedGroupName name number first) (name.length + 1)
      | none => pure (state.groupNames ++ [(name, number)])
  set { state with groupNames := names, groupWidths := state.groupWidths ++ [none] }
  return number

/-- Closes a group. -/
def closeGroup (number : Nat) (width : MatchWidth) : PatternReader Unit :=
  modify fun state =>
    { state with groupWidths := state.groupWidths.set (number - 1) (some width) }

/-- A group inside of a look-behind can be referred to only if it is closed in front of it. -/
def checkBehind (number : Nat) : PatternReader Unit := do
  let state ← get
  match state.behindLimit with
  | none => return
  | some limit =>
    if (groupWidth? state number).isNone then fail .openGroup 0
    else if limit ≤ number then fail .groupWithinBehind 0

/-- A reference to a group, which has to be closed. `back` is the length of what was read of it. -/
def reference (flags : PatternFlags) (number back : Nat) : PatternReader Pattern := do
  match groupWidth? (← get) number with
  | none => fail .openGroup back
  | some width =>
    checkBehind number
    return .reference number width flags.caseRule

end PatternReader

end ModelSchema
