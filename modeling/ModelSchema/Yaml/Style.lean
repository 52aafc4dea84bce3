import ModelSchema.Text.Quoted
import ModelSchema.Yaml.Resolution

/-!
How scalars are written.

* `ScalarTraits.of`: what there is in a text that forbids a way to write it.
* `ScalarStyle.choose`: plain if possible, else in single quotes, else in double quotes.
* `plainText`, `singleQuotedText`, `doubleQuotedText`, `literalText`: the ways to write a text.
  Long lines are folded at single spaces once they are longer than `lineWidth`.
-/

namespace ModelSchema

/-- The width after which a line is folded. -/
def lineWidth : Nat := 120

/-! ### Characters -/

def isLineBreak (c : Char) : Bool :=
  c = '\n' || c = '\u0085' || c = '\u2028' || c = '\u2029'

/-- Whether a character separates an indicator from what is around it. -/
def isSeparator (c : Char) : Bool :=
  c = '\u0000' || c = ' ' || c = '\t' || c = '\r' || isLineBreak c

/-- Whether a character can be written without an escape. -/
def isWritable (c : Char) : Bool :=
  let code := c.toNat
  c = '\n' || (0x20 ≤ code && code ≤ 0x7e) || c = '\u0085'
    || (0xa0 ≤ code && code ≤ 0xd7ff) || (0xe000 ≤ code && code ≤ 0xfffd && code ≠ 0xfeff)
    || (0x10000 ≤ code && code < 0x10ffff)

/-- The characters that mean something at the start of a plain scalar. -/
def leadingIndicators : List Char := "#,[]\x7b\x7d&*!|>'\"%@\x60".toList

/-! ### Traits -/

/-- What there is in a text that forbids a way to write it. -/
structure ScalarTraits where
  multiline : Bool
  blockPlain : Bool
  singleQuoted : Bool
  literal : Bool
  deriving DecidableEq, Repr, Inhabited

/-- What a scan of a text has met. -/
structure ScalarScan where
  indicator : Bool
  lineBreak : Bool
  special : Bool
  leadingGap : Bool
  trailingGap : Bool
  trailingSpace : Bool
  breakSpace : Bool
  spaceBreak : Bool
  deriving DecidableEq, Repr, Inhabited

namespace ScalarScan

def start : ScalarScan := ⟨false, false, false, false, false, false, false, false⟩

/-- Whether a character is an indicator where it stands. `before` is the character in front of it,
`after` the one behind it. -/
def isIndicator (before : Option Char) (c : Char) (after : Option Char) : Bool :=
  let open_ := after.all isSeparator
  match before with
  | none => leadingIndicators.contains c || ((c = '?' || c = ':' || c = '-') && open_)
  | some b => (c = ':' && open_) || (c = '#' && isSeparator b)

/-- Scans one character. -/
def step (scan : ScalarScan) (before : Option Char) (c : Char) (after : Option Char) :
    ScalarScan :=
  let space := c = ' '
  let lineBreak := isLineBreak c
  { indicator := scan.indicator || isIndicator before c after
    lineBreak := scan.lineBreak || lineBreak
    special := scan.special || !isWritable c
    leadingGap := scan.leadingGap || (before.isNone && (space || lineBreak))
    trailingGap := scan.trailingGap || (after.isNone && (space || lineBreak))
    trailingSpace := scan.trailingSpace || (after.isNone && space)
    breakSpace := scan.breakSpace || (space && before.any isLineBreak)
    spaceBreak := scan.spaceBreak || (lineBreak && before = some ' ') }

/-- Scans the rest of a text behind a character. -/
def scanFrom (scan : ScalarScan) (before : Option Char) : List Char → ScalarScan
  | [] => scan
  | c :: rest => scanFrom (scan.step before c rest.head?) (some c) rest

end ScalarScan

namespace ScalarTraits

/-- Whether a text begins like the mark between documents. -/
def isDocumentMark : List Char → Bool
  | '-' :: '-' :: '-' :: _ => true
  | '.' :: '.' :: '.' :: _ => true
  | _ => false

/-- The traits of a text. -/
def of (text : List Char) : ScalarTraits :=
  if text.isEmpty then ⟨false, true, true, false⟩
  else
    let scan := ScalarScan.start.scanFrom none text
    let plain := !(isDocumentMark text || scan.indicator || scan.lineBreak || scan.leadingGap
      || scan.trailingGap || scan.breakSpace || scan.spaceBreak || scan.special)
    { multiline := scan.lineBreak
      blockPlain := plain
      singleQuoted := !(scan.breakSpace || scan.spaceBreak || scan.special)
      literal := !(scan.trailingSpace || scan.spaceBreak || scan.special) }

end ScalarTraits

/-! ### Styles -/

/-- The ways to write a scalar. -/
inductive ScalarStyle where
  | plain
  | singleQuoted
  | doubleQuoted
  | literal
  deriving DecidableEq, Repr, Inhabited

namespace ScalarStyle

/-- The style of a scalar. A key of one line allows for no line breaks. -/
def choose (tag : YamlTag) (text : String) (asKey : Bool) : ScalarStyle :=
  let traits := ScalarTraits.of text.toList
  if tag = .binary then
    if !asKey && traits.literal then .literal else .doubleQuoted
  else if YamlTag.ofPlain text = tag && traits.blockPlain
      && !(asKey && (text.isEmpty || traits.multiline)) then .plain
  else if traits.singleQuoted && !(asKey && traits.multiline) then .singleQuoted
  else .doubleQuoted

/-- Whether the kind of a scalar follows from how it is written. -/
def impliesTag (style : ScalarStyle) (tag : YamlTag) (text : String) : Bool :=
  match style with
  | .plain => YamlTag.ofPlain text = tag
  | _ => tag = .str

end ScalarStyle

/-! ### Writing -/

/-- A line break and the indentation behind it. -/
def newline (indent : Nat) : List Char := '\n' :: List.replicate indent ' '

/-- Writes the rest of a plain scalar. `before` is the character in front of it. -/
def plainFrom (fold : Nat) (split : Bool) (column : Nat) (before : Option Char) :
    List Char → List Char
  | [] => []
  | c :: rest =>
    if c = ' ' && split && before != some ' ' && rest.head? != some ' ' && lineWidth < column then
      newline fold ++ plainFrom fold split fold (some c) rest
    else c :: plainFrom fold split (column + 1) (some c) rest

/-- A plain scalar. `fold` is the indentation of further lines. -/
def plainText (fold : Nat) (split : Bool) (column : Nat) (text : List Char) : List Char :=
  plainFrom fold split column none text

/-- Writes the rest of a scalar in single quotes. Line breaks are doubled at the start of a run of
them, and a quote is doubled. -/
def singleQuotedFrom (fold : Nat) (split : Bool) (column : Nat) (before : Option Char) :
    List Char → List Char
  | [] => ['\'']
  | c :: rest =>
    if c = ' ' then
      if split && before.isSome && before != some ' ' && !rest.isEmpty && rest.head? != some ' '
          && lineWidth < column then
        newline fold ++ singleQuotedFrom fold split fold (some c) rest
      else c :: singleQuotedFrom fold split (column + 1) (some c) rest
    else if isLineBreak c then
      let first := if c = '\n' && !before.any isLineBreak then ['\n'] else []
      let last := if rest.head?.any isLineBreak then [] else List.replicate fold ' '
      first ++ c :: last ++ singleQuotedFrom fold split fold (some c) rest
    else if c = '\'' then '\'' :: '\'' :: singleQuotedFrom fold split (column + 2) (some c) rest
    else c :: singleQuotedFrom fold split (column + 1) (some c) rest

/-- A scalar in single quotes. -/
def singleQuotedText (fold : Nat) (split : Bool) (column : Nat) (text : List Char) : List Char :=
  '\'' :: singleQuotedFrom fold split (column + 1) none text

/-- A number in upper-case hexadecimal, filled with zeros to a width. -/
def hexUpper (width n : Nat) : List Char := (hexPadded width n).map Char.toUpper

/-- Whether a character is written as an escape in double quotes. -/
def isEscaped (c : Char) : Bool :=
  let code := c.toNat
  c = '"' || c = '\\' || c = '\u0085' || c = '\u2028' || c = '\u2029' || code = 0xfeff
    || !((0x20 ≤ code && code ≤ 0x7e) || (0xa0 ≤ code && code ≤ 0xd7ff)
      || (0xe000 ≤ code && code ≤ 0xfffd))

/-- The escapes that are one letter. -/
def letterEscapes : List (Nat × Char) :=
  [(0x00, '0'), (0x07, 'a'), (0x08, 'b'), (0x09, 't'), (0x0a, 'n'), (0x0b, 'v'), (0x0c, 'f'),
    (0x0d, 'r'), (0x1b, 'e'), (0x22, '"'), (0x5c, '\\'), (0x85, 'N'), (0xa0, '_'), (0x2028, 'L'),
    (0x2029, 'P')]

/-- The escape of a character. -/
def escapeOf (c : Char) : List Char :=
  let code := c.toNat
  match letterEscapes.find? (·.1 = code) with
  | some (_, letter) => ['\\', letter]
  | none =>
    if code ≤ 0xff then ['\\', 'x'] ++ hexUpper 2 code
    else if code ≤ 0xffff then ['\\', 'u'] ++ hexUpper 4 code
    else ['\\', 'U'] ++ hexUpper 8 code

/-- A folded line in double quotes. A space at the start of the next line is escaped. -/
def escapedNewline (fold : Nat) (next : Option Char) : List Char :=
  '\\' :: newline fold ++ if next = some ' ' then ['\\'] else []

/-- The column behind `escapedNewline`. -/
def columnBehind (fold : Nat) (next : Option Char) : Nat :=
  if next = some ' ' then fold + 1 else fold

/-- Writes the rest of a scalar in double quotes. `run` counts the characters since the last escape
or fold; the column is the one in front of them. -/
def doubleQuotedFrom (fold : Nat) (split first : Bool) (column run : Nat) :
    List Char → List Char
  | [] => ['"']
  | c :: rest =>
    let mayFold := split && !first && !rest.isEmpty
    if isEscaped c then
      let escape := escapeOf c
      let column := column + run + escape.length
      if mayFold && lineWidth + 1 < column then
        escape ++ escapedNewline fold rest.head?
          ++ doubleQuotedFrom fold split false (columnBehind fold rest.head?) 0 rest
      else escape ++ doubleQuotedFrom fold split false column 0 rest
    else if mayFold && (c = ' ' || run = 0) && lineWidth < column + run then
      escapedNewline fold (some c)
        ++ c :: doubleQuotedFrom fold split false (columnBehind fold (some c)) 1 rest
    else c :: doubleQuotedFrom fold split false column (run + 1) rest

/-- A scalar in double quotes. -/
def doubleQuotedText (fold : Nat) (split : Bool) (column : Nat) (text : List Char) : List Char :=
  '"' :: doubleQuotedFrom fold split true (column + 1) 0 text

/-- The lines of a literal scalar, each of which ends with a line break. -/
def literalFrom (indent : Nat) (atStart : Bool) : List Char → List Char
  | [] => if atStart then [] else ['\n']
  | c :: rest =>
    if isLineBreak c then c :: literalFrom indent true rest
    else if atStart then List.replicate indent ' ' ++ c :: literalFrom indent false rest
    else c :: literalFrom indent false rest

/-- A literal scalar that ends with one line break. -/
def literalText (indent : Nat) (text : List Char) : List Char :=
  '|' :: '\n' :: literalFrom indent true text

end ModelSchema
