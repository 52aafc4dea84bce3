import ModelSchema.Failure

/-!
Reading dates and times in the forms of ISO 8601.

* `Date.ofText`: a day by month or by week, with or without hyphens.
* `Clock.ofText`: a time of day with an optional offset, with or without colons.
* `DateTime.ofText`: a day, or a day and a time with any one character between them.

Numbers out of range are faults of the calendar. Everything else that is refused is named in full.
-/

namespace ModelSchema

/-- A text that is no date and no time. -/
def notIso (text : String) : Fault := valueFault s!"Invalid isoformat string: {quoted text}"

/-! ### Days -/

namespace Date

/-- The day of the week of a date, from 0 for Monday. -/
def weekday (d : Date) : Int := (d.dayNumber + 3) % 7

/-- Whether a year has a week. The weeks of a year begin with the one that holds its first Thursday;
a fifty-third one is there when the year begins with a Thursday, or is a leap year that begins with
a Wednesday. -/
def hasWeek (year week : Nat) : Bool :=
  let first := weekday ⟨year, 1, 1⟩
  (0 < week && week < 53) || (week = 53 && (first = 3 || (first = 2 && isLeap year)))

/-- The day of a week of a year, or nothing if there is none. A week of the year zero has no month.
-/
def ofWeek? (year week day : Nat) : Option (Except CalendarError Date) :=
  if !hasWeek year week || day = 0 || 7 < day then none
  else if year = 0 then if week = 53 then none else some (.error .month)
  else
    let first : Date := ⟨year, 1, 1⟩
    let monday := first.dayNumber - first.weekday + if 3 < first.weekday then 7 else 0
    let date := ofDayNumber (monday + (week - 1) * 7 + (day - 1))
    some (make date.year date.month date.day)

/-- The rest of a text behind a hyphen, where the parts are separated by hyphens. -/
def dropHyphen? (separated : Bool) (text : List Char) : Option (List Char) :=
  if separated then dropChar? '-' text else some text

/-- Reads the date that stands in front of a place in a text. A week without a day means its
Monday. -/
def ofChars? (place : Nat) (text : List Char) : Option (Except CalendarError Date) := do
  let (year, rest) ← digits? 4 text
  let separated := rest.head? = some '-'
  let rest := if separated then rest.drop 1 else rest
  match rest with
  | 'W' :: rest =>
    let (week, rest) ← digits? 2 rest
    if text.length - rest.length < place then
      let (day, _) ← digits? 1 (← dropHyphen? separated rest)
      ofWeek? year week day
    else ofWeek? year week 1
  | rest =>
    let (month, rest) ← digits? 2 rest
    let (day, _) ← digits? 2 (← dropHyphen? separated rest)
    return make year month day

/-- Reads a date. Its length is counted in bytes. -/
def ofText (text : String) : Except Fault Date :=
  if [7, 8, 10].contains text.utf8ByteSize then
    match ofChars? text.length text.toList with
    | some date => date.mapError .calendar
    | none => .error (notIso text)
  else .error (notIso text)

end Date

/-! ### Times of day -/

/-- The numbers of a time of day as they are written. -/
structure ClockNumbers where
  hour : Nat
  minute : Nat
  second : Nat
  microsecond : Nat
  deriving DecidableEq, Repr, Inhabited

namespace ClockNumbers

/-- The numbers of two digits each that were found, and the fraction of a second. -/
def ofFields (fields : List Nat) (microsecond : Nat) : ClockNumbers :=
  ⟨fields.getD 0 0, fields.getD 1 0, fields.getD 2 0, microsecond⟩

/-- The seconds from midnight. -/
def totalSeconds (n : ClockNumbers) : Nat := (n.hour * 60 + n.minute) * 60 + n.second

/-- Reads the fraction behind some fields. All but six digits are ignored. The result tells whether
something is left; `followed` says that the text goes on behind this part. -/
def fraction? (followed : Bool) (fields : List Nat) (text : List Char) :
    Option (ClockNumbers × Bool) :=
  let digits := text.take 6
  if digits.all Char.isDigit then
    let rest := (text.drop 6).dropWhile Char.isDigit
    some (ofFields fields (fractionMicroseconds digits), followed || !rest.isEmpty)
  else none

/-- Reads up to `count` fields of two digits, and a fraction behind them. There are colons between
all fields or none, which the first field decides. A single character of ASCII may be left behind a
field. -/
def fields? (followed : Bool) : Nat → Option Bool → List Nat → List Char →
    Option (ClockNumbers × Bool)
  | 0, _, fields, text => fraction? followed fields text
  | count + 1, separated, fields, text => do
    let (value, rest) ← digits? 2 text
    let fields := fields ++ [value]
    match rest with
    | [] => some (ofFields fields 0, followed)
    | c :: after =>
      let separated := separated.getD (c = ':')
      if after.isEmpty && c.toNat < 0x80 then some (ofFields fields 0, true)
      else if separated && c = ':' then fields? followed count (some separated) fields after
      else if c = '.' || c = ',' then fraction? followed fields after
      else if separated then none
      else fields? followed count (some separated) fields rest

/-- Reads the numbers of a time of day. -/
def ofChars? (followed : Bool) (text : List Char) : Option (ClockNumbers × Bool) :=
  fields? followed 3 none [] text

end ClockNumbers

namespace Clock

def isZoneSign (c : Char) : Bool := c = '+' || c = '-' || c = 'Z'

/-- The numbers of a time of day and its offset in microseconds. Behind an offset nothing may be
left, while in front of one a remainder does not count. An offset of less than a second is none. -/
def numbers? (text : List Char) : Option (ClockNumbers × Option Int) := do
  let wall := text.takeWhile fun c => !isZoneSign c
  let zone := text.drop wall.length
  let (numbers, isLonger) ← ClockNumbers.ofChars? (!zone.isEmpty) wall
  match zone with
  | [] => if isLonger then none else some (numbers, none)
  | sign :: rest =>
    if sign = 'Z' then if rest.isEmpty then some (numbers, some 0) else none
    else
      let (offset, isLonger) ← ClockNumbers.ofChars? false rest
      let size : Int :=
        if offset.totalSeconds = 0 then 0
        else offset.totalSeconds * 1000000 + offset.microsecond
      if isLonger then none else some (numbers, some (if sign = '-' then -size else size))

/-- Checks that an offset is shorter than a day. -/
def checkOffset (offset : Option Int) : Except Fault Unit :=
  match offset with
  | some offset =>
    if offset.natAbs < 86400000000 then .ok ()
    else .error (.offsetOutOfRange (.ofMicroseconds offset))
  | none => .ok ()

/-- The time of day of some numbers. -/
def ofNumbers (numbers : ClockNumbers) (offset : Option Int) : Except CalendarError Clock :=
  make numbers.hour numbers.minute numbers.second numbers.microsecond offset

/-- Reads a time of day, in front of which a `T` may stand. -/
def ofText (text : String) : Except Fault Clock := do
  let chars :=
    match text.toList with
    | 'T' :: rest => rest
    | chars => chars
  match numbers? chars with
  | some (numbers, offset) =>
    checkOffset offset
    (ofNumbers numbers offset).mapError .calendar
  | none => .error (notIso text)

end Clock

/-! ### Days with times -/

namespace DateTime

/-- Where the date ends in a text of a date and a time. Hyphens in the date and the letter for weeks
tell how long it is; where a week may have a day or not, the number of digits decides. -/
def datePlace (text : List Char) : Nat :=
  if text.length = 7 then 7
  else
    match text.drop 4 with
    | '-' :: 'W' :: rest =>
      if rest[2]? != some '-' then 8
      else if (rest[4]?).any Char.isDigit then 8
      else 10
    | '-' :: _ => 10
    | 'W' :: rest =>
      let place := 7 + ((rest.drop 2).takeWhile Char.isDigit).length
      if place < 9 then place else if place % 2 = 0 then 7 else 8
    | _ => 8

/-- Reads a date, or a date and a time of day. -/
def ofText (text : String) : Except Fault DateTime := do
  let chars := text.toList
  let place := datePlace chars
  let numbers :=
    if chars.length ≤ place then some (⟨0, 0, 0, 0⟩, none)
    else Clock.numbers? (chars.drop (place + 1))
  match Date.ofChars? place chars, numbers with
  | some date, some (numbers, offset) =>
    if chars.length < 7 then .error (notIso text)
    else
      Clock.checkOffset offset
      let date ← date.mapError .calendar
      let clock ← (Clock.ofNumbers numbers offset).mapError .calendar
      return ⟨date, clock⟩
  | _, _ => .error (notIso text)

end DateTime

end ModelSchema
