/-!
Dates and clock times of the proleptic Gregorian calendar.

* `Date.dayNumber`: days from 1970-01-01, the same count before and after that day.
* `Date.iso`, `Clock.iso`, `DateTime.iso`: the ISO 8601 forms.
* `DateTime.microseconds`: microseconds from the epoch to a moment; a time without an offset is
  read as UTC.
-/

namespace ModelSchema

/-- A calendar day. -/
structure Date where
  year : Nat
  month : Nat
  day : Nat
  deriving DecidableEq, Repr, Inhabited

/-- A time of day, with the offset from UTC in microseconds when one is known. -/
structure Clock where
  hour : Nat
  minute : Nat
  second : Nat
  microsecond : Nat
  offset : Option Int
  deriving DecidableEq, Repr, Inhabited

/-- A day and a time of day. -/
structure DateTime where
  date : Date
  clock : Clock
  deriving DecidableEq, Repr, Inhabited

/-- A number in decimal, filled with zeros on the left to a width. -/
def padded (width n : Nat) : String :=
  let digits := Nat.toDigits 10 n
  String.ofList (List.replicate (width - digits.length) '0' ++ digits)

/-- Why numbers do not make a date or a time. -/
inductive CalendarError where
  | year (found : Nat)
  | month
  | day
  | hour
  | minute
  | second
  deriving DecidableEq, Repr

def CalendarError.message : CalendarError → String
  | .year found => s!"year {found} is out of range"
  | .month => "month must be in 1..12"
  | .day => "day is out of range for month"
  | .hour => "hour must be in 0..23"
  | .minute => "minute must be in 0..59"
  | .second => "second must be in 0..59"

namespace Date

def isLeap (year : Nat) : Bool := year % 4 = 0 && (year % 100 ≠ 0 || year % 400 = 0)

def daysInMonth (year month : Nat) : Nat :=
  if month = 2 then (if isLeap year then 29 else 28)
  else if month = 4 ∨ month = 6 ∨ month = 9 ∨ month = 11 then 30
  else 31

/-- A date, or the first of its parts that is out of range. -/
def make (year month day : Nat) : Except CalendarError Date :=
  if year = 0 ∨ 9999 < year then .error (.year year)
  else if month = 0 ∨ 12 < month then .error .month
  else if day = 0 ∨ daysInMonth year month < day then .error .day
  else .ok ⟨year, month, day⟩

/-- Days before the first of January of a year, counted from the start of year 1. -/
def daysBeforeYear (year : Nat) : Nat :=
  let y := year - 1
  y * 365 + y / 4 - y / 100 + y / 400

def daysBeforeMonth (year month : Nat) : Nat :=
  (List.range (month - 1)).foldl (fun days m => days + daysInMonth year (m + 1)) 0

/-- Days from 1970-01-01. -/
def dayNumber (d : Date) : Int :=
  (daysBeforeYear d.year + daysBeforeMonth d.year d.month + d.day : Int) - 719163

/-- The date that is some days after 1970-01-01. Years are counted from March, so that a leap day
comes last, in cycles of 400 years. -/
def ofDayNumber (days : Int) : Date :=
  let fromMarch := days + 719468
  let cycle := fromMarch / 146097
  let day := (fromMarch % 146097).toNat
  let year := (day - day / 1460 + day / 36524 - day / 146096) / 365
  let dayOfYear := day - (365 * year + year / 4 - year / 100)
  let month := (5 * dayOfYear + 2) / 153
  let isEarly := 10 ≤ month
  ⟨(cycle * 400 + year + if isEarly then 1 else 0).toNat,
    if isEarly then month - 9 else month + 3, dayOfYear - (153 * month + 2) / 5 + 1⟩

/-- The ISO 8601 text `YYYY-MM-DD`. -/
def iso (d : Date) : String :=
  s!"{padded 4 d.year}-{padded 2 d.month}-{padded 2 d.day}"

end Date

namespace Clock

/-- A time without an offset, or the first of its parts that is out of range. -/
def make (hour minute second microsecond : Nat) (offset : Option Int) :
    Except CalendarError Clock :=
  if 23 < hour then .error .hour
  else if 59 < minute then .error .minute
  else if 59 < second then .error .second
  else .ok ⟨hour, minute, second, microsecond, offset⟩

def midnight : Clock := ⟨0, 0, 0, 0, none⟩

/-- Microseconds since midnight on the clock's own wall. -/
def sinceMidnight (c : Clock) : Int :=
  ((c.hour * 60 + c.minute) * 60 + c.second) * 1000000 + c.microsecond

/-- The text of an offset: `+HH:MM`, with seconds and microseconds only where they are not zero. -/
def offsetText (offset : Int) : String :=
  let total := offset.natAbs
  let seconds := total / 1000000
  let micros := total % 1000000
  let base := s!"{padded 2 (seconds / 3600)}:{padded 2 (seconds / 60 % 60)}"
  let tail :=
    if micros ≠ 0 then s!":{padded 2 (seconds % 60)}.{padded 6 micros}"
    else if seconds % 60 ≠ 0 then s!":{padded 2 (seconds % 60)}"
    else ""
  (if offset < 0 then "-" else "+") ++ base ++ tail

/-- The ISO 8601 text without the offset; microseconds are written only when they are not zero. -/
def wallText (c : Clock) : String :=
  let base := s!"{padded 2 c.hour}:{padded 2 c.minute}:{padded 2 c.second}"
  if c.microsecond = 0 then base else s!"{base}.{padded 6 c.microsecond}"

/-- The ISO 8601 text. -/
def iso (c : Clock) : String :=
  c.wallText ++ (match c.offset with
    | some offset => offsetText offset
    | none => "")

end Clock

namespace DateTime

/-- Microseconds from 1970-01-01T00:00:00 UTC; a time without an offset is read as UTC. -/
def microseconds (t : DateTime) : Int :=
  t.date.dayNumber * 86400000000 + t.clock.sinceMidnight - t.clock.offset.getD 0

/-- The ISO 8601 text with the given character between date and time. -/
def iso (separator : Char) (t : DateTime) : String :=
  t.date.iso ++ String.singleton separator ++ t.clock.iso

end DateTime

/-! ### Reading digits -/

/-- Exactly `count` ASCII digits from the start of a text. -/
def digits? (count : Nat) (text : List Char) : Option (Nat × List Char) :=
  let head := text.take count
  if head.length = count ∧ head.all Char.isDigit then
    some (head.foldl (fun n c => n * 10 + (c.toNat - '0'.toNat)) 0, text.drop count)
  else none

/-- The rest of a text behind one expected character. -/
def dropChar? (expected : Char) : List Char → Option (List Char)
  | c :: rest => if c = expected then some rest else none
  | [] => none

/-- Digits of a fraction of a second, cut or filled to microseconds. -/
def fractionMicroseconds (digits : List Char) : Nat :=
  let six := (digits ++ List.replicate 6 '0').take 6
  six.foldl (fun n c => n * 10 + (c.toNat - '0'.toNat)) 0

end ModelSchema
