import ModelSchema.Number.Binary64
import ModelSchema.Time.Calendar

/-!
Lengths of time and points on the time-line.

* `Duration.ofMicroseconds`: days, seconds and microseconds with all but the days in range.
* `Duration.iso`: the ISO 8601 duration, in which a year is 365 days.
* `Instant.ofDateTime`: whole seconds and nanoseconds since the epoch, the latter never negative.
-/

namespace ModelSchema

/-- A length of time. Only the days can be negative. -/
structure Duration where
  days : Int
  seconds : Nat
  microseconds : Nat
  deriving DecidableEq, Repr, Inhabited

namespace Duration

/-- The duration of a number of microseconds, carried into seconds and days by rounding down. -/
def ofMicroseconds (total : Int) : Duration :=
  { days := total.fdiv 86400000000
    seconds := (total.fmod 86400000000 / 1000000).toNat
    microseconds := (total.fmod 1000000).toNat }

/-- The duration of days, seconds and microseconds of any size and sign. -/
def ofParts (days seconds microseconds : Int) : Duration :=
  ofMicroseconds ((days * 86400 + seconds) * 1000000 + microseconds)

def totalMicroseconds (d : Duration) : Int :=
  (d.days * 86400 + d.seconds) * 1000000 + d.microseconds

/-- The number of seconds as a double. -/
def totalSeconds (d : Duration) : Binary64 := .ofQuotient d.totalMicroseconds 1000000

/-- `[N day[s], ]H:MM:SS[.ffffff]`. -/
def text (d : Duration) : String :=
  let days :=
    if d.days = 0 then ""
    else if d.days = 1 ∨ d.days = -1 then s!"{d.days} day, "
    else s!"{d.days} days, "
  let clock :=
    s!"{d.seconds / 3600}:{padded 2 (d.seconds / 60 % 60)}:{padded 2 (d.seconds % 60)}"
  let micros := if d.microseconds = 0 then "" else "." ++ padded 6 d.microseconds
  days ++ clock ++ micros

/-- A duration by its parts that are not zero. -/
def displayed (d : Duration) : String :=
  let parts :=
    (if d.days = 0 then [] else [s!"days={d.days}"])
      ++ (if d.seconds = 0 then [] else [s!"seconds={d.seconds}"])
      ++ (if d.microseconds = 0 then [] else [s!"microseconds={d.microseconds}"])
  "datetime.timedelta(" ++ (if parts.isEmpty then "0" else ", ".intercalate parts) ++ ")"

/-- The seconds part of an ISO 8601 duration: trailing zeros of the fraction are dropped. -/
def isoSeconds (seconds micros : Nat) : String :=
  if micros = 0 then s!"{seconds}"
  else
    let fraction := ((padded 6 micros).toList.reverse.dropWhile (· == '0')).reverse
    s!"{seconds}." ++ String.ofList fraction

/-- The ISO 8601 duration with the sign in front: years of 365 days, days, hours, minutes and
seconds, each written only when it is not zero. -/
def iso (d : Duration) : String :=
  let total := d.totalMicroseconds
  let size := total.natAbs
  let micros := size % 1000000
  let seconds := size / 1000000
  let days := seconds / 86400
  let years := days / 365
  let part (n : Nat) (unit : String) : String := if n = 0 then "" else s!"{n}{unit}"
  let clock := seconds % 86400
  let second :=
    if clock % 60 = 0 ∧ micros = 0 then "" else isoSeconds (clock % 60) micros ++ "S"
  let time := part (clock / 3600) "H" ++ part (clock / 60 % 60) "M" ++ second
  let date := part years "Y" ++ part (days % 365) "D"
  let body :=
    if size = 0 then "T0S" else date ++ (if time.isEmpty then "" else "T" ++ time)
  (if total < 0 then "-P" else "P") ++ body

end Duration

/-- A point on the time-line: whole seconds since the epoch and the nanoseconds behind them. -/
structure Instant where
  seconds : Int
  nanos : Int
  deriving DecidableEq, Repr, Inhabited

namespace Instant

/-- The instant of a moment: whole seconds rounded down, the rest as nanoseconds. -/
def ofDateTime (t : DateTime) : Instant :=
  let since := Duration.ofMicroseconds t.microseconds
  { seconds := since.days * 86400 + since.seconds
    nanos := since.microseconds * 1000 }

end Instant

end ModelSchema
