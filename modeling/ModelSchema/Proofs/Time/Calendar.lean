import Mathlib.Algebra.Group.Nat.Defs
import Mathlib.Tactic.SplitIfs
import ModelSchema.Proofs.Property
import ModelSchema.Time.Iso

/-!
The calendar counts time.

Day numbers are computed from closed formulas, which could be off by a leap day. Here time passes a
microsecond at a time instead, through the ends of hours, months and leap years.

* `Date.next`, `DateTime.tick`: the day after a day, and a clock a microsecond later.
* `Date.dayNumber_next`: days are numbered without a gap.
* `DateTime.exists_tick_eq`: every reading is reached from the first one.
* `DateTime.Elapsed`: how much time passes between two readings, said by ticks and offsets alone.
* `DateTime.elapsed_iff`: `DateTime.microseconds` measures it.
* `DateTime.isProper_of_ofText`: every text that is read gives a day of the calendar and a time that a
  clock shows. The parts are checked when they are put together, but for the fraction of a second, of
  which all but six digits are cut off.
-/

namespace ModelSchema

/-! ### Days -/

namespace Date

/-- Whether a date is one of the calendar. -/
structure IsProper (d : Date) : Prop where
  year : 1 ≤ d.year
  month : 1 ≤ d.month ∧ d.month ≤ 12
  day : 1 ≤ d.day ∧ d.day ≤ daysInMonth d.year d.month

/-- The first day of the calendar. -/
def first : Date := ⟨1, 1, 1⟩

/-- The day after a day. -/
def next (d : Date) : Date :=
  if d.day < daysInMonth d.year d.month then { d with day := d.day + 1 }
  else if d.month < 12 then ⟨d.year, d.month + 1, 1⟩
  else ⟨d.year + 1, 1, 1⟩

theorem daysInMonth_pos (year month : Nat) : 1 ≤ daysInMonth year month := by
  unfold daysInMonth
  split_ifs <;> omega

theorem daysInMonth_december (year : Nat) : daysInMonth year 12 = 31 := rfl

theorem daysBeforeMonth_succ {year month : Nat} (isMonth : 1 ≤ month) :
    daysBeforeMonth year (month + 1) = daysBeforeMonth year month + daysInMonth year month := by
  obtain ⟨m, rfl⟩ := Nat.exists_eq_add_of_le' isMonth
  simp [daysBeforeMonth, List.range_succ]

theorem isLeap_iff {year : Nat} :
    isLeap year = true ↔ year % 4 = 0 ∧ (year % 100 ≠ 0 ∨ year % 400 = 0) := by
  simp [isLeap]

/-- A year has twelve months. -/
theorem daysBeforeYear_succ {year : Nat} (isYear : 1 ≤ year) :
    daysBeforeYear (year + 1) = daysBeforeYear year + daysBeforeMonth year 13 := by
  obtain ⟨y, rfl⟩ := Nat.exists_eq_add_of_le' isYear
  have days : daysBeforeMonth (y + 1) 13 = if isLeap (y + 1) then 366 else 365 := by
    simp only [daysBeforeMonth, List.range_succ, List.range_zero, daysInMonth]
    cases isLeap (y + 1) <;> rfl
  have carry : ∀ k, (y + 1) / k = y / k + if (y + 1) % k = 0 then 1 else 0 := by
    simp [Nat.succ_div, Nat.dvd_iff_mod_eq_zero]
  have least : y / 100 ≤ y := Nat.div_le_self ..
  rw [days]
  simp only [daysBeforeYear, isLeap_iff, Nat.add_sub_cancel, carry 4, carry 100, carry 400]
  -- A year that four hundred divides is one that a hundred divides, and these are among the fourth.
  have hundred : (y + 1) % 400 = 0 → (y + 1) % 100 = 0 := by omega
  have four : (y + 1) % 100 = 0 → (y + 1) % 4 = 0 := by omega
  generalize y / 4 = fourths, y / 100 = hundreds, y / 400 = fourHundreds at least ⊢
  by_cases byFour : (y + 1) % 4 = 0
  · by_cases byHundred : (y + 1) % 100 = 0
    · by_cases byFourHundred : (y + 1) % 400 = 0
      · simp only [byFour, byHundred, byFourHundred, if_true, ne_eq, not_true_eq_false, or_true, and_self]
        omega
      · simp only [byFour, byHundred, byFourHundred, if_true, if_false, ne_eq, not_true_eq_false,
          or_false, and_false]
        omega
    · have byFourHundred : (y + 1) % 400 ≠ 0 := fun same => byHundred (hundred same)
      simp only [byFour, byHundred, byFourHundred, if_true, if_false, ne_eq, not_false_eq_true,
        true_or, and_self]
      omega
  · have byHundred : (y + 1) % 100 ≠ 0 := fun same => byFour (four same)
    have byFourHundred : (y + 1) % 400 ≠ 0 := fun same => byHundred (hundred same)
    simp only [byFour, byHundred, byFourHundred, if_false, false_and]
    omega

variable {d : Date}

theorem IsProper.next (proper : d.IsProper) : d.next.IsProper := by
  obtain ⟨year, month, day⟩ := proper
  unfold Date.next
  split_ifs with inMonth inYear
  · exact ⟨year, month, by dsimp only; omega⟩
  · exact ⟨year, ⟨by dsimp only; omega, by dsimp only; omega⟩, Nat.le_refl _, daysInMonth_pos ..⟩
  · exact ⟨by dsimp only; omega, ⟨Nat.le_refl _, by dsimp only; omega⟩, Nat.le_refl _, daysInMonth_pos ..⟩

/-- The day after has the next number. -/
theorem dayNumber_next (proper : d.IsProper) : d.next.dayNumber = d.dayNumber + 1 := by
  obtain ⟨year, month, day⟩ := proper
  unfold Date.next
  split_ifs with inMonth inYear
  · simp only [dayNumber]
    omega
  · have days : daysBeforeMonth d.year (d.month + 1)
        = daysBeforeMonth d.year d.month + daysInMonth d.year d.month := daysBeforeMonth_succ month.1
    simp only [dayNumber]
    omega
  · have december : d.month = 12 := by omega
    rw [december, daysInMonth_december] at inMonth day
    have days : daysBeforeMonth d.year 13 = daysBeforeMonth d.year 12 + 31 :=
      daysBeforeMonth_succ (by decide)
    have months := daysBeforeYear_succ year
    have january : daysBeforeMonth (d.year + 1) 1 = 0 := rfl
    simp only [dayNumber, december, january]
    omega

/-- Every day but the first comes after another one. -/
theorem exists_next_eq (proper : d.IsProper) : d = first ∨ ∃ e, IsProper e ∧ e.next = d := by
  obtain ⟨y, m, n⟩ := d
  obtain ⟨year, month, day⟩ := proper
  dsimp only at year month day
  by_cases inMonth : 1 < n
  · refine .inr ⟨⟨y, m, n - 1⟩, ⟨year, month, ?_⟩, ?_⟩
    · dsimp only; omega
    · rw [next, if_pos (by dsimp only; omega)]
      simp; omega
  obtain rfl : n = 1 := by omega
  by_cases inYear : 1 < m
  · refine .inr ⟨⟨y, m - 1, daysInMonth y (m - 1)⟩, ⟨year, ?_, daysInMonth_pos .., Nat.le_refl _⟩, ?_⟩
    · dsimp only; omega
    · rw [next, if_neg (Nat.lt_irrefl _), if_pos (by dsimp only; omega)]
      simp; omega
  obtain rfl : m = 1 := by omega
  by_cases later : 1 < y
  · refine .inr ⟨⟨y - 1, 12, 31⟩, ⟨?_, ?_, ?_⟩, ?_⟩
    · dsimp only; omega
    · exact ⟨Nat.le_add_left .., Nat.le_refl _⟩
    · exact ⟨Nat.le_add_left .., Nat.le_refl _⟩
    · rw [next, daysInMonth_december, if_neg (Nat.lt_irrefl _), if_neg (Nat.lt_irrefl _)]
      simp; omega
  obtain rfl : y = 1 := by omega
  exact .inl rfl

/-- No day is numbered below the first one. -/
theorem IsProper.first_le (proper : d.IsProper) : first.dayNumber ≤ d.dayNumber := by
  have := proper.day
  have number : first.dayNumber = 1 - 719163 := rfl
  rw [number, dayNumber]
  omega

end Date

/-! ### Clocks -/

/-- Whether a time is one that a clock shows. -/
structure Clock.IsProper (c : Clock) : Prop where
  hour : c.hour ≤ 23
  minute : c.minute ≤ 59
  second : c.second ≤ 59
  microsecond : c.microsecond ≤ 999999

namespace DateTime

/-- Whether a reading is one of the calendar and of a clock. -/
structure IsProper (t : DateTime) : Prop where
  date : t.date.IsProper
  clock : t.clock.IsProper

/-- The first reading of a clock with an offset. -/
def first (offset : Option Int) : DateTime := ⟨.first, { Clock.midnight with offset := offset }⟩

/-- What a clock shows a microsecond later. -/
def tick (t : DateTime) : DateTime :=
  let c := t.clock
  if c.microsecond < 999999 then ⟨t.date, { c with microsecond := c.microsecond + 1 }⟩
  else if c.second < 59 then ⟨t.date, ⟨c.hour, c.minute, c.second + 1, 0, c.offset⟩⟩
  else if c.minute < 59 then ⟨t.date, ⟨c.hour, c.minute + 1, 0, 0, c.offset⟩⟩
  else if c.hour < 23 then ⟨t.date, ⟨c.hour + 1, 0, 0, 0, c.offset⟩⟩
  else ⟨t.date.next, ⟨0, 0, 0, 0, c.offset⟩⟩

variable {t u v : DateTime}

theorem microseconds_tick (proper : t.IsProper) : t.tick.microseconds = t.microseconds + 1 := by
  obtain ⟨date, ⟨hour, minute, second, microsecond⟩⟩ := proper
  have later := Date.dayNumber_next date
  unfold tick
  dsimp only
  split_ifs
  all_goals
    simp only [microseconds, Clock.sinceMidnight]
    omega

@[simp] theorem offset_tick (t : DateTime) : t.tick.clock.offset = t.clock.offset := by
  unfold tick
  dsimp only
  split_ifs <;> rfl

/-- Every reading but the first comes after another one. -/
theorem exists_tick_eq (proper : t.IsProper) :
    t = first t.clock.offset ∨ ∃ s, IsProper s ∧ s.tick = t := by
  obtain ⟨d, ⟨h, m, s, f, offset⟩⟩ := t
  obtain ⟨date, ⟨hour, minute, second, microsecond⟩⟩ := proper
  dsimp only at date hour minute second microsecond
  by_cases inSecond : 0 < f
  · refine .inr ⟨⟨d, ⟨h, m, s, f - 1, offset⟩⟩, ⟨date, hour, minute, second, ?_⟩, ?_⟩
    · dsimp only; omega
    · simp [tick, show f - 1 < 999999 by omega]; omega
  obtain rfl : f = 0 := by omega
  by_cases inMinute : 0 < s
  · refine .inr ⟨⟨d, ⟨h, m, s - 1, 999999, offset⟩⟩, ⟨date, hour, minute, ?_, Nat.le_refl _⟩, ?_⟩
    · dsimp only; omega
    · simp [tick, show s - 1 < 59 by omega]; omega
  obtain rfl : s = 0 := by omega
  by_cases inHour : 0 < m
  · refine .inr ⟨⟨d, ⟨h, m - 1, 59, 999999, offset⟩⟩,
      ⟨date, hour, ?_, Nat.le_refl _, Nat.le_refl _⟩, ?_⟩
    · dsimp only; omega
    · simp [tick, show m - 1 < 59 by omega]; omega
  obtain rfl : m = 0 := by omega
  by_cases inDay : 0 < h
  · refine .inr ⟨⟨d, ⟨h - 1, 59, 59, 999999, offset⟩⟩,
      ⟨date, ?_, Nat.le_refl _, Nat.le_refl _, Nat.le_refl _⟩, ?_⟩
    · dsimp only; omega
    · simp [tick, show h - 1 < 23 by omega]; omega
  obtain rfl : h = 0 := by omega
  rcases Date.exists_next_eq date with rfl | ⟨e, before, rfl⟩
  · exact .inl rfl
  · refine .inr ⟨⟨e, ⟨23, 59, 59, 999999, offset⟩⟩, ⟨before, ?_⟩, ?_⟩
    · exact ⟨Nat.le_refl _, Nat.le_refl _, Nat.le_refl _, Nat.le_refl _⟩
    · simp [tick]

/-- No reading is before the first one of its clock. -/
theorem IsProper.first_le (proper : t.IsProper) :
    (first t.clock.offset).microseconds ≤ t.microseconds := by
  have days := proper.date.first_le
  simp only [microseconds, first, Clock.midnight, Clock.sinceMidnight]
  omega

/-! ### Time that passes -/

/-- The same reading of a clock with another offset. -/
def withOffset (t : DateTime) (offset : Option Int) : DateTime :=
  ⟨t.date, { t.clock with offset := offset }⟩

/-- `t.Elapsed n u`: from `t` to `u` there are `n` microseconds. A clock ticks once in a microsecond. A
clock that is ahead of another one by some offset shows a reading earlier by as much, and one without an
offset goes with UTC. Time adds up, and can be counted backwards. -/
inductive Elapsed : DateTime → Int → DateTime → Prop where
  | tick {t : DateTime} : t.IsProper → Elapsed t 1 t.tick
  | reset {t : DateTime} (offset : Option Int) :
      Elapsed t (t.clock.offset.getD 0 - offset.getD 0) (t.withOffset offset)
  | stay {t : DateTime} : Elapsed t 0 t
  | back {t u : DateTime} {n : Int} : Elapsed t n u → Elapsed u (-n) t
  | add {t u v : DateTime} {m n : Int} : Elapsed t m u → Elapsed u n v → Elapsed t (m + n) v

variable {n : Int}

/-- The microseconds from the epoch measure the time that elapses. -/
theorem Elapsed.microseconds_eq (elapsed : t.Elapsed n u) :
    u.microseconds = t.microseconds + n := by
  induction elapsed with
  | tick proper => exact microseconds_tick proper
  | reset offset =>
    simp only [microseconds, withOffset, Clock.sinceMidnight]
    omega
  | stay => exact (Int.add_zero _).symm
  | back _ ih => omega
  | add _ _ first second => omega

/-- By ticks alone a clock gets from its first reading to any other. -/
theorem exists_elapsed_first (proper : t.IsProper) :
    ∃ n, (first t.clock.offset).Elapsed n t := by
  -- One tick back leaves one microsecond less to the first reading.
  induction left : (t.microseconds - (first t.clock.offset).microseconds).toNat generalizing t with
  | zero =>
    rcases exists_tick_eq proper with same | ⟨s, before, rfl⟩
    · exact ⟨0, same ▸ .stay⟩
    · have later := microseconds_tick before
      have notBelow := before.first_le
      rw [offset_tick] at left
      omega
  | succ left ih =>
    rcases exists_tick_eq proper with same | ⟨s, before, rfl⟩
    · exact ⟨0, same ▸ .stay⟩
    · have later := microseconds_tick before
      rw [offset_tick] at *
      obtain ⟨n, elapsed⟩ := ih before (by omega)
      exact ⟨n + 1, elapsed.add (.tick before)⟩

/-- Between any two readings some time elapses. -/
theorem exists_elapsed (proper : t.IsProper) (properLater : u.IsProper) : ∃ n, t.Elapsed n u := by
  obtain ⟨m, elapsed⟩ := exists_elapsed_first proper
  obtain ⟨n, elapsedLater⟩ := exists_elapsed_first properLater
  exact ⟨_, elapsed.back.add ((Elapsed.reset u.clock.offset).add elapsedLater)⟩

theorem elapsed_iff (proper : t.IsProper) (properLater : u.IsProper) :
    t.Elapsed n u ↔ n = u.microseconds - t.microseconds := by
  constructor
  · intro elapsed
    have later := elapsed.microseconds_eq
    omega
  · rintro rfl
    obtain ⟨n, elapsed⟩ := exists_elapsed proper properLater
    have later := elapsed.microseconds_eq
    obtain rfl : n = u.microseconds - t.microseconds := by omega
    exact elapsed

end DateTime

/-! ### Days that are read -/

theorem mapError_eq_ok_iff {α ε ε' : Type} {x : Except ε α} {f : ε → ε'} {a : α} :
    x.mapError f = .ok a ↔ x = .ok a := by
  cases x <;> simp [Except.mapError]

namespace Date

theorem isProper_of_make {year month day : Nat} {d : Date} (made : make year month day = .ok d) :
    d.IsProper := by
  unfold make at made
  split_ifs at made with noYear noMonth noDay
  cases made
  constructor
  all_goals
    dsimp only
    omega

theorem isProper_of_ofWeek? {year week day : Nat} {d : Date}
    (found : ofWeek? year week day = some (.ok d)) : d.IsProper := by
  unfold ofWeek? at found
  split_ifs at found
  · cases found
  · exact isProper_of_make (Option.some.inj found)

theorem isProper_of_ofChars? {place : Nat} {text : List Char} {d : Date}
    (found : ofChars? place text = some (.ok d)) : d.IsProper := by
  unfold ofChars? at found
  obtain ⟨⟨year, rest⟩, -, found⟩ := Option.bind_eq_some_iff.mp found
  dsimp only at found
  split at found
  · obtain ⟨⟨week, rest⟩, -, found⟩ := Option.bind_eq_some_iff.mp found
    dsimp only at found
    split at found
    · obtain ⟨separated, -, found⟩ := Option.bind_eq_some_iff.mp found
      obtain ⟨⟨day, rest⟩, -, found⟩ := Option.bind_eq_some_iff.mp found
      exact isProper_of_ofWeek? found
    · exact isProper_of_ofWeek? found
  · obtain ⟨⟨month, rest⟩, -, found⟩ := Option.bind_eq_some_iff.mp found
    obtain ⟨separated, -, found⟩ := Option.bind_eq_some_iff.mp found
    obtain ⟨⟨day, rest⟩, -, found⟩ := Option.bind_eq_some_iff.mp found
    exact isProper_of_make (Option.some.inj found)

end Date

/-! ### Fractions of a second -/

/-- With each digit that is read, the bound of a number gets ten times as large. -/
theorem foldl_digits_lt {digits : List Char} (areDigits : ∀ c ∈ digits, c.isDigit = true)
    {start k : Nat} (bound : start < 10 ^ k) :
    digits.foldl (fun n c => n * 10 + (c.toNat - '0'.toNat)) start < 10 ^ (k + digits.length) := by
  induction digits generalizing start k with
  | nil => exact bound
  | cons c digits ih =>
    have digit : c.toNat - '0'.toNat < 10 := by
      have isDigit := areDigits c List.mem_cons_self
      rw [Char.isDigit_iff_toNat] at isDigit
      have zero : '0'.toNat = 48 := rfl
      have nine : '9'.toNat = 57 := rfl
      omega
    have next : start * 10 + (c.toNat - '0'.toNat) < 10 ^ (k + 1) := by
      rw [Nat.pow_succ]
      omega
    rw [List.foldl_cons, List.length_cons, Nat.add_comm digits.length, ← Nat.add_assoc]
    exact ih (fun d member => areDigits d (List.mem_cons_of_mem _ member)) next

theorem fractionMicroseconds_lt {digits : List Char} (areDigits : ∀ c ∈ digits, c.isDigit = true) :
    fractionMicroseconds digits < 1000000 := by
  have filled : ∀ c ∈ (digits ++ List.replicate 6 '0').take 6, c.isDigit = true := by
    intro c member
    rcases List.mem_append.mp (List.mem_of_mem_take member) with given | zero
    · exact areDigits c given
    · rw [List.eq_of_mem_replicate zero]
      rfl
  have six : ((digits ++ List.replicate 6 '0').take 6).length = 6 := by simp
  have bound := foldl_digits_lt filled (k := 0) Nat.one_pos
  rwa [six] at bound

/-! ### Times of day that are read -/

namespace ClockNumbers

variable {followed isLonger : Bool} {text : List Char} {n : ClockNumbers}

theorem microsecond_of_fraction? {fields : List Nat}
    (found : fraction? followed fields text = some (n, isLonger)) : n.microsecond < 1000000 := by
  unfold fraction? at found
  dsimp only at found
  split_ifs at found with areDigits
  cases found
  exact fractionMicroseconds_lt (List.all_eq_true.mp areDigits)

theorem microsecond_of_fields? {count : Nat} {separated : Option Bool} {fields : List Nat}
    (found : fields? followed count separated fields text = some (n, isLonger)) :
    n.microsecond < 1000000 := by
  induction count generalizing separated fields text with
  | zero => exact microsecond_of_fraction? found
  | succ count ih =>
    rw [fields?] at found
    obtain ⟨⟨value, rest⟩, -, found⟩ := Option.bind_eq_some_iff.mp found
    dsimp only at found
    split at found
    · cases found
      exact Nat.zero_lt_succ _
    · split_ifs at found
      · cases found
        exact Nat.zero_lt_succ _
      · exact ih found
      · exact microsecond_of_fraction? found
      · exact ih found

end ClockNumbers

namespace Clock

theorem microsecond_of_numbers? {text : List Char} {n : ClockNumbers} {offset : Option Int}
    (found : numbers? text = some (n, offset)) : n.microsecond < 1000000 := by
  unfold numbers? at found
  obtain ⟨⟨numbers, isLonger⟩, read, found⟩ := Option.bind_eq_some_iff.mp found
  have small := ClockNumbers.microsecond_of_fields? read
  dsimp only at found
  split at found
  · split_ifs at found
    cases found
    exact small
  · split at found
    · split_ifs at found
      cases found
      exact small
    · obtain ⟨⟨offset, isLonger⟩, -, found⟩ := Option.bind_eq_some_iff.mp found
      dsimp only at found
      split_ifs at found
      all_goals
        cases found
        exact small

theorem isProper_of_ofNumbers {n : ClockNumbers} {offset : Option Int} {c : Clock}
    (small : n.microsecond < 1000000) (made : ofNumbers n offset = .ok c) : c.IsProper := by
  unfold ofNumbers make at made
  split_ifs at made
  cases made
  constructor
  all_goals
    dsimp only
    omega

end Clock

/-! ### Readings of texts -/

namespace DateTime

/-- Every text that is read gives a reading of the calendar and of a clock. -/
theorem isProper_of_ofText {text : String} {t : DateTime} (read : ofText text = .ok t) :
    t.IsProper := by
  unfold ofText at read
  dsimp only at read
  split at read
  next date numbers offset readDate readNumbers =>
    have small : numbers.microsecond < 1000000 := by
      split_ifs at readNumbers
      · cases readNumbers
        exact Nat.zero_lt_succ _
      · exact Clock.microsecond_of_numbers? readNumbers
    split_ifs at read
    obtain ⟨_, -, read⟩ := exists_of_bind_eq_ok read
    obtain ⟨d, dated, read⟩ := exists_of_bind_eq_ok read
    obtain ⟨c, timed, read⟩ := exists_of_bind_eq_ok read
    cases read
    exact ⟨Date.isProper_of_ofChars? (mapError_eq_ok_iff.mp dated ▸ readDate),
      Clock.isProper_of_ofNumbers small (mapError_eq_ok_iff.mp timed)⟩
  · cases read

end DateTime

end ModelSchema
