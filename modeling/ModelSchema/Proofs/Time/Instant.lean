import Mathlib.Data.Prod.Lex
import ModelSchema.Proofs.Time.Calendar
import ModelSchema.Time.Duration

/-!
Instants are exact.

* `Duration.totalMicroseconds_ofMicroseconds`: carrying into seconds and days loses nothing, also below
  zero.
* `Instant.IsNormal`: the nanoseconds are less than a second, and never negative.
* `Instant.total_lt_iff`, `Instant.total_inj`: such instants are in the order of their parts.
* `Instant.ofDateTime_exact`: the instant of a moment is normal, counts the time since the epoch, and
  keeps the order of moments.
-/

namespace ModelSchema

/-! ### Durations -/

namespace Duration

/-- Seconds stay behind whole days, and microseconds behind whole seconds. -/
theorem isCarried_ofMicroseconds (total : Int) :
    (ofMicroseconds total).seconds < 86400 ∧ (ofMicroseconds total).microseconds < 1000000 := by
  have nonneg := Int.emod_nonneg total (show (86400000000 : Int) ≠ 0 by decide)
  have bound := Int.emod_lt_of_pos total (show (0 : Int) < 86400000000 by decide)
  simp only [ofMicroseconds, Int.fmod_eq_emod_of_nonneg _ (show (0 : Int) ≤ 86400000000 by decide),
    Int.fmod_eq_emod_of_nonneg _ (show (0 : Int) ≤ 1000000 by decide)]
  omega

/-- Nothing is lost by carrying, which rounds down. -/
@[simp] theorem totalMicroseconds_ofMicroseconds (total : Int) :
    (ofMicroseconds total).totalMicroseconds = total := by
  simp only [totalMicroseconds, ofMicroseconds,
    Int.fmod_eq_emod_of_nonneg _ (show (0 : Int) ≤ 86400000000 by decide),
    Int.fmod_eq_emod_of_nonneg _ (show (0 : Int) ≤ 1000000 by decide),
    Int.fdiv_eq_ediv_of_nonneg _ (show (0 : Int) ≤ 86400000000 by decide)]
  omega

end Duration

/-! ### Instants -/

namespace Instant

/-- All nanoseconds since the epoch. -/
def total (i : Instant) : Int := i.seconds * 1000000000 + i.nanos

/-- Whether the nanoseconds are those behind whole seconds. -/
def IsNormal (i : Instant) : Prop := 0 ≤ i.nanos ∧ i.nanos < 1000000000

variable {i j : Instant}

theorem total_lt_iff (normal : i.IsNormal) (normalLater : j.IsNormal) :
    i.total < j.total ↔ toLex (i.seconds, i.nanos) < toLex (j.seconds, j.nanos) := by
  obtain ⟨nonneg, lt⟩ := normal
  obtain ⟨nonnegLater, ltLater⟩ := normalLater
  rw [Prod.Lex.toLex_lt_toLex]
  simp only [total]
  omega

theorem total_inj (normal : i.IsNormal) (normalLater : j.IsNormal) : i.total = j.total ↔ i = j := by
  obtain ⟨seconds, nanos⟩ := i
  obtain ⟨secondsLater, nanosLater⟩ := j
  obtain ⟨nonneg, lt⟩ := normal
  obtain ⟨nonnegLater, ltLater⟩ := normalLater
  simp only [total, mk.injEq] at *
  omega

theorem isNormal_ofDateTime (t : DateTime) : (ofDateTime t).IsNormal := by
  obtain ⟨-, bound⟩ := Duration.isCarried_ofMicroseconds t.microseconds
  simp only [IsNormal, ofDateTime]
  omega

theorem total_ofDateTime (t : DateTime) : (ofDateTime t).total = 1000 * t.microseconds := by
  have whole := Duration.totalMicroseconds_ofMicroseconds t.microseconds
  simp only [Duration.totalMicroseconds] at whole
  simp only [total, ofDateTime]
  omega

end Instant

/-! ### Main result -/

namespace DateTime

/-- The moment from which instants are counted. -/
def epoch : DateTime := ⟨⟨1970, 1, 1⟩, { Clock.midnight with offset := some 0 }⟩

theorem isProper_epoch : epoch.IsProper :=
  ⟨⟨by decide, by decide, by decide⟩, ⟨by decide, by decide, by decide, by decide⟩⟩

theorem microseconds_epoch : epoch.microseconds = 0 := by decide +kernel

/-- Whether a reading is at an earlier moment than another one. -/
def IsEarlier (t u : DateTime) : Prop := ∃ n, 0 < n ∧ t.Elapsed n u

end DateTime

/-- The instant of a reading has its nanoseconds behind whole seconds, and counts the microseconds that
elapse from the epoch to the reading, or back. An earlier moment has the smaller instant, seconds before
nanoseconds, and two readings have one instant when no time elapses between them. -/
theorem Instant.ofDateTime_exact {t u : DateTime} (proper : t.IsProper) (properElse : u.IsProper) :
    (∃ n, (∀ m, DateTime.epoch.Elapsed m t ↔ m = n)
        ∧ 0 ≤ (ofDateTime t).nanos ∧ (ofDateTime t).nanos < 1000000000
        ∧ (ofDateTime t).seconds * 1000000000 + (ofDateTime t).nanos = 1000 * n)
      ∧ (t.IsEarlier u ↔ toLex ((ofDateTime t).seconds, (ofDateTime t).nanos)
        < toLex ((ofDateTime u).seconds, (ofDateTime u).nanos))
      ∧ (t.Elapsed 0 u ↔ ofDateTime t = ofDateTime u) := by
  have normal := isNormal_ofDateTime t
  have normalElse := isNormal_ofDateTime u
  refine ⟨⟨t.microseconds, fun m => ?_, normal.1, normal.2, total_ofDateTime t⟩, ?_, ?_⟩
  · rw [DateTime.elapsed_iff DateTime.isProper_epoch proper, DateTime.microseconds_epoch, Int.sub_zero]
  · rw [← total_lt_iff normal normalElse, total_ofDateTime, total_ofDateTime]
    constructor
    · rintro ⟨n, pos, elapsed⟩
      have later := elapsed.microseconds_eq
      omega
    · intro lt
      exact ⟨_, by omega, (DateTime.elapsed_iff proper properElse).mpr rfl⟩
  · rw [← total_inj normal normalElse, total_ofDateTime, total_ofDateTime,
      DateTime.elapsed_iff proper properElse]
    omega

/-! ### An example -/

namespace DateTime

/-- The first morning of the calendar, where clocks are ten hours ahead. -/
def firstMorning : DateTime := ⟨⟨1, 1, 1⟩, ⟨0, 0, 0, 0, some 36000000000⟩⟩

/-- The last reading before the epoch. -/
def lastBeforeEpoch : DateTime := ⟨⟨1969, 12, 31⟩, ⟨23, 59, 59, 999999, none⟩⟩

end DateTime

section

open DateTime

/-- A microsecond before the epoch is a second before it and almost a second later. The first morning was
earlier, although in UTC there is no date for it. -/
theorem Instant.ofDateTime_exact_lastBeforeEpoch :
    lastBeforeEpoch.IsProper ∧ firstMorning.IsProper
      ∧ ofDateTime lastBeforeEpoch = ⟨-1, 999999000⟩
      ∧ epoch.Elapsed (-1) lastBeforeEpoch
      ∧ ofDateTime firstMorning = ⟨-62135632800, 0⟩
      ∧ firstMorning.IsEarlier lastBeforeEpoch := by
  have proper : lastBeforeEpoch.IsProper :=
    ⟨⟨by decide, by decide, by decide⟩, ⟨by decide, by decide, by decide, by decide⟩⟩
  have properFirst : firstMorning.IsProper :=
    ⟨⟨by decide, by decide, by decide⟩, ⟨by decide, by decide, by decide, by decide⟩⟩
  have last : ofDateTime lastBeforeEpoch = ⟨-1, 999999000⟩ := by decide +kernel
  have first : ofDateTime firstMorning = ⟨-62135632800, 0⟩ := by decide +kernel
  obtain ⟨⟨n, elapsed, -, -, exactly⟩, -, -⟩ := ofDateTime_exact proper properFirst
  obtain ⟨-, earlier, -⟩ := ofDateTime_exact properFirst proper
  rw [last] at exactly
  rw [last, first] at earlier
  refine ⟨proper, properFirst, last, (elapsed (-1)).mpr ?_, first, earlier.mpr ?_⟩
  · dsimp only at exactly
    omega
  · decide

end

end ModelSchema
