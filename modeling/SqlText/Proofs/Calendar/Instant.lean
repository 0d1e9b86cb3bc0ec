import SqlText.Calendar.DateTime
import SqlText.Proofs.Calendar.Day

/-!
Instants. The date and the time of a datetime, read without its zone, are those of one moment, and
`DateTime.IsAt` counts the microseconds up to it: the days, one by one, and the time of the day.
With an offset the datetime denotes the moment that is earlier by the offset, and its fields in UTC
are those of this moment, unless the calendar has none.

* `IsAt.eq_localMicros`, `IsAt.eq_ofLocalMicros`: moments and fields determine each other;
* `IsAt.year_le_iff`: the moments of the calendar;
* `IsAt.toUtc?_eq_some_iff`: the fields in UTC of a datetime with an offset.
-/

namespace SqlText

/-! ## Times of the day -/

namespace Clock

structure IsTime (c : Clock) : Prop where
  hour_lt : c.hour < 24
  minute_lt : c.minute < 60
  second_lt : c.second < 60
  micro_lt : c.micro < 1000000

theorem IsTime.micros_lt {c : Clock} (h : c.IsTime) : c.micros < microsPerDay := by
  obtain ⟨hhour, hminute, hsecond, hmicro⟩ := h
  rw [micros, microsPerDay]
  omega

theorem IsTime.ofMicros_micros {c : Clock} (h : c.IsTime) : ofMicros c.micros = c := by
  obtain ⟨hhour, hminute, hsecond, hmicro⟩ := h
  have hhours : c.micros / 3600000000 = c.hour := by rw [micros]; omega
  have hminutes : c.micros / 60000000 % 60 = c.minute := by rw [micros]; omega
  have hseconds : c.micros / 1000000 % 60 = c.second := by rw [micros]; omega
  have hmicros : c.micros % 1000000 = c.micro := by rw [micros]; omega
  rw [ofMicros, hhours, hminutes, hseconds, hmicros]

theorem micros_ofMicros (n : Nat) : (ofMicros n).micros = n := by
  simp only [micros, ofMicros]
  omega

theorem isTime_ofMicros {n : Nat} (h : n < microsPerDay) : (ofMicros n).IsTime where
  hour_lt := by
    rw [microsPerDay] at h
    show n / 3600000000 < 24
    omega
  minute_lt := Nat.mod_lt _ (by decide)
  second_lt := Nat.mod_lt _ (by decide)
  micro_lt := Nat.mod_lt _ (by decide)

end Clock

/-! ## Moments -/

namespace DateTime

/-- A date of the calendar up to the year in which it ends, and a time of the day. -/
structure IsValid (t : DateTime) : Prop where
  date : t.date.IsDate
  year_le : t.date.year ≤ 9999
  clock : t.clock.IsTime

/-- The date and the time are those of the moment so many microseconds after the first midnight of
the calendar. -/
structure IsAt (t : DateTime) (micros : Int) : Prop where
  clock : t.clock.IsTime
  date : ∃ days : Nat, t.date.IsDay days ∧ micros = days * Clock.microsPerDay + t.clock.micros

/-- Fields without a zone that are those of a moment of the calendar. -/
structure IsCivil (f : DateTime) (micros : Int) : Prop where
  zone : f.zone = .none
  year_le : f.date.year ≤ 9999
  moment : f.IsAt micros

theorem IsCivil.isValid {f : DateTime} {micros : Int} (h : f.IsCivil micros) : f.IsValid := by
  obtain ⟨days, hdays, _⟩ := h.moment.date
  exact ⟨hdays.isDate, h.year_le, h.moment.clock⟩

theorem IsValid.isAt {t : DateTime} (h : t.IsValid) : t.IsAt t.localMicros := by
  obtain ⟨days, hdays⟩ := h.date.exists_isDay
  refine ⟨h.clock, days, hdays, ?_⟩
  rw [localMicros, hdays.dayNumber_eq]
  simp

/-- The moment is the one that the day number and the time give. -/
theorem IsAt.eq_localMicros {t : DateTime} {micros : Int} (h : t.IsAt micros) :
    micros = t.localMicros := by
  obtain ⟨_, days, hdays, rfl⟩ := h
  rw [localMicros, hdays.dayNumber_eq]
  simp

theorem isAt_ofLocalMicros (n : Nat) : (ofLocalMicros n).IsAt n := by
  have hpos : 0 < Clock.microsPerDay := by decide
  refine ⟨Clock.isTime_ofMicros (Nat.mod_lt n hpos), n / Clock.microsPerDay,
    Date.isDay_ofDayNumber _, ?_⟩
  show (n : Int)
    = (n / Clock.microsPerDay : Nat) * (Clock.microsPerDay : Nat) + (Clock.ofMicros _).micros
  rw [Clock.micros_ofMicros]
  have hsplit := Nat.div_add_mod' n Clock.microsPerDay
  omega

/-- **The fields are those of the moment**, and of no other one. -/
theorem IsAt.eq_ofLocalMicros {t : DateTime} {n : Nat} (h : t.IsAt n) :
    t.date = (ofLocalMicros n).date ∧ t.clock = (ofLocalMicros n).clock := by
  obtain ⟨hclock, days, hdays, hn⟩ := h
  have hlt := hclock.micros_lt
  have hpos : 0 < Clock.microsPerDay := by decide
  have hsum : n = t.clock.micros + Clock.microsPerDay * days := by
    rw [Nat.mul_comm]
    omega
  have hquotient : n / Clock.microsPerDay = days := by
    rw [hsum, Nat.add_mul_div_left _ _ hpos, Nat.div_eq_of_lt hlt, Nat.zero_add]
  have hremainder : n % Clock.microsPerDay = t.clock.micros := by
    rw [hsum, Nat.add_mul_mod_self_left, Nat.mod_eq_of_lt hlt]
  constructor
  · show t.date = Date.ofDayNumber (n / Clock.microsPerDay)
    rw [hquotient]
    exact hdays.eq_ofDayNumber
  · show t.clock = Clock.ofMicros (n % Clock.microsPerDay)
    rw [hremainder, hclock.ofMicros_micros]

/-- **The moments of the calendar** are those before the end of its last year. -/
theorem IsAt.year_le_iff {t : DateTime} {micros : Int} (h : t.IsAt micros) :
    t.date.year ≤ 9999 ↔ micros < Date.dayLimit * Clock.microsPerDay := by
  obtain ⟨hclock, days, hdays, rfl⟩ := h
  have hlt := hclock.micros_lt
  rw [hdays.year_le_iff]
  constructor
  · intro hdays
    have hmul : (days + 1) * Clock.microsPerDay ≤ Date.dayLimit * Clock.microsPerDay :=
      Nat.mul_le_mul_right _ hdays
    rw [Nat.succ_mul] at hmul
    omega
  · intro hmicros
    refine Nat.lt_of_not_le fun hle => ?_
    have hmul : Date.dayLimit * Clock.microsPerDay ≤ days * Clock.microsPerDay :=
      Nat.mul_le_mul_right _ hle
    omega

theorem IsAt.nonneg {t : DateTime} {micros : Int} (h : t.IsAt micros) : 0 ≤ micros := by
  obtain ⟨_, days, _, rfl⟩ := h
  exact_mod_cast Nat.zero_le (days * Clock.microsPerDay + t.clock.micros)

/-- **The fields in UTC** of a datetime with an offset are those of the moment that is earlier by
the offset, where the calendar has this moment. -/
theorem IsAt.toUtc?_eq_some_iff {t : DateTime} {micros offset : Int} (h : t.IsAt micros)
    (hzone : t.zone = .offset offset) (f : DateTime) :
    t.toUtc? = some f ↔ f.IsCivil (micros - offset) := by
  have hlocal := h.eq_localMicros
  rw [toUtc?, hzone]
  simp only [← hlocal, Bool.and_eq_true, decide_eq_true_eq]
  constructor
  · intro hutc
    split at hutc
    · next hrange =>
      cases hutc
      have hat := isAt_ofLocalMicros (micros - offset).toNat
      rw [Int.toNat_of_nonneg hrange.1] at hat
      exact ⟨rfl, hat.year_le_iff.mpr hrange.2, hat⟩
    · cases hutc
  · rintro ⟨hnone, hyear, hat⟩
    have hnonneg := hat.nonneg
    rw [if_pos ⟨hnonneg, hat.year_le_iff.mp hyear⟩]
    -- the fields that are found are those of the same moment
    rw [← Int.toNat_of_nonneg hnonneg] at hat
    obtain ⟨hdate, hclock⟩ := hat.eq_ofLocalMicros
    obtain ⟨date, clock, zone⟩ := f
    cases hnone
    cases hdate
    cases hclock
    rfl

end DateTime

end SqlText
