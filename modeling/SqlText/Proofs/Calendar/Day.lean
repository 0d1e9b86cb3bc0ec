import SqlText.Calendar.Date

/-!
The calendar, day by day. `Date.IsDay d n` says that `d` comes `n` days after the first day of
year 1, by nothing but the rules of how one day follows another: within a month, into the next month
and into the next year. The day numbers of dates and the dates of day numbers are computed by other
rules, with cycles of four, of a hundred and of four hundred years; here both are shown to count
the days.

* `IsDay.unique`, `IsDate.exists_isDay`: every date is reached, and nothing else;
* `IsDay.dayNumber_eq`: the day number of a date is the number of days before it;
* `isDay_ofDayNumber`: the date of a day number is reached after so many days;
* `IsDay.year_le_iff`: the days up to the end of the calendar.
-/

namespace SqlText.Date

def monthLength (year month : Nat) : Nat := (monthLengths year).getD (month - 1) 0

/-- The dates of the calendar, which goes on for ever. -/
structure IsDate (d : Date) : Prop where
  year_pos : 1 ≤ d.year
  month_pos : 1 ≤ d.month
  month_le : d.month ≤ 12
  day_pos : 1 ≤ d.day
  day_le : d.day ≤ monthLength d.year d.month

/-- The date that comes so many days after the first day of year 1. -/
inductive IsDay : Date → Nat → Prop
  | first : IsDay ⟨1, 1, 1⟩ 0
  | nextDay {year month day n : Nat} (h : IsDay ⟨year, month, day⟩ n)
      (hday : day < monthLength year month) : IsDay ⟨year, month, day + 1⟩ (n + 1)
  | nextMonth {year month n : Nat} (h : IsDay ⟨year, month, monthLength year month⟩ n)
      (hmonth : month < 12) : IsDay ⟨year, month + 1, 1⟩ (n + 1)
  | nextYear {year n : Nat} (h : IsDay ⟨year, 12, 31⟩ n) : IsDay ⟨year + 1, 1, 1⟩ (n + 1)

/-! ## Every date is reached -/

theorem monthLength_mem {year month : Nat} (hpos : 1 ≤ month) (hle : month ≤ 12) :
    monthLength year month ∈ monthLengths year := by
  have hi : month - 1 < (monthLengths year).length := by
    show month - 1 < 12
    omega
  rw [monthLength, List.getD_eq_getElem?_getD, List.getElem?_eq_getElem hi, Option.getD_some]
  exact List.getElem_mem hi

theorem monthLength_pos {year month : Nat} (hpos : 1 ≤ month) (hle : month ≤ 12) :
    1 ≤ monthLength year month := by
  have hall : ∀ length ∈ monthLengths year, 1 ≤ length := by
    cases hleap : isLeap year <;> simp [monthLengths, hleap]
  exact hall _ (monthLength_mem hpos hle)

theorem monthLength_le (year : Nat) {month : Nat} (hpos : 1 ≤ month) (hle : month ≤ 12) :
    monthLength year month ≤ 31 := by
  have hall : ∀ length ∈ monthLengths year, length ≤ 31 := by
    cases hleap : isLeap year <;> simp [monthLengths, hleap]
  exact hall _ (monthLength_mem hpos hle)

/-- Nothing but dates is reached. -/
theorem IsDay.isDate {d : Date} {n : Nat} (h : IsDay d n) : IsDate d := by
  induction h with
  | first => exact ⟨by decide, by decide, by decide, by decide, by decide⟩
  | nextDay h hday ih => exact { ih with day_pos := Nat.succ_pos _, day_le := hday }
  | nextMonth h hmonth ih =>
    exact
      { year_pos := ih.year_pos
        month_pos := Nat.succ_pos _
        month_le := hmonth
        day_pos := Nat.le_refl _
        day_le := monthLength_pos (Nat.succ_pos _) hmonth }
  | nextYear h ih =>
    exact
      { year_pos := Nat.succ_pos _
        month_pos := Nat.le_refl _
        month_le := Nat.le_add_left _ 11
        day_pos := Nat.le_refl _
        day_le := monthLength_pos (Nat.le_refl _) (Nat.le_add_left _ 11) }

theorem exists_isDay_ofDay {year month : Nat} (hfirst : ∃ n, IsDay ⟨year, month, 1⟩ n)
    {day : Nat} (hpos : 1 ≤ day) (hle : day ≤ monthLength year month) :
    ∃ n, IsDay ⟨year, month, day⟩ n := by
  induction hpos with
  | refl => exact hfirst
  | @step day hpos ih =>
    obtain ⟨n, hn⟩ := ih (Nat.le_of_succ_le hle)
    exact ⟨n + 1, .nextDay hn hle⟩

theorem exists_isDay_ofMonth {year : Nat} (hfirst : ∃ n, IsDay ⟨year, 1, 1⟩ n) {month : Nat}
    (hpos : 1 ≤ month) (hle : month ≤ 12) : ∃ n, IsDay ⟨year, month, 1⟩ n := by
  induction hpos with
  | refl => exact hfirst
  | @step month hpos ih =>
    have hmonth := Nat.le_of_succ_le hle
    obtain ⟨n, hn⟩ := exists_isDay_ofDay (ih hmonth) (monthLength_pos hpos hmonth) (Nat.le_refl _)
    exact ⟨n + 1, .nextMonth hn hle⟩

theorem exists_isDay_ofYear {year : Nat} (hpos : 1 ≤ year) : ∃ n, IsDay ⟨year, 1, 1⟩ n := by
  induction hpos with
  | refl => exact ⟨0, .first⟩
  | @step year hpos ih =>
    have hmonth : ∃ n, IsDay ⟨year, 12, 1⟩ n := exists_isDay_ofMonth ih (by decide) (by decide)
    obtain ⟨n, hn⟩ : ∃ n, IsDay ⟨year, 12, 31⟩ n :=
      exists_isDay_ofDay hmonth (by decide) (Nat.le_refl 31)
    exact ⟨n + 1, .nextYear hn⟩

/-- **Every date is reached**: the first day of its year, then that of its month, then the day. -/
theorem IsDate.exists_isDay {d : Date} (h : IsDate d) : ∃ n, IsDay d n :=
  exists_isDay_ofDay (exists_isDay_ofMonth (exists_isDay_ofYear h.year_pos) h.month_pos h.month_le)
    h.day_pos h.day_le

/-- **One day is reached after so many days.** -/
theorem IsDay.unique {d other : Date} {n : Nat} (h : IsDay d n) (hother : IsDay other n) :
    d = other := by
  induction h generalizing other with
  | first => cases hother; rfl
  | @nextDay year month day n h hday ih =>
    cases hother with
    | nextDay hother _ =>
      cases ih hother
      rfl
    | nextMonth hother _ =>
      cases ih hother
      exact absurd hday (Nat.lt_irrefl _)
    | nextYear hother =>
      cases ih hother
      exact absurd hday (Nat.lt_irrefl _)
  | nextMonth h hmonth ih =>
    cases hother with
    | nextDay hother hday =>
      cases ih hother
      exact absurd hday (Nat.lt_irrefl _)
    | nextMonth hother _ =>
      cases ih hother
      rfl
    | nextYear hother =>
      cases ih hother
      exact absurd hmonth (Nat.lt_irrefl _)
  | nextYear h ih =>
    cases hother with
    | nextDay hother hday =>
      cases ih hother
      exact absurd hday (Nat.lt_irrefl _)
    | nextMonth hother hmonth =>
      cases ih hother
      exact absurd hmonth (Nat.lt_irrefl _)
    | nextYear hother =>
      cases ih hother
      rfl

/-! ## Years and months -/

theorem isLeap_iff (year : Nat) :
    isLeap year = true ↔ year % 4 = 0 ∧ (year % 100 ≠ 0 ∨ year % 400 = 0) := by
  simp [isLeap]

/-- A year has a day more than 365 if it is a leap year. -/
theorem daysInMonths_twelve (year : Nat) :
    daysInMonths 12 (monthLengths year) = if isLeap year then 366 else 365 := by
  cases hleap : isLeap year <;> simp [monthLengths, daysInMonths, hleap]

theorem daysInYears_succ (n : Nat) :
    daysInYears (n + 1) = daysInYears n + daysInMonths 12 (monthLengths (n + 1)) := by
  have hfour : (n + 1) % 4 = 0 ∧ (n + 1) / 4 = n / 4 + 1
      ∨ (n + 1) % 4 ≠ 0 ∧ (n + 1) / 4 = n / 4 := by omega
  have hhundred : (n + 1) % 100 = 0 ∧ (n + 1) / 100 = n / 100 + 1
      ∨ (n + 1) % 100 ≠ 0 ∧ (n + 1) / 100 = n / 100 := by omega
  have hcycle : (n + 1) % 400 = 0 ∧ (n + 1) / 400 = n / 400 + 1
      ∨ (n + 1) % 400 ≠ 0 ∧ (n + 1) / 400 = n / 400 := by omega
  have hfewer : n / 100 ≤ n / 4 := by omega
  have hoften : (n + 1) % 100 = 0 → (n + 1) % 4 = 0 := by omega
  have hseldom : (n + 1) % 400 = 0 → (n + 1) % 100 = 0 := by omega
  have hleap := isLeap_iff (n + 1)
  rw [daysInMonths_twelve, daysInYears, daysInYears]
  generalize n / 4 = fours, n / 100 = hundreds, n / 400 = cycles, (n + 1) / 4 = nextFours,
    (n + 1) / 100 = nextHundreds, (n + 1) / 400 = nextCycles at *
  generalize (n + 1) % 4 = four, (n + 1) % 100 = hundred, (n + 1) % 400 = cycle at *
  split
  · next h =>
    have hrule := hleap.mp h
    omega
  · next h =>
    have hrule : ¬ (four = 0 ∧ (hundred ≠ 0 ∨ cycle = 0)) := fun hrule => h (hleap.mpr hrule)
    omega

theorem daysInYears_le {a b : Nat} (h : a ≤ b) : daysInYears a ≤ daysInYears b := by
  induction h with
  | refl => exact Nat.le_refl _
  | @step b h ih => exact Nat.le_trans ih (by rw [daysInYears_succ]; omega)

theorem daysInMonths_succ {i : Nat} {lengths : List Nat} (h : i < lengths.length) :
    daysInMonths (i + 1) lengths = daysInMonths i lengths + lengths.getD i 0 := by
  induction lengths generalizing i with
  | nil => simp at h
  | cons length rest ih =>
    cases i with
    | zero => simp [daysInMonths]
    | succ i =>
      have hrest := ih (Nat.lt_of_succ_lt_succ h)
      rw [daysInMonths, hrest, daysInMonths, List.getD_cons_succ, Nat.add_assoc]

theorem daysInMonths_le (i : Nat) (lengths : List Nat) :
    daysInMonths i lengths ≤ daysInMonths lengths.length lengths := by
  induction lengths generalizing i with
  | nil => cases i <;> simp [daysInMonths]
  | cons length rest ih =>
    cases i with
    | zero => simp [daysInMonths]
    | succ i =>
      have hrest := ih i
      rw [daysInMonths, List.length_cons, daysInMonths]
      omega

/-- A day of the year is a day of the month that it falls into. -/
theorem exists_monthAndDay_eq (month : Nat) {lengths : List Nat} {day : Nat}
    (h : day < daysInMonths lengths.length lengths) :
    ∃ i rest, i < lengths.length ∧ rest < lengths.getD i 0
      ∧ day = daysInMonths i lengths + rest
      ∧ monthAndDay month lengths day = (month + i, rest + 1) := by
  induction lengths generalizing month day with
  | nil => simp [daysInMonths] at h
  | cons length more ih =>
    rw [monthAndDay]
    split
    · next hday => exact ⟨0, day, by simp, hday, by simp [daysInMonths], rfl⟩
    · next hday =>
      rw [List.length_cons, daysInMonths] at h
      have hless : day - length < daysInMonths more.length more := by omega
      obtain ⟨i, rest, hi, hrest, hsplit, heq⟩ := ih (month + 1) hless
      refine ⟨i + 1, rest, Nat.succ_lt_succ hi, ?_, ?_, ?_⟩
      · rwa [List.getD_cons_succ]
      · rw [daysInMonths]
        omega
      · rw [heq, Nat.add_assoc, Nat.add_comm 1 i]

/-! ## The day number of a date -/

theorem monthLength_eq (year month : Nat) :
    monthLength year (month + 1) = (monthLengths year).getD month 0 := rfl

theorem length_monthLengths (year : Nat) : (monthLengths year).length = 12 := rfl

/-- The days of the year before a month. -/
theorem daysInMonths_month (year : Nat) {month : Nat} (hpos : 1 ≤ month) (hle : month ≤ 12) :
    daysInMonths month (monthLengths year)
      = daysInMonths (month - 1) (monthLengths year) + monthLength year month := by
  obtain ⟨i, rfl⟩ : ∃ i, month = i + 1 := ⟨month - 1, by omega⟩
  rw [daysInMonths_succ (by rw [length_monthLengths]; omega), monthLength_eq,
    Nat.add_sub_cancel]

/-- **The day number of a date is the number of days before it.** -/
theorem IsDay.dayNumber_eq {d : Date} {n : Nat} (h : IsDay d n) : d.dayNumber = n := by
  induction h with
  | first => rfl
  | @nextDay year month day n h hday ih =>
    have hpos := h.isDate.day_pos
    simp only [dayNumber] at ih hpos ⊢
    omega
  | @nextMonth year month n h hmonth ih =>
    have hdate := h.isDate
    have hmonths := daysInMonths_month year hdate.month_pos hdate.month_le
    have hpos := hdate.day_pos
    simp only [dayNumber, Nat.add_sub_cancel, hmonths] at ih hpos ⊢
    omega
  | @nextYear year n h ih =>
    obtain ⟨before, rfl⟩ : ∃ before, year = before + 1 :=
      ⟨year - 1, by have := h.isDate.year_pos; simp only at this; omega⟩
    have hmonths := daysInMonths_month (before + 1) (show 1 ≤ 12 by decide) (by decide)
    have hlength : monthLength (before + 1) 12 = 31 := rfl
    simp only [dayNumber, Nat.add_sub_cancel, daysInYears_succ, Nat.sub_self,
      daysInMonths] at ih ⊢
    omega

/-! ## The date of a day number -/

/-- A number of days along the cycles of the calendar: four hundred years, a hundred, four, and one.
A cycle that is cut off at the end of a longer one has a day less, but the last year of the longer
one has a day more. -/
structure IsSplit (n cycles century four single day : Nat) : Prop where
  count : n = cycles * 146097 + century * 36524 + four * 1461 + single * 365 + day
  century_le : century ≤ 3
  four_le : four ≤ 24
  single_le : single ≤ 3
  day_lt : day < 365 ∨ day = 365 ∧ single = 3 ∧ (four < 24 ∨ century = 3)

/-- The number of years that a split counts. -/
def yearsOf (cycles century four single : Nat) : Nat :=
  cycles * 400 + century * 100 + four * 4 + single

/-- The years of a split have the days that the split counts for them. -/
theorem daysInYears_yearsOf {n cycles century four single day : Nat}
    (h : IsSplit n cycles century four single day) :
    daysInYears (yearsOf cycles century four single) + day = n := by
  obtain ⟨hcount, hcentury, hfour, hsingle, -⟩ := h
  have hfours : yearsOf cycles century four single / 4
      = cycles * 100 + century * 25 + four := by
    rw [yearsOf]
    omega
  have hhundreds : yearsOf cycles century four single / 100 = cycles * 4 + century := by
    rw [yearsOf]
    omega
  have hcycles : yearsOf cycles century four single / 400 = cycles := by
    rw [yearsOf]
    omega
  rw [daysInYears, hfours, hhundreds, hcycles, yearsOf, hcount]
  omega

/-- The day that is left over belongs to the next year. -/
theorem lt_daysInMonths_of_isSplit {n cycles century four single day : Nat}
    (h : IsSplit n cycles century four single day) :
    day < daysInMonths 12 (monthLengths (yearsOf cycles century four single + 1)) := by
  have hleap := isLeap_iff (yearsOf cycles century four single + 1)
  obtain ⟨-, hcentury, hfour, hsingle, hday⟩ := h
  rw [daysInMonths_twelve]
  split
  · omega
  · next hcommon =>
    obtain hday | ⟨-, rfl, hlast⟩ := hday
    · exact hday
    · -- a day more is only left over in a leap year
      refine absurd (hleap.mpr ?_) hcommon
      rw [yearsOf]
      omega

/-- Every quotient is cut off at the number of shorter cycles in a longer one. -/
theorem exists_isSplit (n : Nat) :
    ∃ cycles century four single day, IsSplit n cycles century four single day
      ∧ ofDayNumber n
        = (let year := yearsOf cycles century four single + 1
           let (month, day) := monthAndDay 1 (monthLengths year) day
           ⟨year, month, day⟩) := by
  obtain ⟨cycle, hcycle⟩ : ∃ cycle, n % 146097 = cycle := ⟨_, rfl⟩
  obtain ⟨century, hcentury⟩ : ∃ century, min 3 (cycle / 36524) = century := ⟨_, rfl⟩
  obtain ⟨inCentury, hinCentury⟩ : ∃ inCentury, cycle - century * 36524 = inCentury := ⟨_, rfl⟩
  obtain ⟨inFour, hinFour⟩ : ∃ inFour, inCentury % 1461 = inFour := ⟨_, rfl⟩
  obtain ⟨single, hsingle⟩ : ∃ single, min 3 (inFour / 365) = single := ⟨_, rfl⟩
  refine ⟨n / 146097, century, inCentury / 1461, single, inFour - single * 365, ?_, ?_⟩
  · have hcycles : n = n / 146097 * 146097 + cycle := by omega
    have hcenturies : cycle = century * 36524 + inCentury := by omega
    have hfours : inCentury = inCentury / 1461 * 1461 + inFour := by omega
    have hsingles : inFour = single * 365 + (inFour - single * 365) := by omega
    have hroom : inCentury < 36524 ∨ century = 3 ∧ inCentury = 36524 := by omega
    have hlast : inFour - single * 365 < 365 ∨ inFour - single * 365 = 365 ∧ single = 3 := by
      omega
    generalize n / 146097 = cycles, inCentury / 1461 = four, inFour - single * 365 = day at *
    clear hcycle hinCentury hinFour
    exact
      { count := by rw [hcycles, hcenturies, hfours, hsingles]; simp only [Nat.add_assoc]
        century_le := by omega
        four_le := by omega
        single_le := by omega
        day_lt := by omega }
  · rw [ofDayNumber, hcycle, hcentury, hinCentury, hinFour, hsingle]
    rfl

/-- **The date of a day number is reached after so many days.** -/
theorem isDay_ofDayNumber (n : Nat) : IsDay (ofDayNumber n) n := by
  obtain ⟨cycles, century, four, single, day, hsplit, hof⟩ := exists_isSplit n
  have hn := daysInYears_yearsOf hsplit
  have hday := lt_daysInMonths_of_isSplit hsplit
  generalize yearsOf cycles century four single = before at hn hday hof
  rw [← length_monthLengths (before + 1)] at hday
  obtain ⟨i, rest, hi, hrest, hmonths, hmonth⟩ := exists_monthAndDay_eq 1 hday
  rw [length_monthLengths] at hi
  simp only [hmonth] at hof
  have hdate : IsDate ⟨before + 1, 1 + i, rest + 1⟩ :=
    { year_pos := Nat.succ_pos before
      month_pos := Nat.le_add_right 1 i
      month_le := by show 1 + i ≤ 12; omega
      day_pos := Nat.succ_pos rest
      day_le := by
        show rest + 1 ≤ monthLength (before + 1) (1 + i)
        rw [monthLength, Nat.add_sub_cancel_left]
        exact hrest }
  obtain ⟨k, hk⟩ := hdate.exists_isDay
  -- the days before it are those of the years, of the months and of the month
  have hnumber : k = n := by
    rw [← hk.dayNumber_eq, ← hn, hmonths, ← Nat.add_assoc]
    simp only [dayNumber, Nat.add_sub_cancel_left, Nat.add_sub_cancel]
  rw [hof, ← hnumber]
  exact hk

theorem IsDay.eq_ofDayNumber {d : Date} {n : Nat} (h : IsDay d n) : d = ofDayNumber n :=
  h.unique (isDay_ofDayNumber n)

/-- **The calendar ends with a year**: its days are those of the dates up to this year. -/
theorem IsDay.year_le_iff {d : Date} {n : Nat} (h : IsDay d n) :
    d.year ≤ 9999 ↔ n < dayLimit := by
  have hdate := h.isDate
  have hyear := hdate.year_pos
  have hnumber := h.dayNumber_eq
  rw [dayNumber] at hnumber
  constructor
  · intro hle
    -- the date comes before the end of its year
    have hmonths := daysInMonths_month d.year hdate.month_pos hdate.month_le
    have hinYear := daysInMonths_le d.month (monthLengths d.year)
    rw [length_monthLengths] at hinYear
    have hday := hdate.day_le
    have hpos := hdate.day_pos
    have hnext := daysInYears_succ (d.year - 1)
    rw [Nat.sub_add_cancel hyear] at hnext
    have hlimit := daysInYears_le hle
    rw [dayLimit]
    omega
  · intro hlt
    refine Nat.le_of_not_lt fun hgt => ?_
    have hlimit := daysInYears_le (a := 9999) (b := d.year - 1) (by omega)
    rw [dayLimit] at hlt
    omega

end SqlText.Date
