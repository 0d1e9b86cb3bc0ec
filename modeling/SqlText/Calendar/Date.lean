import SqlText.Number.Written

/-!
Days of the Gregorian calendar, carried back to year 1. A date and its day number, counted from the
first day of year 1, determine each other.
-/

namespace SqlText

structure Date where
  year : Nat
  month : Nat
  day : Nat
  deriving DecidableEq

namespace Date

def isLeap (year : Nat) : Bool :=
  year % 4 == 0 && (year % 100 != 0 || year % 400 == 0)

def monthLengths (year : Nat) : List Nat :=
  [31, if isLeap year then 29 else 28, 31, 30, 31, 30, 31, 31, 30, 31, 30, 31]

/-- The days of the years `1` to `n`. -/
def daysInYears (n : Nat) : Nat := 365 * n + n / 4 - n / 100 + n / 400

/-- The sum of the first lengths. -/
def daysInMonths : Nat → List Nat → Nat
  | n + 1, length :: rest => length + daysInMonths n rest
  | _, _ => 0

/-- The days from the first day of year 1. -/
def dayNumber (d : Date) : Nat :=
  daysInYears (d.year - 1) + daysInMonths (d.month - 1) (monthLengths d.year) + (d.day - 1)

/-- A day of the year as a month and a day of that month, both counted from one. -/
def monthAndDay (month : Nat) : List Nat → Nat → Nat × Nat
  | length :: rest, day =>
    if day < length then (month, day + 1) else monthAndDay (month + 1) rest (day - length)
  | [], day => (month, day + 1)

/-- The date with a given day number. The last year of a four-hundred-year cycle and of a four-year
cycle has one day more than the others, which is why it is capped at the fourth. -/
def ofDayNumber (n : Nat) : Date :=
  let cycle := n % 146097
  let century := min 3 (cycle / 36524)
  let inCentury := cycle - century * 36524
  let inFour := inCentury % 1461
  let single := min 3 (inFour / 365)
  let year := n / 146097 * 400 + century * 100 + inCentury / 1461 * 4 + single + 1
  let (month, day) := monthAndDay 1 (monthLengths year) (inFour - single * 365)
  ⟨year, month, day⟩

/-- The calendar ends with year 9999. -/
def dayLimit : Nat := daysInYears 9999

def chars (d : Date) : List Char :=
  Written.padded 4 d.year ++ '-' :: Written.padded 2 d.month ++ '-' :: Written.padded 2 d.day

def written (d : Date) : String := String.ofList d.chars

def inspect (d : Date) : String := s!"datetime.date({d.year}, {d.month}, {d.day})"

end Date

end SqlText
