import SqlText.Calendar.Clock

/-!
Lengths of time: whole days, which may be negative, and what is left of one day.
-/

namespace SqlText

/-- A length of time, where `seconds` is below a day and `micros` below a second. -/
structure Duration where
  days : Int
  seconds : Nat
  micros : Nat
  deriving DecidableEq

namespace Duration

def ofMicros (n : Int) : Duration :=
  let rest := (n % Clock.microsPerDay).toNat
  ⟨n / Clock.microsPerDay, rest / 1000000, rest % 1000000⟩

def isZero (d : Duration) : Bool := d.days == 0 && d.seconds == 0 && d.micros == 0

/-- The days, unless there are none, and the rest as hours, minutes and seconds. -/
def written (d : Duration) : String :=
  let unit := if d.days.natAbs = 1 then " day, " else " days, "
  let days := if d.days = 0 then "" else String.ofList (Written.integer d.days) ++ unit
  let clock := Written.natural (d.seconds / 3600) ++
    ':' :: Written.padded 2 (d.seconds / 60 % 60) ++ ':' :: Written.padded 2 (d.seconds % 60) ++
    Clock.fractionChars d.micros
  days ++ String.ofList clock

/-- A length of time as messages show it: the parts that are not zero, by name. -/
def inspect (d : Duration) : String :=
  let days := if d.days = 0 then [] else ["days=" ++ String.ofList (Written.integer d.days)]
  let seconds := if d.seconds = 0 then [] else [s!"seconds={d.seconds}"]
  let micros := if d.micros = 0 then [] else [s!"microseconds={d.micros}"]
  let parts := days ++ seconds ++ micros
  "datetime.timedelta(" ++ (if parts.isEmpty then "0" else ", ".intercalate parts) ++ ")"

end Duration

end SqlText
