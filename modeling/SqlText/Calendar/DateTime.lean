import SqlText.Calendar.Date
import SqlText.Calendar.Duration

/-!
A date with a time of the day, and the zone it is meant in. With an offset it denotes an instant,
and `DateTime.toUtc?` gives the fields of that instant in UTC.
-/

namespace SqlText

/-- What a datetime knows about its zone: nothing, a zone that gives no offset, or the offset east
of UTC in microseconds. -/
inductive Zone
  | none
  | silent
  | offset (micros : Int)
  deriving DecidableEq

namespace Zone

/-- The offset as signed hours and minutes, with seconds and their fraction if they are not zero. -/
def chars : Zone → List Char
  | .none | .silent => []
  | .offset micros =>
    let clock := Clock.ofMicros micros.natAbs
    let seconds := if clock.second = 0 && clock.micro = 0 then []
      else ':' :: Written.padded 2 clock.second ++ Clock.fractionChars clock.micro
    (if micros < 0 then '-' else '+') :: Written.padded 2 clock.hour ++
      ':' :: Written.padded 2 clock.minute ++ seconds

def inspect? : Zone → Option String
  | .none => Option.none
  | .silent => some "NoOffset()"
  | .offset micros =>
    some (if micros = 0 then "datetime.timezone.utc"
      else "datetime.timezone(" ++ (Duration.ofMicros micros).inspect ++ ")")

end Zone

structure DateTime where
  date : Date
  clock : Clock
  zone : Zone
  deriving DecidableEq

namespace DateTime

/-- The microseconds from the start of year 1 to the date and time, read without the zone. -/
def localMicros (t : DateTime) : Nat := t.date.dayNumber * Clock.microsPerDay + t.clock.micros

def ofLocalMicros (n : Nat) : DateTime :=
  ⟨.ofDayNumber (n / Clock.microsPerDay), .ofMicros (n % Clock.microsPerDay), .none⟩

/-- The fields in UTC of a datetime with an offset, and the datetime's own fields otherwise; nothing
if UTC falls outside the calendar. -/
def toUtc? (t : DateTime) : Option DateTime :=
  match t.zone with
  | .none | .silent => some { t with zone := .none }
  | .offset micros =>
    let instant := (t.localMicros : Int) - micros
    if 0 ≤ instant && instant < Date.dayLimit * Clock.microsPerDay then
      some (ofLocalMicros instant.toNat)
    else none

def chars (t : DateTime) : List Char := t.date.chars ++ ' ' :: t.clock.chars ++ t.zone.chars

def written (t : DateTime) : String := String.ofList t.chars

def inspect (t : DateTime) : String :=
  let numbers := [t.date.year, t.date.month, t.date.day] ++ t.clock.shownParts
  let zone := t.zone.inspect?.toList.map ("tzinfo=" ++ ·)
  "datetime.datetime(" ++ ", ".intercalate (numbers.map toString ++ zone) ++ ")"

end DateTime

end SqlText
