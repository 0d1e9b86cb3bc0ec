import SqlText.Number.Written

/-!
Times of the day, to the microsecond.
-/

namespace SqlText

structure Clock where
  hour : Nat
  minute : Nat
  second : Nat
  micro : Nat
  deriving DecidableEq

namespace Clock

def microsPerDay : Nat := 86400000000

def micros (c : Clock) : Nat := ((c.hour * 60 + c.minute) * 60 + c.second) * 1000000 + c.micro

def ofMicros (n : Nat) : Clock :=
  ⟨n / 3600000000, n / 60000000 % 60, n / 1000000 % 60, n % 1000000⟩

/-- A fraction of a second, written only if there is one. -/
def fractionChars (micro : Nat) : List Char :=
  if micro = 0 then [] else '.' :: Written.padded 6 micro

/-- Hours, minutes and seconds with colons between them, and the fraction. -/
def chars (c : Clock) : List Char :=
  Written.padded 2 c.hour ++ ':' :: Written.padded 2 c.minute ++ ':' :: Written.padded 2 c.second ++
    fractionChars c.micro

def written (c : Clock) : String := String.ofList c.chars

/-- The numbers of a time in a message: seconds and microseconds are left out while all that follows
is zero. -/
def shownParts (c : Clock) : List Nat :=
  [c.hour, c.minute] ++ (if c.second = 0 && c.micro = 0 then [] else [c.second]) ++
    if c.micro = 0 then [] else [c.micro]

def inspect (c : Clock) : String :=
  "datetime.time(" ++ ", ".intercalate (c.shownParts.map toString) ++ ")"

end Clock

end SqlText
