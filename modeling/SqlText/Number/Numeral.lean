import SqlText.Text.Blank
import SqlText.Text.Digit

/-!
Numerals as people type them: blanks around, a sign, digits of any script, and single underscores
between digits.
-/

namespace SqlText.Numeral

/-- The blanks that may stand around a numeral once it is in ASCII. -/
def isMargin (c : Char) : Bool := c = ' ' || (9 ≤ c.toNat && c.toNat ≤ 13)

/-- A character in ASCII: a blank as a space, a digit of any script as that digit. -/
def toAscii? (c : Char) : Option Char :=
  if c.toNat < 127 then some c
  else if Text.isBlank c then some ' '
  else (Text.digitValue? c).map Nat.digitChar

def groups : List Char → List (List Char)
  | [] => [[]]
  | '_' :: rest => [] :: groups rest
  | c :: rest =>
    match groups rest with
    | [] => [[c]]
    | g :: gs => (c :: g) :: gs

/-- The value of digits, most significant first. -/
def value (digits : List Char) : Nat :=
  digits.foldl (fun n c => 10 * n + (c.toNat - '0'.toNat)) 0

/-- Digits with single underscores between them. -/
def readDigits? (cs : List Char) : Option Nat :=
  if (groups cs).all fun g => !g.isEmpty && g.all Char.isDigit then some (value (groups cs).flatten)
  else none

def readSigned? : List Char → Option Int
  | '-' :: rest => (readDigits? rest).map fun n => -(n : Int)
  | '+' :: rest => (readDigits? rest).map Int.ofNat
  | cs => (readDigits? cs).map Int.ofNat

def read? (cs : List Char) : Option Int := do
  let ascii ← cs.mapM toAscii?
  readSigned? (Text.trimBy isMargin ascii)

end SqlText.Numeral
