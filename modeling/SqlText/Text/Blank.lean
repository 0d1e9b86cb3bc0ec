import SqlText.Text.CharSet

/-!
Blank characters, and texts with the blanks at both ends taken off.
-/

namespace SqlText.Text

/-- The blanks: the separators of words, lines and records, and every space of Unicode. -/
def blanks : CharSet where
  intervals :=
  [(0x9, 0xd), (0x1c, 0x20), (0x85, 0x85), (0xa0, 0xa0), (0x1680, 0x1680), (0x2000, 0x200a),
   (0x2028, 0x2029), (0x202f, 0x202f), (0x205f, 0x205f), (0x3000, 0x3000)]

def isBlank (c : Char) : Bool := blanks.contains c

/-- What is left of a text between its first and its last character outside `p`. -/
def trimBy (p : Char → Bool) (cs : List Char) : List Char :=
  ((cs.dropWhile p).reverse.dropWhile p).reverse

def trim (s : String) : String := String.ofList (trimBy isBlank s.toList)

end SqlText.Text
