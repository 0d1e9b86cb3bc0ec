import SqlText.Text.Lowercase.Table

/-!
The lowercase form of a text. It goes character by character, but for two letters: the dotted
capital I becomes two characters, and a capital sigma at the end of a word becomes the final form.
-/

namespace SqlText.Text

/-- The small letter of a capital, and any other character itself. -/
def Lowercase.letter (c : Char) : Char :=
  match caseRuns.find? (·.contains c.toNat) with
  | some r => Char.ofNat (Int.toNat (c.toNat + r.shift))
  | none => c

/-- Whether the first character that is not skipped has a case. -/
def Lowercase.meetsCased (cs : List Char) : Bool :=
  match cs.dropWhile caseIgnorable.contains with
  | [] => false
  | c :: _ => cased.contains c

/-- A capital sigma: the final form after a cased character, unless one follows. The characters
before it come nearest first. -/
def Lowercase.sigma (before after : List Char) : Char :=
  if meetsCased before && !meetsCased after then 'ς' else 'σ'

/-- The lowercase form of the characters that stand after `before`. -/
def Lowercase.chars (before : List Char) : List Char → List Char
  | [] => []
  | 'Σ' :: rest => sigma before rest :: chars ('Σ' :: before) rest
  | 'İ' :: rest => 'i' :: '\u0307' :: chars ('İ' :: before) rest
  | c :: rest => letter c :: chars (c :: before) rest

def lowercase (s : String) : String := String.ofList (Lowercase.chars [] s.toList)

end SqlText.Text
