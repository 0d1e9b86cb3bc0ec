import SqlText.Text.Printable

/-!
The shape in which texts and bytes appear inside messages: between quotes, on one line, with
everything that does not print spelled out.
-/

namespace SqlText.Text

/-- The last `width` hexadecimal digits of a number. -/
def hexDigits (width n : Nat) : List Char :=
  (List.range width).reverse.map fun i => Nat.digitChar (n / Nat.pow 16 i % 16)

/-- The quote around a shown text: the apostrophe, unless the text holds one and no double quote. -/
def shownQuote (cs : List Char) : Char :=
  if cs.contains '\'' && !cs.contains '"' then '"' else '\''

/-- A character inside a shown text. A character that does not print is given by its number, in the
shortest of the three widths that hold it. -/
def inspectChar (quote c : Char) : List Char :=
  if c = quote || c = '\\' then ['\\', c]
  else if c = '\n' then ['\\', 'n']
  else if c = '\r' then ['\\', 'r']
  else if c = '\t' then ['\\', 't']
  else if isPrintable c then [c]
  else if c.toNat < 0x100 then '\\' :: 'x' :: hexDigits 2 c.toNat
  else if c.toNat < 0x10000 then '\\' :: 'u' :: hexDigits 4 c.toNat
  else '\\' :: 'U' :: hexDigits 8 c.toNat

def inspectChars (cs : List Char) : List Char :=
  let quote := shownQuote cs
  quote :: cs.flatMap (inspectChar quote) ++ [quote]

def inspectText (s : String) : String := String.ofList (inspectChars s.toList)

/-- A byte inside shown bytes: as its ASCII character where that prints, else by its number. -/
def inspectByte (quote : Char) (b : UInt8) : List Char :=
  let c := Char.ofNat b.toNat
  if b.toNat < 0x7f then inspectChar quote c else '\\' :: 'x' :: hexDigits 2 b.toNat

/-- Bytes as messages show them: like a text, with a letter `b` in front. -/
def inspectBytes (bs : List UInt8) : String :=
  let quote := shownQuote (bs.map fun b => Char.ofNat b.toNat)
  String.ofList ('b' :: quote :: bs.flatMap (inspectByte quote) ++ [quote])

end SqlText.Text
