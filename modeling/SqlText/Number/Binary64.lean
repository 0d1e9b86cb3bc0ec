/-!
Doubles as data: a sign, an exponent field and a fraction field. A finite double is
`mantissa * 2 ^ scale`.
-/

namespace SqlText

/-- The number of fractions, and the hidden leading one of a normal number: two to the power 52. -/
abbrev Binary64.unit : Nat := 4503599627370496

/-- A double. The exponent field of all ones is kept for infinities and for the one NaN. -/
inductive Binary64
  | finite (negative : Bool) (exponent : Fin 2047) (fraction : Fin Binary64.unit)
  | infinite (negative : Bool)
  | nan
  deriving DecidableEq

namespace Binary64

/-- The double of a bit pattern: one sign bit, eleven of exponent, fifty-two of fraction. -/
def ofBits (bits : UInt64) : Binary64 :=
  let negative := bits.toNat / unit / 2048 == 1
  let exponent := bits.toNat / unit % 2048
  let fraction := Fin.ofNat unit bits.toNat
  if h : exponent < 2047 then finite negative ⟨exponent, h⟩ fraction
  else if fraction = 0 then infinite negative
  else nan

/-- The integer part of `mantissa * 2 ^ scale`: normal numbers have a hidden leading one. -/
def mantissa (exponent : Fin 2047) (fraction : Fin unit) : Nat :=
  if exponent.val = 0 then fraction.val else unit + fraction.val

/-- The power of two of `mantissa * 2 ^ scale`; the two lowest exponent fields share it. -/
def scale (exponent : Fin 2047) : Int := max exponent.val 1 - 1075

/-- At a power of two above the smallest normal one the gap below is half the gap above. -/
def narrowBelow (exponent : Fin 2047) (fraction : Fin unit) : Bool :=
  1 < exponent.val && fraction.val == 0

def isZero : Binary64 → Bool
  | finite _ exponent fraction => exponent.val == 0 && fraction.val == 0
  | _ => false

end Binary64

end SqlText
