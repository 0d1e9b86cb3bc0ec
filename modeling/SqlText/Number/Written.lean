import SqlText.Number.Shortest

/-!
Written numbers: integers, doubles and decimals as decimal text. A double is written with its
shortest digits, a decimal with all of its own.
-/

namespace SqlText

/-- The decimal digits of a natural number, most significant first. -/
def Written.natural (n : Nat) : List Char := Nat.toDigits 10 n

/-- At least `width` digits, zeros in front. -/
def Written.padded (width n : Nat) : List Char :=
  let ds := natural n
  List.replicate (width - ds.length) '0' ++ ds

def Written.integer (n : Int) : List Char :=
  if n < 0 then '-' :: natural n.natAbs else natural n.natAbs

/-- Digits with the point after the first `place` of them, filled up with zeros on either side. -/
def Written.pointed (digits : List Char) (place : Int) : List Char :=
  if place ≤ 0 then '0' :: '.' :: (List.replicate (-place).toNat '0' ++ digits)
  else if digits.length ≤ place then digits ++ List.replicate (place.toNat - digits.length) '0'
  else digits.take place.toNat ++ '.' :: digits.drop place.toNat

/-! ### Doubles -/

/-- Which powers of ten of the leading digit are written out, and how wide exponents are at least. -/
structure FloatLayout where
  least : Int
  bound : Int
  exponentWidth : Nat

/-- Written digits, given their number and the power of ten of the leading one. -/
def FloatLayout.magnitude (layout : FloatLayout) (digits : List Char) (lead : Int) : List Char :=
  if layout.least ≤ lead && lead < layout.bound then
    Written.pointed digits (lead + 1) ++ if digits.length ≤ lead + 1 then ['.', '0'] else []
  else
    Written.pointed digits 1 ++ 'e' :: (if lead < 0 then '-' else '+') ::
      Written.padded layout.exponentWidth lead.natAbs

def FloatLayout.write (layout : FloatLayout) : Binary64 → List Char
  | .nan => "nan".toList
  | .infinite negative => (if negative then "-inf" else "inf").toList
  | .finite negative exponent fraction =>
    let (value, power) :=
      if Binary64.mantissa exponent fraction = 0 then (0, 0) else Shortest.digits exponent fraction
    let digits := Written.natural value
    (if negative then ['-'] else []) ++ layout.magnitude digits (power + (digits.length - 1))

/-- Doubles from `0.0001` up to, but not including, `1e16` are written without an exponent. -/
def Binary64.written (x : Binary64) : String :=
  String.ofList (FloatLayout.write ⟨-4, 16, 2⟩ x)

/-! ### Decimals -/

/-- A decimal: `coefficient * 10 ^ exponent` with a sign, so `1.0` and `1.00` differ; or an
infinity, or a NaN with a payload, quiet or signalling. -/
inductive Decimal
  | finite (negative : Bool) (coefficient : Nat) (exponent : Int)
  | infinite (negative : Bool)
  | nan (negative signalling : Bool) (payload : Nat)
  deriving DecidableEq

namespace Decimal

/-- Digits are written out where no zeros have to be added behind them and the leading one stands
for a millionth at least. Otherwise one digit stands before the point, and an exponent with a sign
follows. -/
def magnitude (coefficient : Nat) (exponent : Int) : List Char :=
  let digits := Written.natural coefficient
  let place := exponent + digits.length
  if exponent ≤ 0 && -6 < place then
    Written.pointed digits place
  else
    let power := place - 1
    Written.pointed digits 1 ++ 'E' :: (if power < 0 then '-' else '+') ::
      Written.natural power.natAbs

def chars : Decimal → List Char
  | finite negative coefficient exponent =>
    (if negative then ['-'] else []) ++ magnitude coefficient exponent
  | infinite negative => (if negative then ['-'] else []) ++ "Infinity".toList
  | nan negative signalling payload =>
    (if negative then ['-'] else []) ++ (if signalling then ['s'] else []) ++ "NaN".toList ++
      if payload = 0 then [] else Written.natural payload

def written (d : Decimal) : String := String.ofList d.chars

def isZero : Decimal → Bool
  | finite _ coefficient _ => coefficient == 0
  | _ => false

end Decimal

end SqlText
