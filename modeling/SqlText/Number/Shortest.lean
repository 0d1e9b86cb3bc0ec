import SqlText.Number.Binary64

/-!
The shortest decimal that reads back as a given double. The decimals that read back form an interval
around the double; a grid is the set of multiples of a power of ten. The answer lies on the coarsest
grid that has a point inside the interval, and of its two candidates the nearer one is taken.
-/

namespace SqlText.Shortest

/-- The decimals that read back as `4 * mantissa` in units of `2 ^ unit`. A double with an even
mantissa also claims the two ends. -/
structure Interval where
  low : Nat
  centre : Nat
  high : Nat
  unit : Int
  closed : Bool

/-- Halfway to the neighbours above and below. -/
def Interval.around (exponent : Fin 2047) (fraction : Fin Binary64.unit) : Interval :=
  let m := Binary64.mantissa exponent fraction
  { low := 4 * m - if Binary64.narrowBelow exponent fraction then 1 else 2
    centre := 4 * m
    high := 4 * m + 2
    unit := Binary64.scale exponent - 2
    closed := m % 2 == 0 }

/-- The factor that turns multiples of `10 ^ grid` into the common integer scale. -/
def gridFactor (unit grid : Int) : Nat := Nat.pow 10 grid.toNat * Nat.pow 2 (-unit).toNat

/-- The factor that turns multiples of `2 ^ unit` into the common integer scale. -/
def unitFactor (unit grid : Int) : Nat := Nat.pow 2 unit.toNat * Nat.pow 10 (-grid).toNat

/-- Whether `p * 10 ^ grid` reads back. -/
def Interval.contains (i : Interval) (grid : Int) (p : Nat) : Bool :=
  let point := p * gridFactor i.unit grid
  let low := i.low * unitFactor i.unit grid
  let high := i.high * unitFactor i.unit grid
  if i.closed then low ≤ point && point ≤ high else low < point && point < high

/-- The greatest point of the grid that is not above the double. -/
def Interval.below (i : Interval) (grid : Int) : Nat :=
  i.centre * unitFactor i.unit grid / gridFactor i.unit grid

/-- Of the neighbours `p` and `p + 1` the nearer one; halfway between them the even one. -/
def Interval.nearer (i : Interval) (grid : Int) (p : Nat) : Nat :=
  let centre := 2 * i.centre * unitFactor i.unit grid
  let middle := (2 * p + 1) * gridFactor i.unit grid
  if centre < middle then p
  else if middle < centre then p + 1
  else p + p % 2

/-- The best point of a grid that reads back, if the grid has one. -/
def Interval.pick? (i : Interval) (grid : Int) : Option Nat :=
  let p := i.below grid
  match i.contains grid p, i.contains grid (p + 1) with
  | true, true => some (i.nearer grid p)
  | true, false => some p
  | false, true => some (p + 1)
  | false, false => none

/-- A grid too coarse for any point but zero: ten exceeds eight and falls short of sixteen. -/
def Interval.coarsest (i : Interval) : Int :=
  let width : Int := i.high.log2 + 1 + i.unit
  (if 0 ≤ width then width / 3 else width / 4) + 1

/-- The shortest digits of a nonzero double and the power of ten they are multiplied by. The search
goes through a hundred grids; seventeen digits always read back, and they come before that. -/
def digits (exponent : Fin 2047) (fraction : Fin Binary64.unit) : Nat × Int :=
  let i := Interval.around exponent fraction
  let grids := (List.range 100).map fun n : Nat => i.coarsest - (n : Int)
  (grids.findSome? fun grid => (i.pick? grid).map (·, grid)).getD (0, 0)

end SqlText.Shortest
