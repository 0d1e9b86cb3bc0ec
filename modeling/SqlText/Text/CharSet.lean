/-!
Sets of characters given by intervals of scalar values. `CharSet.contains_iff` reads membership off
the intervals.
-/

namespace SqlText.Text

/-- A set of characters: closed intervals of scalar values, in ascending order. -/
structure CharSet where
  intervals : List (Nat × Nat)

def CharSet.contains (s : CharSet) (c : Char) : Bool :=
  s.intervals.any fun i => i.1 ≤ c.toNat && c.toNat ≤ i.2

theorem CharSet.contains_iff (s : CharSet) (c : Char) :
    s.contains c = true ↔ ∃ i ∈ s.intervals, i.1 ≤ c.toNat ∧ c.toNat ≤ i.2 := by
  simp [CharSet.contains]

end SqlText.Text
