/-
  Sets of code points, held as the ascending list of the places where
  membership changes: the first bound begins the first run, the second ends
  it, and so on.

  * `CodePoints.contains`: membership, by halving.
  * `CodePoints.run?`: where the run around a code point begins.
-/

namespace JsonSchema.Text

/-- A set of code points. -/
structure CodePoints where
  ofBounds ::
  bounds : Array Nat

namespace CodePoints

/-- How many of the bounds `low`, …, `high - 1` and those before `low` are at most `c`, given
that all before `low` are; `fuel` halvings are enough for `2 ^ fuel` bounds. -/
def countFrom (bounds : Array Nat) (c : Nat) : (fuel low high : Nat) → Nat
  | 0, low, _ => low
  | fuel + 1, low, high =>
    if high ≤ low then low
    else
      let middle := (low + high) / 2
      if bounds[middle]?.getD 0 ≤ c then countFrom bounds c fuel (middle + 1) high
      else countFrom bounds c fuel low middle

/-- How many bounds are at most `c`. -/
def count (s : CodePoints) (c : Nat) : Nat :=
  countFrom s.bounds c (s.bounds.size.log2 + 1) 0 s.bounds.size

/-- A code point lies in the set when an odd number of bounds is behind it. -/
def contains (s : CodePoints) (c : Nat) : Bool := s.count c % 2 == 1

/-- The first code point of the run that holds `c`. -/
def run? (s : CodePoints) (c : Nat) : Option Nat :=
  let n := s.count c
  if n % 2 = 1 then s.bounds[n - 1]? else none

end CodePoints

end JsonSchema.Text
