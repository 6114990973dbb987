/-! Sets of characters given by ranges of code points, the form in which Unicode states its
properties. -/

namespace EventText

/-- A set of characters: disjoint ranges of code points in ascending order, both ends included. -/
structure CodeRanges where
  ranges : List (Nat × Nat)

/-- Membership in ascending ranges. The search ends at the first range that lies beyond. -/
def holdsIn : List (Nat × Nat) → Nat → Bool
  | [], _ => false
  | (first, last) :: rest, code => first ≤ code && (code ≤ last || holdsIn rest code)

def CodeRanges.holds (set : CodeRanges) (c : Char) : Bool :=
  holdsIn set.ranges c.toNat

end EventText
