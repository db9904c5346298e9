/-!
# Sets of characters

A set of characters written as ascending ranges of code points, both ends included.
-/

namespace Offside

abbrev CodeRanges : Type := Array (Nat × Nat)

def CodeRanges.contains (ranges : CodeRanges) (c : Char) : Bool :=
  ranges.any fun (first, last) => first ≤ c.toNat && c.toNat ≤ last

end Offside
