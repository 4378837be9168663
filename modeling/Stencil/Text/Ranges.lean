/-!
# Ranges of characters

A class of characters given by a standard is a list of inclusive ranges of code points.
-/
namespace Stencil.Text

/-- Whether the code point of `c` lies in one of the ranges, ends included. -/
def inRanges (ranges : List (Nat × Nat)) (c : Char) : Bool :=
  ranges.any fun (low, high) => low ≤ c.toNat && c.toNat ≤ high

end Stencil.Text
