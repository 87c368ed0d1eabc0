/-! Sets of code points given as ranges.

Character properties of the Unicode standard are kept as lists of inclusive code point
ranges in increasing order, as the standard's own data files list them. A code point has the
property when one of the ranges holds it. -/
namespace GssApi.Text

/-- Whether one of the inclusive ranges holds a code point. -/
def inRanges (ranges : List (Nat × Nat)) (point : Nat) : Bool :=
  ranges.any fun r => r.1 ≤ point && point ≤ r.2

end GssApi.Text
