/-!
Ranges of characters. A class of characters is given by the ranges of their code points, in
ascending order.
-/
namespace ThreatAnalysis.Text

/-- Whether the code point of a character is in one of the ranges. -/
def isInRanges (ranges : List (Nat × Nat)) (c : Char) : Bool :=
  let n := c.toNat
  ranges.any fun (first, last) => first ≤ n && n ≤ last

end ThreatAnalysis.Text
