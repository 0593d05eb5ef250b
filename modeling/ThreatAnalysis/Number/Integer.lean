/-!
Integers in decimal digits. An integer with too many digits is neither read nor written.
-/
namespace ThreatAnalysis

/-- The largest number of decimal digits of an integer that is read or written. -/
def longestInteger : Nat := 4300

/-- Whether an integer is too long to be written. -/
def isTooLong (value : Int) : Bool :=
  longestInteger < (Nat.toDigits 10 value.natAbs).length

end ThreatAnalysis
