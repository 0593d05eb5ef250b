/-!
Binary floating-point numbers of double precision as exact values: a sign, a mantissa below 2 ^ 53
and a power of two. Decimals are rounded to the nearest such number, and of two equally near ones
to the one with the even mantissa.
-/
namespace ThreatAnalysis

/-- A double-precision number. A finite one is `mantissa * 2 ^ exponent`, in the form that has
the exponent -1074 or a mantissa of at least 2 ^ 52. -/
inductive Double where
  | nan
  | infinite (negative : Bool)
  | finite (negative : Bool) (mantissa : Nat) (exponent : Int)
deriving DecidableEq, Repr, Inhabited

namespace Double

/-- The exponent of the numbers next to zero. -/
def minExponent : Int := -1074

/-- The exponent of the largest numbers. -/
def maxExponent : Int := 971

/-- The quotient rounded to the nearest integer, and to the even one of two. -/
def roundQuotient (numerator denominator : Nat) : Nat :=
  let quotient := numerator / denominator
  let twice := 2 * (numerator % denominator)
  if twice < denominator then quotient
  else if denominator < twice then quotient + 1
  else if quotient % 2 = 0 then quotient else quotient + 1

/-- Whether `base ^ exponent ≤ numerator / denominator`. -/
def powerLe (base : Nat) (exponent : Int) (numerator denominator : Nat) : Bool :=
  if 0 ≤ exponent then denominator * base.pow exponent.toNat ≤ numerator
  else denominator ≤ numerator * base.pow (-exponent).toNat

/-- The exponent of the largest power of two that is not above a positive quotient. -/
def floorLog2 (numerator denominator : Nat) : Int :=
  let guess : Int := (numerator.log2 : Int) - denominator.log2
  if powerLe 2 guess numerator denominator then guess else guess - 1

/-- The number nearest to a quotient. -/
def ofQuotient (negative : Bool) (numerator denominator : Nat) : Double :=
  if numerator = 0 then .finite negative 0 minExponent
  else
    let exponent := max minExponent (floorLog2 numerator denominator - 52)
    let mantissa :=
      if 0 ≤ exponent then roundQuotient numerator (denominator * Nat.pow 2 exponent.toNat)
      else roundQuotient (numerator * Nat.pow 2 (-exponent).toNat) denominator
    let (mantissa, exponent) :=
      if mantissa = Nat.pow 2 53 then (Nat.pow 2 52, exponent + 1) else (mantissa, exponent)
    if maxExponent < exponent then .infinite negative else .finite negative mantissa exponent

/-- The number nearest to `digits * 10 ^ exponent`; `size` is the number of decimal places of
`digits`, by which values far out of range are told without computing a power. -/
def ofDecimal (negative : Bool) (digits size : Nat) (exponent : Int) : Double :=
  if digits = 0 ∨ exponent + size < -330 then .finite negative 0 minExponent
  else if 330 + size < exponent then .infinite negative
  else if 0 ≤ exponent then ofQuotient negative (digits * Nat.pow 10 exponent.toNat) 1
  else ofQuotient negative digits (Nat.pow 10 (-exponent).toNat)

/-- Positive or negative zero. -/
def isZero : Double → Bool
  | .finite _ 0 _ => true
  | _ => false

/-- The integer that a number is, if it is one. -/
def toInt? : Double → Option Int
  | .finite negative mantissa exponent =>
    let signed : Int := if negative then -(mantissa : Int) else mantissa
    if 0 ≤ exponent then some (signed * (Nat.pow 2 exponent.toNat : Nat))
    else
      let unit := Nat.pow 2 (-exponent).toNat
      if mantissa % unit = 0 then some (signed / (unit : Nat)) else none
  | _ => none

/-- Equality of numbers: not a number equals nothing, and the two zeros are equal. -/
def equal : Double → Double → Bool
  | .nan, _ => false
  | x, y => x = y ∨ (x.isZero ∧ y.isZero)

end Double
end ThreatAnalysis
