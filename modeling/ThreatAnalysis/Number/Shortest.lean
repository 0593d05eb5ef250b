import ThreatAnalysis.Number.Double

/-!
The shortest decimal of a double-precision number. Among the decimals that are nearer to the
number than to any other double, or exactly between two where the tie goes to it, the one with
the fewest digits is chosen, and of several the nearest one. Decimals with a moderate exponent
are written positionally, with at least one place on either side of the point, all others with an
exponent.
-/
namespace ThreatAnalysis.Double

/-- A positive decimal `0.d₁d₂d₃… * 10 ^ point`, with the digits as characters. -/
structure Decimal where
  digits : List Char
  point : Int
deriving DecidableEq, Repr

/-- The exponent of the largest power of ten that is not above a positive quotient. -/
def floorLog10 (numerator denominator : Nat) : Int :=
  let guess := Int.fdiv (floorLog2 numerator denominator * 30103) 100000
  if powerLe 10 (guess + 1) numerator denominator then guess + 1
  else if powerLe 10 guess numerator denominator then guess
  else guess - 1

/-- The decimal numbers that read as one double: a value and the bounds of its interval, as
numerators over one denominator, and whether the bounds belong to it. -/
structure Interval where
  low : Nat
  value : Nat
  high : Nat
  denominator : Nat
  closed : Bool

/-- The interval of a positive finite double. Below a power of two the neighbour is half as far. -/
def interval (mantissa : Nat) (exponent : Int) : Interval :=
  let below := if mantissa = Nat.pow 2 52 ∧ minExponent < exponent then 1 else 2
  let quarter := exponent - 2
  let scale := Nat.pow 2 quarter.toNat
  { low := (4 * mantissa - below) * scale
    value := 4 * mantissa * scale
    high := (4 * mantissa + 2) * scale
    denominator := Nat.pow 2 (-quarter).toNat
    closed := mantissa % 2 = 0 }

/-- The multiple of `10 ^ exponent` that is chosen in an interval: of the two next to the value,
those inside, the nearer one, and the even one of two equally near. -/
def Interval.choose? (range : Interval) (exponent : Int) : Option Nat :=
  let up := Nat.pow 10 (-exponent).toNat
  let unit := range.denominator * Nat.pow 10 exponent.toNat
  let value := range.value * up
  let floor := value / unit
  let inside (n : Nat) : Bool :=
    let point := n * unit
    if range.closed then range.low * up ≤ point && point ≤ range.high * up
    else range.low * up < point && point < range.high * up
  let lowGap := value - floor * unit
  let highGap := (floor + 1) * unit - value
  match inside floor, inside (floor + 1) with
  | false, false => none
  | true, false => some floor
  | false, true => some (floor + 1)
  | true, true =>
    if lowGap < highGap then some floor
    else if highGap < lowGap then some (floor + 1)
    else if floor % 2 = 0 then some floor else some (floor + 1)

/-- Removes the zeros at the end of a list of digits, keeping the first digit. -/
def dropZeros (digits : List Char) : List Char :=
  match (digits.reverse.dropWhile (· == '0')).reverse with
  | [] => ['0']
  | kept => kept

/-- The shortest decimal of a finite double, signs aside. -/
def shortest (mantissa : Nat) (exponent : Int) : Decimal :=
  if mantissa = 0 then ⟨['0'], 1⟩
  else
    let range := interval mantissa exponent
    let top := floorLog10 range.value range.denominator
    let found := (List.range 17).findSome? fun (places : Nat) =>
      let unit := top - places
      (range.choose? unit).map fun n => (Nat.toDigits 10 n, unit)
    let (digits, unit) := found.getD (Nat.toDigits 10 mantissa, 0)
    ⟨dropZeros digits, unit + digits.length⟩

/-- How decimals are laid out. -/
structure Layout where
  /-- The least power of ten of the first digit at which a decimal is written positionally. -/
  least : Int
  /-- The power of ten of the first digit from which on an exponent is written. -/
  limit : Int
  /-- The least number of digits of an exponent. -/
  exponentDigits : Nat

/-- The layout of numbers in documents and texts: an exponent is written below 0.0001 and from
10 ^ 16 on, with a sign and at least two digits. -/
def plainLayout : Layout := ⟨-4, 16, 2⟩

/-- Writes a decimal in a layout. -/
def Decimal.render (decimal : Decimal) (layout : Layout) : String :=
  let power := decimal.point - 1
  let digits := decimal.digits
  let zeros (n : Int) : List Char := List.replicate n.toNat '0'
  if power < layout.least ∨ layout.limit ≤ power then
    let fraction := match digits.tail with
      | [] => []
      | rest => '.' :: rest
    let size := Nat.toDigits 10 power.natAbs
    let padding := List.replicate (layout.exponentDigits - size.length) '0'
    let sign := if power < 0 then '-' else '+'
    String.ofList (digits.take 1 ++ fraction ++ ['e', sign] ++ padding ++ size)
  else if power < 0 then
    String.ofList (['0', '.'] ++ zeros (-decimal.point) ++ digits)
  else
    let whole := digits.take decimal.point.toNat ++ zeros (decimal.point - digits.length)
    let fraction := match digits.drop decimal.point.toNat with
      | [] => ['0']
      | rest => rest
    String.ofList (whole ++ ['.'] ++ fraction)

/-- The text of a number: its shortest decimal in the plain layout, or a word. -/
def text : Double → String
  | .nan => "nan"
  | .infinite negative => if negative then "-inf" else "inf"
  | .finite negative mantissa exponent =>
    (if negative then "-" else "") ++ (shortest mantissa exponent).render plainLayout

end ThreatAnalysis.Double
