import ThreatAnalysis.Literal.Kind
import ThreatAnalysis.Number.Integer

/-!
Literal numbers. An integer has decimal digits, or digits of another base behind a mark; a number
may have a fraction and an exponent; and a unit makes it imaginary. Single low lines may stand
between digits.
-/
namespace ThreatAnalysis.Literal

/-- Whether digits are single or follow each other with at most one low line in between. -/
def isDigitRun (isDigit : Char → Bool) : List Char → Bool
  | [] => false
  | [c] => isDigit c
  | c :: '_' :: rest => isDigit c && isDigitRun isDigit rest
  | c :: rest => isDigit c && isDigitRun isDigit rest

/-- Whether a text is a run of decimal digits, which may be left out. -/
def isPlaces (text : List Char) : Bool :=
  text.isEmpty || isDigitRun Char.isDigit text

/-- Whether a text is a run of decimal digits, a point and such a run, one of which may be left
out. -/
def isFraction (text : List Char) : Bool :=
  let behind := text.dropWhile (· ≠ '.')
  text.contains '.' && text.length ≠ 1 && isPlaces (text.takeWhile (· ≠ '.')) &&
    isPlaces (behind.drop 1)

/-- Whether a text is an exponent without its letter. -/
def isExponent : List Char → Bool
  | '+' :: digits => isDigitRun Char.isDigit digits
  | '-' :: digits => isDigitRun Char.isDigit digits
  | digits => isDigitRun Char.isDigit digits

/-- Whether a text is a number with a fraction or an exponent. -/
def isFloating (text : List Char) : Bool :=
  let isMark (c : Char) := c = 'e' || c = 'E'
  match text.dropWhile (!isMark ·) with
  | [] => isFraction text
  | _ :: exponent =>
    let digits := text.takeWhile (!isMark ·)
    (isFraction digits || isDigitRun Char.isDigit digits) && isExponent exponent

/-- Whether a text is an integer in decimal digits. -/
def isDecimal (text : List Char) : Bool :=
  isDigitRun Char.isDigit text && (text.filter Char.isDigit).length ≤ longestInteger

/-- Whether digits follow a mark for their base, perhaps behind a low line. -/
def isBased (isDigit : Char → Bool) : List Char → Bool
  | '_' :: digits => isDigitRun isDigit digits
  | digits => isDigitRun isDigit digits

/-- The value of a digit in any base up to sixteen. -/
def digitValue (c : Char) : Nat :=
  if c.isDigit then c.toNat - '0'.toNat else 10 + (c.toLower.toNat - 'a'.toNat)

/-- The value of digits, among which low lines do not count. -/
def digitsValue (base : Nat) (digits : List Char) : Nat :=
  (digits.filter (· ≠ '_')).foldl (fun value c => base * value + digitValue c) 0

/-- The value of an integer; a decimal one starts with a zero only if it is zero. -/
def integer? : List Char → Option Nat
  | '0' :: mark :: digits =>
    match mark.toLower with
    | 'x' =>
      let isHex (c : Char) := c.isDigit || ('a' ≤ c.toLower && c.toLower ≤ 'f')
      if isBased isHex digits then some (digitsValue 16 digits) else none
    | 'o' =>
      if isBased (fun c => '0' ≤ c && c ≤ '7') digits then some (digitsValue 8 digits) else none
    | 'b' =>
      if isBased (fun c => c = '0' || c = '1') digits then some (digitsValue 2 digits) else none
    | _ => if isDigitRun (· = '0') ('0' :: mark :: digits) then some 0 else none
  | digits => if isDecimal digits then some (digitsValue 10 digits) else none

/-- The least integer that is rounded up beyond all floating numbers. -/
def leastLarge : Nat := (Nat.shiftLeft 1 54 - 1) * Nat.shiftLeft 1 970

/-- The kind of a number. -/
def numberKind? (text : List Char) : Option Kind :=
  match integer? text with
  | some value => some (if leastLarge ≤ value then .large else .real)
  | none =>
    if isFloating text then some .real
    else
      match text.reverse with
      | unit :: digits =>
        let digits := digits.reverse
        if (unit = 'j' || unit = 'J') && (isDigitRun Char.isDigit digits || isFloating digits) then
          some .imaginary
        else none
      | [] => none

/-- Whether a number goes on with a character: a letter, a digit, a point, or the sign of an
exponent in decimal digits. -/
def isNumberPart (before : List Char) (c : Char) : Bool :=
  c.isAlphanum || c = '_' || c = '.' ||
    ((c = '+' || c = '-') && (before.head?.any fun mark => mark = 'e' || mark = 'E') &&
      before.all fun c => c.isDigit || ['_', '.', 'e', 'E'].contains c)

/-- The characters of a number, of which some are read already, the latest one first. -/
def numberText (before : List Char) : List Char → List Char
  | [] => before.reverse
  | c :: rest => if isNumberPart before c then numberText (c :: before) rest else before.reverse

end ThreatAnalysis.Literal
