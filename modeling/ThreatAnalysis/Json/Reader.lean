import ThreatAnalysis.Json.Value
import ThreatAnalysis.Number.Integer
import ThreatAnalysis.Platform

/-!
Reading documents. The grammar is that of JSON with the three words NaN, Infinity and -Infinity
as further numbers. Control characters must be escaped in strings, nothing but white space may
follow the value, and neither comments nor a byte order mark are accepted. A number with a
fraction or an exponent is a floating-point number, every other one an integer. A string may hold
half a pair of sixteen-bit units, which the platform has a character for. Reading may be limited to
a depth of nesting: it then ends at the first bracket that lies too deep, whatever follows, just as
it ends at the first integer that is too long.
-/
namespace ThreatAnalysis.Json

/-- Why no document can be read. -/
inductive ReadError where
  /-- The text is no document. -/
  | malformed
  /-- A container lies too deep. -/
  | nesting
  /-- An integer has too many digits. -/
  | longInteger
deriving DecidableEq, Repr

namespace Reader

/-- Skips white space. -/
def skip : List Char → List Char :=
  List.dropWhile fun c => c == ' ' || c == '\t' || c == '\n' || c == '\r'

/-- The value of a hexadecimal digit. -/
def hexDigit? (c : Char) : Option Nat :=
  if '0' ≤ c ∧ c ≤ '9' then some (c.toNat - '0'.toNat)
  else if 'a' ≤ c ∧ c ≤ 'f' then some (c.toNat - 'a'.toNat + 10)
  else if 'A' ≤ c ∧ c ≤ 'F' then some (c.toNat - 'A'.toNat + 10)
  else none

/-- The value of four hexadecimal digits. -/
def hex4? (a b c d : Char) : Option Nat := do
  return ((← hexDigit? a) * 16 + (← hexDigit? b)) * 256 + (← hexDigit? c) * 16 + (← hexDigit? d)

/-- The character of an escape by letter. -/
def escape? : Char → Option Char
  | '"' => some '"'
  | '\\' => some '\\'
  | '/' => some '/'
  | 'b' => some '\x08'
  | 'f' => some '\x0c'
  | 'n' => some '\n'
  | 'r' => some '\r'
  | 't' => some '\t'
  | _ => none

/-- A part of a string as written: a character, or a sixteen-bit unit given by its digits. -/
inductive Piece where
  | char (c : Char)
  | unit (n : Nat)

/-- The parts of a string behind its opening quote, and the text behind its closing one. -/
def pieces? : List Char → Option (List Piece × List Char)
  | [] => none
  | '"' :: rest => some ([], rest)
  | '\\' :: 'u' :: a :: b :: c :: d :: rest => do
    let unit ← hex4? a b c d
    let (pieces, rest) ← pieces? rest
    return (.unit unit :: pieces, rest)
  | '\\' :: c :: rest => do
    let c ← escape? c
    let (pieces, rest) ← pieces? rest
    return (.char c :: pieces, rest)
  | c :: rest =>
    if c.toNat < 0x20 ∨ c = '\\' then none
    else do
      let (pieces, rest) ← pieces? rest
      return (.char c :: pieces, rest)

/-- The first unit of a pair. -/
def isHigh (unit : Nat) : Bool :=
  0xD800 ≤ unit && unit < 0xDC00

/-- The second unit of a pair. -/
def isLow (unit : Nat) : Bool :=
  0xDC00 ≤ unit && unit < 0xE000

section
variable [Platform]

/-- The characters of a string. Two units that are a pair are one character; half a pair is none, and
a character stands for it. -/
def joinUnits : List Piece → List Char
  | [] => []
  | .char c :: rest => c :: joinUnits rest
  | .unit high :: .unit low :: rest =>
    if isHigh high && isLow low then
      Char.ofNat (0x10000 + (high - 0xD800) * 0x400 + (low - 0xDC00)) :: joinUnits rest
    else single high :: joinUnits (.unit low :: rest)
  | .unit unit :: rest => single unit :: joinUnits rest
where
  single (unit : Nat) : Char :=
    if isHigh unit || isLow unit then Platform.half unit else Char.ofNat unit

/-- The rest of a string behind its opening quote, and the text behind its closing one. -/
def string? (text : List Char) : Option (String × List Char) :=
  (pieces? text).map fun (pieces, rest) => (String.ofList (joinUnits pieces), rest)

end

/-- Splits off the leading decimal digits. -/
def digits (text : List Char) : List Char × List Char :=
  text.span Char.isDigit

/-- The value of decimal digits. -/
def natural (digits : List Char) : Nat :=
  digits.foldl (fun n c => 10 * n + (c.toNat - '0'.toNat)) 0

/-- The digits of a fraction, if one follows. -/
def fraction : List Char → List Char × List Char
  | '.' :: rest =>
    match digits rest with
    | ([], _) => ([], '.' :: rest)
    | (places, behind) => (places, behind)
  | text => ([], text)

/-- The exponent, if one follows. -/
def exponent? (text : List Char) : Option Int × List Char :=
  match text with
  | c :: rest =>
    if c = 'e' ∨ c = 'E' then
      let (negative, unsigned) := match rest with
        | '+' :: rest => (false, rest)
        | '-' :: rest => (true, rest)
        | rest => (false, rest)
      match digits unsigned with
      | ([], _) => (none, text)
      | (places, behind) =>
        (some (if negative then -(natural places : Int) else natural places), behind)
    else (none, text)
  | [] => (none, [])

/-- A number without its sign. -/
def number (negative : Bool) (text : List Char) : Except ReadError (Json × List Char) :=
  let (whole, rest) := match text with
    | '0' :: rest => (['0'], rest)
    | text => digits text
  if whole.isEmpty then .error .malformed
  else
    let (places, rest) := fraction rest
    let (exponent, rest) := exponent? rest
    if places.isEmpty ∧ exponent = none then
      if longestInteger < whole.length then .error .longInteger
      else .ok (.int (if negative then -(natural whole : Int) else natural whole), rest)
    else
      let all := whole ++ places
      let power := exponent.getD 0 - places.length
      .ok (.double (.ofDecimal negative (natural all) all.length power), rest)

/-- The value that a word stands for, if a text starts with the word. -/
def word (spelling : String) (value : Json) (text : List Char) :
    Except ReadError (Json × List Char) :=
  if spelling.toList.isPrefixOf text then .ok (value, text.drop spelling.length)
  else .error .malformed

/-- A value that is neither a string nor a container. -/
def scalar (text : List Char) : Except ReadError (Json × List Char) :=
  match text with
  | 'n' :: _ => word "null" .null text
  | 't' :: _ => word "true" (.bool true) text
  | 'f' :: _ => word "false" (.bool false) text
  | 'N' :: _ => word "NaN" (.double .nan) text
  | 'I' :: _ => word "Infinity" (.double (.infinite false)) text
  | '-' :: 'I' :: _ => word "-Infinity" (.double (.infinite true)) text
  | '-' :: rest => number true rest
  | text => number false text

/-- A reading that fails only because the text is no document. -/
def orMalformed {α : Type} : Option (α × List Char) → Except ReadError (α × List Char)
  | some result => .ok result
  | none => .error .malformed

variable [Platform]

mutual

/-- A value; `depth` says how deep containers may be nested in it, and `fuel` bounds the number of
steps. -/
def value (fuel depth : Nat) (text : List Char) :
    Except ReadError (Json × List Char) :=
  match fuel with
  | 0 => .error .malformed
  | fuel + 1 =>
    match text, depth with
    | '"' :: rest, _ => orMalformed ((string? rest).map fun (text, rest) => (.string text, rest))
    | '[' :: _, 0 => .error .nesting
    | '[' :: rest, depth + 1 =>
      match skip rest with
      | ']' :: rest => .ok (.array [], rest)
      | rest => (items fuel depth rest).map fun (items, rest) => (.array items, rest)
    | '{' :: _, 0 => .error .nesting
    | '{' :: rest, depth + 1 =>
      match skip rest with
      | '}' :: rest => .ok (.object [], rest)
      | rest => (members fuel depth [] rest).map fun (fields, rest) => (.object fields, rest)
    | text, _ => scalar text

/-- The items of an array from one that must follow, up to the closing bracket. -/
def items (fuel depth : Nat) (text : List Char) :
    Except ReadError (List Json × List Char) :=
  match fuel with
  | 0 => .error .malformed
  | fuel + 1 => do
    let (item, rest) ← value fuel depth text
    match skip rest with
    | ',' :: rest =>
      let (items, rest) ← items fuel depth (skip rest)
      return (item :: items, rest)
    | ']' :: rest => return ([item], rest)
    | _ => .error .malformed

/-- The members of an object from one that must follow, up to the closing brace, added to those
before. -/
def members (fuel depth : Nat) (before : Fields) (text : List Char) :
    Except ReadError (Fields × List Char) :=
  match fuel with
  | 0 => .error .malformed
  | fuel + 1 =>
    match text with
    | '"' :: rest => do
      let (key, rest) ← orMalformed (string? rest)
      match skip rest with
      | ':' :: rest =>
        let (value, rest) ← value fuel depth (skip rest)
        let fields := before.put key value
        match skip rest with
        | ',' :: rest => members fuel depth fields (skip rest)
        | '}' :: rest => return (fields, rest)
        | _ => .error .malformed
      | _ => .error .malformed
    | _ => .error .malformed

end

/-- The document of a text, nested up to a depth. Every second step consumes a character, which
bounds the steps. -/
def document (depth : Nat) (text : List Char) : Except ReadError Json := do
  let (value, rest) ← value (2 * text.length + 2) depth (skip text)
  if (skip rest).isEmpty then return value else .error .malformed

end Reader

variable [Platform]

/-- Reads a document that is nested no deeper than a limit. -/
def readWithin (depth : Nat) (text : String) : Except ReadError Json :=
  Reader.document depth text.toList

/-- Reads a document; none if the text is not one. No document is nested deeper than it is long. -/
def read? (text : String) : Option Json :=
  (readWithin text.length text).toOption

end ThreatAnalysis.Json
