import ThreatAnalysis.Literal.Kind
import ThreatAnalysis.Platform

/-!
Literal strings. A string stands between quotes, on one line, or between three quotes, on any number
of lines; a backslash takes away the meaning of the next character as a quote or as the end of a
line. A backslash also starts an escape: of a code point in hexadecimal digits or of a character
with a name, which have to be complete. Letters in front of the quotes make it a string of bytes,
which holds ASCII only and has no names, or a raw string, in which escapes are not looked at.
-/
namespace ThreatAnalysis.Literal

variable [Platform]

/-! Quotes. -/

/-- The text up to what closes a string. -/
def upToClose? (close : List Char) (severalLines : Bool) : List Char → Option (List Char)
  | [] => none
  | '\\' :: c :: rest => (upToClose? close severalLines rest).map fun body => '\\' :: c :: body
  | c :: rest =>
    if close.isPrefixOf (c :: rest) then some []
    else if c = '\n' && !severalLines then none
    else (upToClose? close severalLines rest).map (c :: ·)

/-- Whether a character is a quote. -/
def isQuote (c : Char) : Bool :=
  c = '\'' || c = '"'

/-- The quotes with which a text starts: three, or a single one. -/
def openingQuotes? : List Char → Option (List Char)
  | a :: b :: c :: _ =>
    if isQuote a then some (if a = b && b = c then [a, a, a] else [a]) else none
  | a :: _ => if isQuote a then some [a] else none
  | [] => none

/-! Escapes. -/

/-- Whether a character is a hexadecimal digit. -/
def isHexadecimal (c : Char) : Bool :=
  c.isDigit || ('a' ≤ c.toLower && c.toLower ≤ 'f')

/-- Whether a text starts with a number of hexadecimal digits. -/
def startsWithDigits (count : Nat) (text : List Char) : Bool :=
  (text.take count).length = count && (text.take count).all isHexadecimal

/-- Whether eight hexadecimal digits are those of a code point, of which the largest is 10FFFF. -/
def isCodePoint (digits : List Char) : Bool :=
  digits.take 2 = ['0', '0'] &&
    (digits[2]? = some '0' || (digits[2]? = some '1' && digits[3]? = some '0'))

/-- Whether a text starts with the name of a character in braces. -/
def startsWithName : List Char → Bool
  | '\x7b' :: rest =>
    rest.contains '\x7d' && Platform.isCharacterName (rest.takeWhile (· ≠ '\x7d'))
  | _ => false

/-- Whether the escape with a letter is complete, given what follows the letter. -/
def isEscape (bytes : Bool) (letter : Char) (text : List Char) : Bool :=
  match letter, bytes with
  | 'x', _ => startsWithDigits 2 text
  | 'u', false => startsWithDigits 4 text
  | 'U', false => startsWithDigits 8 text && isCodePoint text
  | 'N', false => startsWithName text
  | _, _ => true

/-- Whether all escapes in a text are complete. -/
def hasOnlyEscapes (bytes : Bool) : List Char → Bool
  | [] => true
  | '\\' :: letter :: rest => isEscape bytes letter rest && hasOnlyEscapes bytes rest
  | _ :: rest => hasOnlyEscapes bytes rest

/-! Strings. -/

/-- How a string is written. -/
structure StringForm where
  bytes : Bool
  raw : Bool

namespace StringForm

/-- The form that the letters in front of a string stand for. -/
def ofLetters? (letters : List Char) : Option StringForm :=
  match String.ofList (letters.map Char.toLower) with
  | "" => some ⟨false, false⟩
  | "u" => some ⟨false, false⟩
  | "r" => some ⟨false, true⟩
  | "b" => some ⟨true, false⟩
  | "br" => some ⟨true, true⟩
  | "rb" => some ⟨true, true⟩
  | _ => none

/-- The kind of strings of a form. -/
def kind (form : StringForm) : Kind :=
  if form.bytes then .bytes else .string

/-- Whether a text can stand between the quotes of a string of a form. -/
def accepts (form : StringForm) (body : List Char) : Bool :=
  (!form.bytes || body.all (·.toNat < 0x80)) && (form.raw || hasOnlyEscapes form.bytes body)

/-- The number of characters of the string, with its quotes, with which a text starts. -/
def length? (form : StringForm) (text : List Char) : Option Nat := do
  let quotes ← openingQuotes? text
  let body ← upToClose? quotes (quotes.length = 3) (text.drop quotes.length)
  if form.accepts body then some (2 * quotes.length + body.length) else none

end StringForm
end ThreatAnalysis.Literal
