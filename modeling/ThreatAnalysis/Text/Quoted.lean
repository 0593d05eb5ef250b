import ThreatAnalysis.Text.Printable

/-!
Quoted strings, the form in which strings stand inside other values and in error texts. Single
quotes enclose a string, unless it contains one and no double quote. The quote in use and the
backslash are escaped, so are line feed, carriage return and tab by letter, and every other
character that is not printable by its code point in two, four or eight hexadecimal digits.
-/
namespace ThreatAnalysis.Text

/-- A number in lower case hexadecimal, padded with zeros to a width. -/
def hexadecimal (width n : Nat) : List Char :=
  let digits := Nat.toDigits 16 n
  List.replicate (width - digits.length) '0' ++ digits

/-- The quote that encloses a string. -/
def quoteOf (text : List Char) : Char :=
  if text.contains '\'' && !text.contains '"' then '"' else '\''

/-- A character within a string enclosed by `quote`. -/
def quoteChar (quote c : Char) : List Char :=
  if c = quote ∨ c = '\\' then ['\\', c]
  else if c = '\n' then ['\\', 'n']
  else if c = '\r' then ['\\', 'r']
  else if c = '\t' then ['\\', 't']
  else if isPrintable c then [c]
  else if c.toNat < 0x100 then ['\\', 'x'] ++ hexadecimal 2 c.toNat
  else if c.toNat < 0x10000 then ['\\', 'u'] ++ hexadecimal 4 c.toNat
  else ['\\', 'U'] ++ hexadecimal 8 c.toNat

/-- The quoted form of a string. -/
def quoted (text : String) : String :=
  let chars := text.toList
  let quote := quoteOf chars
  String.ofList (quote :: chars.flatMap (quoteChar quote) ++ [quote])

end ThreatAnalysis.Text
