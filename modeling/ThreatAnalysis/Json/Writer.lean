import ThreatAnalysis.Json.Value
import ThreatAnalysis.Number.Shortest
import ThreatAnalysis.Platform
import ThreatAnalysis.Text.Quoted

/-!
Writing documents. The text consists of ASCII characters only: every other character is written
as the escape of its sixteen-bit units, and so are the control characters without an escape by
letter. A document is written on one line, or with each item and member on a line of its own,
indented by its depth.
-/
namespace ThreatAnalysis.Json

/-- The escape of a sixteen-bit unit. -/
def unitEscape (unit : Nat) : List Char :=
  ['\\', 'u'] ++ Text.hexadecimal 4 unit

variable [Platform]

/-- A character within a string. Of half a pair, only its unit is written. -/
def stringChar (c : Char) : List Char :=
  let n := c.toNat
  if c = '"' then ['\\', '"']
  else if c = '\\' then ['\\', '\\']
  else if c = '\n' then ['\\', 'n']
  else if c = '\r' then ['\\', 'r']
  else if c = '\t' then ['\\', 't']
  else if n = 0x08 then ['\\', 'b']
  else if n = 0x0C then ['\\', 'f']
  else if 0x20 ≤ n ∧ n < 0x7F then [c]
  else if let some unit := Platform.unit? c then unitEscape unit
  else if n < 0x10000 then unitEscape n
  else unitEscape (0xD800 + (n - 0x10000) / 0x400) ++ unitEscape (0xDC00 + (n - 0x10000) % 0x400)

/-- A string with its quotes. -/
def renderString (text : String) : String :=
  String.ofList ('"' :: text.toList.flatMap stringChar ++ ['"'])

/-- A floating-point number: its shortest decimal, or a word. -/
def renderDouble : Double → String
  | .nan => "NaN"
  | .infinite negative => if negative then "-Infinity" else "Infinity"
  | x => x.text

/-- How the parts of a container are separated. -/
inductive Style where
  /-- Everything on one line. -/
  | line
  /-- Each part on a line of its own, indented by `step` blanks for each container around it. -/
  | indented (step : Nat)

namespace Style

/-- What separates two parts of a container at a depth. -/
def separator (style : Style) (depth : Nat) : String :=
  match style with
  | .line => ", "
  | .indented step => ",\n" ++ "".pushn ' ' (step * depth)

/-- Encloses the parts of a container at a depth; a container without parts stays on its line. -/
def enclose (style : Style) (depth : Nat) (opening closing : String) (parts : List String) :
    String :=
  match style, parts with
  | _, [] => opening ++ closing
  | .line, parts => opening ++ (style.separator depth).intercalate parts ++ closing
  | .indented step, parts =>
    opening ++ "\n" ++ "".pushn ' ' (step * (depth + 1)) ++
      (style.separator (depth + 1)).intercalate parts ++ "\n" ++ "".pushn ' ' (step * depth) ++
      closing

end Style

mutual

/-- The text of a value that lies in `depth` containers. -/
def renderAt (style : Style) (depth : Nat) : Json → String
  | .null => "null"
  | .bool value => if value then "true" else "false"
  | .int value => toString value
  | .double value => renderDouble value
  | .string value => renderString value
  | .array items => style.enclose depth "[" "]" (renderItems style (depth + 1) items)
  | .object fields => style.enclose depth "\x7b" "\x7d" (renderFields style (depth + 1) fields)

/-- The texts of the items of an array. -/
def renderItems (style : Style) (depth : Nat) : List Json → List String
  | [] => []
  | item :: rest => renderAt style depth item :: renderItems style depth rest

/-- The texts of the members of an object. -/
def renderFields (style : Style) (depth : Nat) : List (String × Json) → List String
  | [] => []
  | (key, value) :: rest =>
    (renderString key ++ ": " ++ renderAt style depth value) :: renderFields style depth rest

end

/-- The text of a document. -/
def render (style : Style) (document : Json) : String :=
  renderAt style 0 document

end ThreatAnalysis.Json
