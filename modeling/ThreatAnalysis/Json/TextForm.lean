import ThreatAnalysis.Json.Value
import ThreatAnalysis.Number.Integer
import ThreatAnalysis.Number.Shortest
import ThreatAnalysis.Platform
import ThreatAnalysis.Text.Quoted

/-!
The text form of a value, which stands for it where a text is wanted: a string is its own text
form, every other value is written as a literal. Inside arrays and objects strings are quoted. A
value is written from left to right, and it has no text form if that comes to an end at an integer
with too many digits, or at a value that lies deeper than there is room for.
-/
namespace ThreatAnalysis.Json

mutual

/-- A value written as a literal. -/
def literal : Json → String
  | .null => "None"
  | .bool value => if value then "True" else "False"
  | .int value => toString value
  | .double value => value.text
  | .string value => Text.quoted value
  | .array items => "[" ++ ", ".intercalate (literalItems items) ++ "]"
  | .object fields => "\x7b" ++ ", ".intercalate (literalFields fields) ++ "\x7d"

/-- The literals of the items of an array. -/
def literalItems : List Json → List String
  | [] => []
  | item :: rest => literal item :: literalItems rest

/-- The literals of the members of an object. -/
def literalFields : List (String × Json) → List String
  | [] => []
  | (key, value) :: rest =>
    (Text.quoted key ++ ": " ++ literal value) :: literalFields rest

end

mutual

/-- Whether an integer in a value is too long to be written. -/
def hasLongInteger : Json → Bool
  | .int value => isTooLong value
  | .array items => hasLongIntegerItems items
  | .object fields => hasLongIntegerFields fields
  | _ => false

/-- Whether an integer in the items of an array is too long. -/
def hasLongIntegerItems : List Json → Bool
  | [] => false
  | item :: rest => hasLongInteger item || hasLongIntegerItems rest

/-- Whether an integer in the members of an object is too long. -/
def hasLongIntegerFields : List (String × Json) → Bool
  | [] => false
  | (_, value) :: rest => hasLongInteger value || hasLongIntegerFields rest

end

mutual

/-- Whether a literal goes deeper than there is room for, before an integer that is too long. -/
def overflows : (room : Nat) → Json → Bool
  | 0, _ => true
  | room + 1, .array items => overflowsItems room items
  | room + 1, .object fields => overflowsFields room fields
  | _ + 1, _ => false

/-- Whether the items of an array go too deep. What follows an integer that is too long is not
written any more. -/
def overflowsItems (room : Nat) : List Json → Bool
  | [] => false
  | item :: rest => overflows room item || (!hasLongInteger item && overflowsItems room rest)

/-- Whether the members of an object go too deep. -/
def overflowsFields (room : Nat) : List (String × Json) → Bool
  | [] => false
  | (_, value) :: rest =>
    overflows room value || (!hasLongInteger value && overflowsFields room rest)

end

/-- The text form of a value, as far as it has one. -/
def text : Json → String
  | .string value => value
  | value => value.literal

variable [Platform]

/-- Whether a value is nested too deep to have a text form. -/
def isTooDeep : Json → Bool
  | .null => false
  | .string _ => false
  | value => value.overflows Platform.deepestText

/-- The text form of a value, if it has one. -/
def text? (value : Json) : Option String :=
  if value.isTooDeep || value.hasLongInteger then none else some value.text

end ThreatAnalysis.Json
