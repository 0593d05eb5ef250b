import ThreatAnalysis.Literal.Expression
import ThreatAnalysis.Text.Blank
import ThreatAnalysis.Text.WordCharacter

/-!
Parameters of actions. A tag can bind an action to a text. Its parameters are literal values. They
may stand in brackets behind the name of what is called, or be such a name alone.
-/
namespace ThreatAnalysis.Action

variable [Platform]

/-- Whether the name of a call goes on with a character. -/
def isNamePart (c : Char) : Bool :=
  Text.isWordPart c || c = '.'

/-- The values of a call in their brackets, if a text is a call. -/
def callValues? (text : List Char) : Option (List Char) :=
  match text.dropWhile isNamePart with
  | [] => some ['(', ')']
  | '(' :: values =>
    if values.getLast? = some ')' && !values.contains '\n' then some ('(' :: values) else none
  | _ => none

/-- Whether a text is what the parameters of an action may be. -/
def acceptsParameters (text : List Char) : Bool :=
  let text := Text.trim text
  Literal.accepts ((callValues? text).getD text)

end ThreatAnalysis.Action
