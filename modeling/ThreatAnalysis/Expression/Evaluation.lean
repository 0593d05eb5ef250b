import ThreatAnalysis.Diagram.Cell
import ThreatAnalysis.Expression.Parse
import ThreatAnalysis.Text.Lowercase

/-!
Evaluation of match expressions. An expression is evaluated for one cell among the cells of its
diagram: a flow leads to the first cell that has the identifier at its end, and a cell is public
facing also if some flow over a public network leads to its identifier. An expression that is
nested too deep holds for no cell, whatever its operands are.
-/
namespace ThreatAnalysis

/-- The cells of a diagram, among which flows find their ends. -/
abbrev Cells := List Cell

namespace Cells

/-- The first cell with an identifier. -/
def find? (cells : Cells) (id : String) : Option Cell :=
  List.find? (fun cell => cell.id == id) cells

/-- The cell that an end of a cell refers to. -/
def atEnd? (cells : Cells) (cell : Cell) (side : Cell.End) : Option Cell :=
  (cell.endpoint side).bind cells.find?

/-- Whether some flow over a public network leads to an identifier. -/
def hasPublicFlowTo (cells : Cells) (id : String) : Bool :=
  cells.any fun cell =>
    cell.isFlow && cell.has .publicNetwork && cell.endpoint .target == some id

end Cells

/-- Whether the name or the description of a cell mentions a word, in any letter case. -/
def Cell.mentions (cell : Cell) (word : String) : Bool :=
  [cell.name, cell.description].any fun text => Text.mentions word (text.getD "")

/-- Whether a predicate holds of a cell. -/
def Predicate.holds (cells : Cells) (cell : Cell) : Predicate → Bool
  | .isActor => cell.isOf .actor
  | .isProcess => cell.isOf .process
  | .isStore => cell.isOf .store
  | .isFlow => cell.isOf .flow
  | .isAnyProcess => cell.isOf .process || cell.isOf .actor
  | .isEncrypted => cell.has .encrypted
  | .isPublicNetwork => cell.has .publicNetwork
  | .isOutOfScope => cell.has .outOfScope
  | .isPublicFacing => cell.has .publicFacing || cells.hasPublicFlowTo cell.id
  | .isWebApplication => cell.isOf .process && cell.mentions "web"
  | .isAPI => cell.isOf .process && cell.mentions "api"

namespace Expression

variable [Platform]

/-- Whether a cell has an attribute that is not null and whose trimmed text form is the value, if
one is asked for. An attribute without a text form has no value. -/
def propertyHolds (cell : Cell) (name : String) (value : Option String) : Bool :=
  match cell.attribute? name with
  | none => false
  | some found =>
    match value with
    | none => true
    | some value => found.text?.any fun text => Text.trimmed text == value

mutual

/-- Whether an expression holds of a cell among the cells of its diagram. -/
def holds (cells : Cells) (cell : Cell) : Expression → Bool
  | .primitive predicate => predicate.holds cells cell
  | .unknown _ => false
  | .hasProperty name value => propertyHolds cell name value
  | .not operand => !holds cells cell operand
  | .and operands => allHold cells cell operands
  | .or operands => anyHolds cells cell operands
  | .source operand =>
    cell.isFlow && (cells.atEnd? cell .source).any fun start => holds cells start operand
  | .target operand =>
    cell.isFlow && (cells.atEnd? cell .target).any fun goal => holds cells goal operand
  | .connects first second =>
    cell.isFlow && ((cells.atEnd? cell .source).any fun start => holds cells start first) &&
      (cells.atEnd? cell .target).any fun goal => holds cells goal second

/-- Whether every expression of a list holds. -/
def allHold (cells : Cells) (cell : Cell) : List Expression → Bool
  | [] => true
  | operand :: rest => holds cells cell operand && allHold cells cell rest

/-- Whether some expression of a list holds. -/
def anyHolds (cells : Cells) (cell : Cell) : List Expression → Bool
  | [] => false
  | operand :: rest => holds cells cell operand || anyHolds cells cell rest

end

/-- Whether the expression of a text holds; without an expression nothing does. -/
def evaluate (cells : Cells) (cell : Cell) (text : String) : Bool :=
  match parse text with
  | .ok expression => expression.holds cells cell
  | .error _ => false

/-- Whether some expression of a list of texts holds. -/
def evaluateAny (cells : Cells) (cell : Cell) (texts : List String) : Bool :=
  texts.any (evaluate cells cell)

end Expression
end ThreatAnalysis
