import ThreatAnalysis.Catalog.Basic
import ThreatAnalysis.Diagram.Basic
import ThreatAnalysis.Expression.Evaluation

/-!
Analysis of a diagram. The cells are taken in order. A cell that is out of scope stays as it is.
From every other cell the findings of an earlier analysis are dropped; then each rule of the
catalog adds its finding if one of its expressions holds, the baseline first; at last the cell
records whether it has findings. Expressions are evaluated among the cells as they are at that
moment: those before are analyzed already, and the cell itself has the findings added so far.
-/
namespace ThreatAnalysis.Analysis

variable [Platform]

/-- The cell without the findings of an earlier analysis. -/
def dropGenerated (cell : Cell) : Cell :=
  cell.withFindings (cell.findings.filter fun finding => !finding.isGenerated)

/-- The cell with one more finding. -/
def addFinding (cell : Cell) (finding : Finding) : Cell :=
  cell.withFindings (cell.findings ++ [finding])

/-- Applies a rule to a cell that stands between others. -/
def applyRule (before after : Cells) (cell : Cell) (rule : Rule) : Cell :=
  if rule.isActive && Expression.evaluateAny (before ++ cell :: after) cell rule.expressions then
    addFinding cell (rule.findingOn cell)
  else cell

/-- Applies rules in order. -/
def applyRules (before after : Cells) (rules : List Rule) (cell : Cell) : Cell :=
  rules.foldl (applyRule before after) cell

/-- Records whether the cell has findings. -/
def recordOpen (cell : Cell) : Cell :=
  cell.set (.flag .openThreats) (some !cell.findings.isEmpty)

/-- The rules that apply: the baseline, and behind it the supplemental rules if they are
included. -/
def rulesOf (catalog : Catalog) (supplemental : Bool) : List Rule :=
  catalog.baseline ++ if supplemental then catalog.supplemental else []

/-- Analyzes a cell that stands between others. -/
def analyzeCell (rules : List Rule) (before after : Cells) (cell : Cell) : Cell :=
  if cell.has .outOfScope then cell
  else recordOpen (applyRules before after rules (dropGenerated cell))

/-- Analyzes the cells behind those that are analyzed already. -/
def analyzeCells (rules : List Rule) (done : Cells) : Cells → Cells
  | [] => done
  | cell :: rest => analyzeCells rules (done ++ [analyzeCell rules done rest cell]) rest

end ThreatAnalysis.Analysis

namespace ThreatAnalysis

/-- The diagram analyzed with a catalog, whose supplemental rules may be left out. -/
def Diagram.analyze [Platform] (diagram : Diagram) (catalog : Catalog) (supplemental : Bool) : Diagram :=
  diagram.withCells (Analysis.analyzeCells (Analysis.rulesOf catalog supplemental) [] diagram.cells)

end ThreatAnalysis
