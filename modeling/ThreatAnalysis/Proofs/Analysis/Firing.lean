import ThreatAnalysis.Analysis.Basic
import ThreatAnalysis.Proofs.Expression.Observation
import ThreatAnalysis.Proofs.Record.Update

/-!
What an analysis does to one cell. A rule fires if one of its expressions holds at the moment it is
applied; the cell then has the findings of the rules that fired before it. `analyzeCell_inScope`
says the whole effect: the findings written by hand, the findings of the rules that fire, and
whether there are any. Everything else about the cell is kept (`analyzeCell_sameInput`).
-/
namespace ThreatAnalysis.Analysis
variable {before after : Cells} {cell : Cell} {rules : List Rule}

/-- The findings of a cell that no analysis generated. -/
def manual (cell : Cell) : List Finding :=
  cell.findings.filter fun finding => !finding.isGenerated

/-- The cell as an analysis that leaves these findings marks it. -/
def marked (cell : Cell) (findings : List Finding) : Cell :=
  recordOpen (cell.withFindings findings)

theorem findings_withFindings (cell : Cell) (findings : List Finding) :
    (cell.withFindings findings).findings = findings :=
  Record.get_set_self cell .threats findings

theorem given_withFindings (cell : Cell) (findings : List Finding) :
    (cell.withFindings findings).given .threats = some findings :=
  Record.given_set_self cell .threats findings

theorem withFindings_withFindings (cell : Cell) (first second : List Finding) :
    (cell.withFindings first).withFindings second = cell.withFindings second :=
  Record.set_set cell .threats first second

theorem withFindings_sameInput (cell : Cell) (findings : List Finding) :
    Cell.SameInput (cell.withFindings findings) cell :=
  (Cell.SameInput.set cell .threats rfl findings).symm

theorem addFinding_sameInput (cell : Cell) (finding : Finding) :
    Cell.SameInput (addFinding cell finding) cell :=
  withFindings_sameInput cell _

theorem dropGenerated_sameInput (cell : Cell) : Cell.SameInput (dropGenerated cell) cell :=
  withFindings_sameInput cell _

theorem marked_sameInput (cell : Cell) (findings : List Finding) :
    Cell.SameInput (marked cell findings) cell :=
  (Cell.SameInput.set _ (.flag .openThreats) rfl _).symm.trans
    (withFindings_sameInput cell findings)

theorem findings_marked (cell : Cell) (findings : List Finding) :
    (marked cell findings).findings = findings :=
  (Record.get_set_other _ _ (show Cell.Field.threats ≠ .flag .openThreats by decide)).trans
    (findings_withFindings cell findings)

/-- Only the last findings and the last mark count. -/
theorem marked_marked (cell : Cell) (first second : List Finding) :
    marked (marked cell first) second = marked cell second := by
  refine Record.eq_of_given (fun field => ?_) rfl
  cases field with
  | flag flag => cases flag <;> rfl
  | _ => rfl

/-- Cells with the same input between others with the same input. -/
theorem sameInput_between (front : Cells.SameInput before those) (cell : Cell.SameInput a b)
    (back : Cells.SameInput after these) :
    Cells.SameInput (before ++ a :: after) (those ++ b :: these) :=
  List.rel_append front (.cons cell back)

variable [Platform]

/-- Whether a rule adds its finding to a cell that stands between others. -/
def fires (before after : Cells) (cell : Cell) (rule : Rule) : Bool :=
  Expression.evaluateAny (before ++ cell :: after) cell rule.expressions

/-- The rules that fire on a cell when they are applied in order. -/
def firing (before after : Cells) (cell : Cell) : List Rule → List Rule
  | [] => []
  | rule :: rest =>
    if fires before after cell rule then
      rule :: firing before after (addFinding cell (rule.findingOn cell)) rest
    else firing before after cell rest

/-- The findings that rules generate on a cell. -/
def generatedOn (cell : Cell) (rules : List Rule) : List Finding :=
  rules.map fun rule => rule.findingOn cell

/-- A rule generates the same finding on cells with the same input. -/
theorem findingOn_sameInput (rule : Rule) (same : Cell.SameInput a b) :
    rule.findingOn a = rule.findingOn b := by
  have texts : rule.textOn a = rule.textOn b := by
    funext field
    cases field <;> simp only [Rule.textOn, Cell.nameOr, same.id, same.name, same.type]
  unfold Rule.findingOn
  rw [texts]

theorem generatedOn_sameInput (rules : List Rule) (same : Cell.SameInput a b) :
    generatedOn a rules = generatedOn b rules :=
  List.map_congr_left fun rule _ => findingOn_sameInput rule same

/-- The finding that a rule generates, written out. Every field is given; what the outline does not
say is what a finding written by hand has by default. -/
theorem encode_findingOn (rule : Rule) (cell : Cell) :
    (rule.findingOn cell).encode .given = .object
      [("id", .string (cell.id ++ "-" ++ Platform.mark)),
        ("title", .string ((rule.outline.said .title).getD Finding.TextField.title.default)),
        ("type", .string (((rule.outline.said .stride).or (rule.outline.said .type)).getD
          Finding.TextField.category.default)),
        ("status", .string Finding.TextField.status.default),
        ("severity", .string ((rule.outline.said .severity).getD
          Finding.TextField.severity.default)),
        ("description", .string ((rule.outline.said .description).getD
          Finding.TextField.description.default)),
        ("mitigation", .string ((rule.outline.said .mitigation).getD
          Finding.TextField.mitigation.default)),
        ("modelType", .string (cell.nameOr cell.type)),
        ("generatedBy", .string ((rule.name.filter fun name => !name.isEmpty).getD "Threat rule")),
        ("isGenerated", .bool true)] := rfl

theorem isGenerated_findingOn (rule : Rule) (cell : Cell) :
    (rule.findingOn cell).isGenerated = true := rfl

/-- A rule without expressions does not fire, so that it needs no check of its own. -/
theorem applyRule_eq (rule : Rule) :
    applyRule before after cell rule =
      if fires before after cell rule then addFinding cell (rule.findingOn cell) else cell := by
  unfold applyRule fires Rule.isActive
  cases rule.expressions with
  | nil => rfl
  | cons text texts => simp only [List.isEmpty_cons, Bool.not_false, Bool.true_and]

/-- Rules only add findings: those of the rules that fire, in order. -/
theorem applyRules_withFindings (findings : List Finding) :
    applyRules before after rules (cell.withFindings findings) =
      cell.withFindings (findings ++
        generatedOn cell (firing before after (cell.withFindings findings) rules)) := by
  induction rules generalizing findings with
  | nil => rw [firing, generatedOn, List.map_nil, List.append_nil]; rfl
  | cons rule rest ih =>
    have added : addFinding (cell.withFindings findings)
        (rule.findingOn (cell.withFindings findings)) =
          cell.withFindings (findings ++ [rule.findingOn cell]) := by
      rw [addFinding, withFindings_withFindings, findings_withFindings,
        findingOn_sameInput rule (withFindings_sameInput cell findings)]
    unfold applyRules at ih ⊢
    rw [List.foldl_cons, applyRule_eq, firing, added]
    cases fires before after (cell.withFindings findings) rule with
    | true =>
      rw [if_pos rfl, if_pos rfl, ih, List.append_assoc]
      rfl
    | false => exact ih findings

/-- A cell that is out of scope stays as it is. -/
theorem analyzeCell_outOfScope (outOfScope : cell.has .outOfScope = true) :
    analyzeCell rules before after cell = cell := by
  rw [analyzeCell, if_pos outOfScope]

/-- Any other cell keeps the findings written by hand and gets those of the rules that fire. -/
theorem analyzeCell_inScope (inScope : cell.has .outOfScope = false) :
    analyzeCell rules before after cell =
      marked cell (manual cell ++
        generatedOn cell (firing before after (dropGenerated cell) rules)) := by
  rw [analyzeCell, if_neg (by rw [inScope]; decide)]
  unfold dropGenerated
  rw [applyRules_withFindings]
  rfl

theorem analyzeCell_sameInput (rules : List Rule) (before after : Cells) (cell : Cell) :
    Cell.SameInput (analyzeCell rules before after cell) cell := by
  cases scope : cell.has .outOfScope with
  | true =>
    rw [analyzeCell_outOfScope scope]
    exact .refl cell
  | false =>
    rw [analyzeCell_inScope scope]
    exact marked_sameInput cell _

end ThreatAnalysis.Analysis
