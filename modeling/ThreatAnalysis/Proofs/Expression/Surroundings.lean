import ThreatAnalysis.Proofs.Expression.Observation

/-!
What evaluation sees of the cells around the one it is for. An expression reaches another cell
only through the end of a flow, and asks of all cells together only which identifiers the flows
over public networks lead to. Two lists of cells that give the same answers to both questions,
wherever an expression can get, are therefore the same to every expression (`holds_sameView`).
-/
namespace ThreatAnalysis

/-- Two lists of cells give the same answers from the cells that are reached, which includes every
cell that an end of a flow among them leads to. -/
structure Cells.SameView (these those : Cells) (reached : Cell → Prop) : Prop where
  publicFlows : ∀ id, these.hasPublicFlowTo id = those.hasPublicFlowTo id
  ends : ∀ flow, reached flow → flow.isFlow = true →
    ∀ side, these.atEnd? flow side = those.atEnd? flow side
  closed : ∀ flow, reached flow → ∀ side found, those.atEnd? flow side = some found → reached found

section View
variable {these those : Cells} {reached : Cell → Prop}

/-- What holds at an end of a flow is the same, if it is the same of every cell that is reached. -/
theorem Cells.SameView.any_atEnd? (view : these.SameView those reached) {flow : Cell}
    (here : reached flow) {f g : Cell → Bool} (each : ∀ cell, reached cell → f cell = g cell)
    (side : Cell.End) :
    (flow.isFlow && (these.atEnd? flow side).any f) =
      (flow.isFlow && (those.atEnd? flow side).any g) := by
  by_cases isFlow : flow.isFlow = true
  · rw [view.ends flow here isFlow side]
    cases leads : those.atEnd? flow side with
    | none => rfl
    | some found =>
      have same := each found (view.closed flow here side found leads)
      simp only [Option.any_some, same]
  · simp [isFlow]

theorem Predicate.holds_sameView (view : these.SameView those reached) (predicate : Predicate)
    (cell : Cell) : predicate.holds these cell = predicate.holds those cell := by
  cases predicate
  case isPublicFacing => simp only [Predicate.holds, view.publicFlows]
  all_goals rfl

namespace Expression

variable [Platform]

/-- An expression holds alike of a cell from which two lists of cells look the same. -/
theorem holds_sameView (view : these.SameView those reached) (expression : Expression) {cell : Cell}
    (here : reached cell) : expression.holds these cell = expression.holds those cell := by
  -- The cell changes at the ends of flows, so the induction is for all cells that are reached.
  induction expression using tree_induction generalizing cell with
  | primitive predicate => exact predicate.holds_sameView view cell
  | unknown _ => rfl
  | hasProperty _ _ => rfl
  | not _ ih => rw [holds, holds, ih here]
  | and operands ih =>
    rw [holds, holds]
    apply allHold_congr
    intro operand listed
    exact ih operand listed here
  | or operands ih =>
    rw [holds, holds]
    apply anyHolds_congr
    intro operand listed
    exact ih operand listed here
  | source operand ih =>
    rw [holds, holds]
    exact view.any_atEnd? here (fun _ => ih) .source
  | target operand ih =>
    rw [holds, holds]
    exact view.any_atEnd? here (fun _ => ih) .target
  | connects first second ihFirst ihSecond =>
    have start := view.any_atEnd? here (fun _ => ihFirst) .source
    have goal := view.any_atEnd? here (fun _ => ihSecond) .target
    rw [holds, holds, start]
    by_cases isFlow : cell.isFlow = true
    · simp only [isFlow, Bool.true_and] at goal
      rw [goal]
    · simp [isFlow]

theorem evaluate_sameView (view : these.SameView those reached) {cell : Cell}
    (here : reached cell) (text : String) :
    evaluate these cell text = evaluate those cell text := by
  unfold evaluate
  cases parse text with
  | error _ => rfl
  | ok expression => exact expression.holds_sameView view here

end Expression
end View
end ThreatAnalysis
