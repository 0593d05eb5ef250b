import ThreatAnalysis.Expression.Basic

/-! The shape of expression trees: induction over them with the operands of a list as members, the
trees without unknown parts, and how deep calls lie within one another. -/
namespace ThreatAnalysis.Expression

/-- Induction over a tree in which each operand of a list is an immediate part. -/
@[elab_as_elim]
theorem tree_induction {motive : Expression → Prop}
    (primitive : ∀ predicate, motive (.primitive predicate))
    (unknown : ∀ text, motive (.unknown text))
    (hasProperty : ∀ name value, motive (.hasProperty name value))
    (not : ∀ operand, motive operand → motive (.not operand))
    (and : ∀ operands, (∀ operand ∈ operands, motive operand) → motive (.and operands))
    (or : ∀ operands, (∀ operand ∈ operands, motive operand) → motive (.or operands))
    (source : ∀ operand, motive operand → motive (.source operand))
    (target : ∀ operand, motive operand → motive (.target operand))
    (connects : ∀ first second, motive first → motive second → motive (.connects first second))
    (tree : Expression) : motive tree := by
  refine @Expression.rec motive (fun operands => ∀ operand ∈ operands, motive operand)
    primitive unknown hasProperty not and or source target connects ?_ ?_ tree
  · intro operand member
    cases member
  · intro head rest holdsHead holdsRest operand member
    rcases List.mem_cons.mp member with rfl | member
    · exact holdsHead
    · exact holdsRest operand member

/-- A tree without an unknown part at any depth. -/
inductive Known : Expression → Prop where
  | primitive (predicate : Predicate) : Known (.primitive predicate)
  | hasProperty (name : String) (value : Option String) : Known (.hasProperty name value)
  | not (operand : Known e) : Known (.not e)
  | and (operands : ∀ e ∈ es, Known e) : Known (.and es)
  | or (operands : ∀ e ∈ es, Known e) : Known (.or es)
  | source (operand : Known e) : Known (.source e)
  | target (operand : Known e) : Known (.target e)
  | connects (first : Known a) (second : Known b) : Known (.connects a b)

mutual

/-- How many calls of a tree lie within one another. -/
def nesting : Expression → Nat
  | .primitive _ => 0
  | .unknown _ => 0
  | .hasProperty _ _ => 1
  | .not operand => nesting operand + 1
  | .and operands => nestingOfAll operands + 1
  | .or operands => nestingOfAll operands + 1
  | .source operand => nesting operand + 1
  | .target operand => nesting operand + 1
  | .connects first second => max (nesting first) (nesting second) + 1

/-- The deepest nesting among several trees. -/
def nestingOfAll : List Expression → Nat
  | [] => 0
  | operand :: rest => max (nesting operand) (nestingOfAll rest)

end

theorem nesting_le_ofAll (member : operand ∈ operands) :
    nesting operand ≤ nestingOfAll operands := by
  induction operands with
  | nil => cases member
  | cons head rest ih =>
    rw [nestingOfAll]
    rcases List.mem_cons.mp member with rfl | member
    · exact Nat.le_max_left _ _
    · exact Nat.le_trans (ih member) (Nat.le_max_right _ _)

end ThreatAnalysis.Expression
