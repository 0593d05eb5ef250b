/-!
Match expressions: boolean expressions over the cells of a data-flow diagram. An expression is a
named predicate, a test of an attribute, a boolean combination, or a test of the cells at the two
ends of a flow. Text that is no expression is kept as an `unknown` leaf, which never holds.
-/
namespace ThreatAnalysis

/-- The predicates that an expression can name. -/
inductive Predicate where
  | isActor
  | isProcess
  | isStore
  | isFlow
  | isAnyProcess
  | isEncrypted
  | isPublicNetwork
  | isOutOfScope
  | isPublicFacing
  | isWebApplication
  | isAPI
deriving DecidableEq, Repr

namespace Predicate

/-- The name by which an expression calls the predicate. -/
def name : Predicate → String
  | .isActor => "isActor"
  | .isProcess => "isProcess"
  | .isStore => "isStore"
  | .isFlow => "isFlow"
  | .isAnyProcess => "isAnyProcess"
  | .isEncrypted => "isEncrypted"
  | .isPublicNetwork => "isPublicNetwork"
  | .isOutOfScope => "isOutOfScope"
  | .isPublicFacing => "isPublicFacing"
  | .isWebApplication => "isWebApplication"
  | .isAPI => "isAPI"

/-- Every predicate, once. -/
def all : List Predicate :=
  [.isActor, .isProcess, .isStore, .isFlow, .isAnyProcess, .isEncrypted, .isPublicNetwork,
    .isOutOfScope, .isPublicFacing, .isWebApplication, .isAPI]

/-- The predicate of a name, which is matched exactly. -/
def ofName? (text : String) : Option Predicate :=
  all.find? fun predicate => predicate.name == text

theorem mem_all (predicate : Predicate) : predicate ∈ all := by
  cases predicate <;> decide

end Predicate

/-- A parsed match expression. -/
inductive Expression where
  /-- A named predicate of the cell. -/
  | primitive (predicate : Predicate)
  /-- Text that is no expression. -/
  | unknown (text : String)
  /-- The attribute is present and not null, and its text form is `value` if one is given. -/
  | hasProperty (name : String) (value : Option String)
  | not (operand : Expression)
  /-- Every operand holds. -/
  | and (operands : List Expression)
  /-- Some operand holds. -/
  | or (operands : List Expression)
  /-- The cell is a flow, and the operand holds of the cell it starts from. -/
  | source (operand : Expression)
  /-- The cell is a flow, and the operand holds of the cell it leads to. -/
  | target (operand : Expression)
  /-- The cell is a flow, and each end meets its operand. -/
  | connects (source target : Expression)
deriving Repr, Inhabited

end ThreatAnalysis
