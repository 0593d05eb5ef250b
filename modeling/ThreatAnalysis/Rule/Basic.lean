import ThreatAnalysis.Rule.Outline

/-!
Rules: match expressions and the outline of the finding that a rule generates on a cell for which
one of them holds.
-/
namespace ThreatAnalysis
namespace Rule

/-- The fields of a rule. -/
inductive Field where
  | name
  | expressions
  | outline
deriving DecidableEq, Repr

/-- The values of a field. -/
abbrev Value : Field → Type
  | .name => Option String
  | .expressions => List String
  | .outline => Outline

/-- The fields of a rule, their keys and their values. -/
def schema : Schema where
  Field := Field
  decEq := inferInstance
  fields := [.name, .expressions, .outline]
  Value := Value
  key
    | .name => "rule"
    | .expressions => "matches"
    | .outline => "generates"
  otherKey
    | .name => some "name"
    | _ => none
  required _ := false
  default
    | .name => none
    | .expressions => []
    | .outline => Record.empty
  read
    | .name => Readers.nullableText
    | .expressions => Readers.nullableList Readers.text
    | .outline => Outline.schema.decode
  write
    | _, .name, name => Cell.nullable name
    | _, .expressions, expressions => .array (expressions.map .string)
    | detail, .outline, outline => outline.encode detail

end Rule

/-- A rule of the catalog. -/
abbrev Rule := Record Rule.schema

namespace Rule

def name (rule : Rule) : Option String := rule.get .name
def expressions (rule : Rule) : List String := rule.get .expressions
def outline (rule : Rule) : Outline := rule.get .outline

/-- Whether the rule has an expression; without one it never applies. -/
def isActive (rule : Rule) : Bool :=
  !rule.expressions.isEmpty

/-- Reads a rule. -/
def read : Json → Reading Rule := schema.decode

variable [Platform]

/-- The texts of the finding that a rule generates on a cell. -/
def textOn (rule : Rule) (cell : Cell) : Finding.TextField → String
  | .id => cell.id ++ "-" ++ Platform.mark
  | .title => (rule.outline.said .title).getD "Untitled Threat"
  | .category => ((rule.outline.said .stride).or (rule.outline.said .type)).getD "Undefined"
  | .status => "Open"
  | .severity => (rule.outline.said .severity).getD "Medium"
  | .description => (rule.outline.said .description).getD ""
  | .mitigation => (rule.outline.said .mitigation).getD ""
  | .subject => cell.nameOr cell.type
  | .origin => (rule.name.filter fun name => !name.isEmpty).getD "Threat rule"

/-- The finding that a rule generates on a cell. Each of its fields is given. -/
def findingOn (rule : Rule) (cell : Cell) : Finding where
  given
    | .text field => some (rule.textOn cell field)
    | .generated => some true
  extras := []

end Rule
end ThreatAnalysis
