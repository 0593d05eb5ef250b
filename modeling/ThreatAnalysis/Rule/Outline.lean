import ThreatAnalysis.Diagram.Cell

/-!
Outlines: what a rule says about the findings it generates. Every field is a text that may be
null, and null, the empty text and an absent field all mean that a default is used.
-/
namespace ThreatAnalysis
namespace Outline

/-- The fields of an outline. -/
inductive Field where
  | title
  /-- The category of the finding. -/
  | stride
  /-- The category of the finding if `stride` is not said. -/
  | type
  | severity
  | description
  | mitigation
deriving DecidableEq, Repr

/-- The key a field is written under. -/
def Field.key : Field → String
  | .title => "title"
  | .stride => "stride"
  | .type => "type"
  | .severity => "severity"
  | .description => "description"
  | .mitigation => "mitigation"

/-- The fields of an outline, their keys and their values. -/
def schema : Schema where
  Field := Field
  decEq := inferInstance
  fields := [.title, .stride, .type, .severity, .description, .mitigation]
  Value _ := Option String
  key := Field.key
  otherKey _ := none
  required _ := false
  default _ := none
  read _ := Readers.nullableText
  write _ _ := Cell.nullable

end Outline

/-- What a rule says about the findings it generates. -/
abbrev Outline := Record Outline.schema

namespace Outline

/-- The text of a field, if it says anything. -/
def said (outline : Outline) (field : Field) : Option String :=
  (outline.get field : Option String).filter fun text => !text.isEmpty

end Outline
end ThreatAnalysis
