import ThreatAnalysis.Json.TextForm
import ThreatAnalysis.Record.Schema

/-!
Findings: the threats attached to a cell. Findings written by hand are read leniently: a text
field takes any value by its text form, and null stands for the default of the field. A value with
an integer that is too long has no text form, and reading one that is nested too deep breaks down.
Only the value true marks a finding as generated, so that everything else counts as written by hand.
-/
namespace ThreatAnalysis
namespace Finding

/-- The text fields of a finding. -/
inductive TextField where
  | id
  | title
  | category
  | status
  | severity
  | description
  | mitigation
  /-- The name of the cell the finding is about, or its type. -/
  | subject
  /-- The name of the rule that generated the finding. -/
  | origin
deriving DecidableEq, Repr

/-- The fields of a finding. -/
inductive Field where
  | text (field : TextField)
  /-- Whether the finding was generated. -/
  | generated
deriving DecidableEq, Repr

/-- The values of a field. -/
abbrev Value : Field → Type
  | .text _ => String
  | .generated => Bool

/-- The key a text field is written under. -/
def TextField.key : TextField → String
  | .id => "id"
  | .title => "title"
  | .category => "type"
  | .status => "status"
  | .severity => "severity"
  | .description => "description"
  | .mitigation => "mitigation"
  | .subject => "modelType"
  | .origin => "generatedBy"

/-- Another key a text field may be given under. -/
def TextField.otherKey : TextField → Option String
  | .category => some "category"
  | .subject => some "subject_type"
  | .origin => some "origin"
  | _ => none

/-- The text of a field that was not given. -/
def TextField.default : TextField → String
  | .title => "Untitled Threat"
  | .category => "Undefined"
  | .status => "Open"
  | .severity => "Medium"
  | _ => ""

/-- The text fields in the order they are written. -/
def TextField.all : List TextField :=
  [.id, .title, .category, .status, .severity, .description, .mitigation, .subject, .origin]

/-- Reads a text field: null stands for the default, every other value for its text form. -/
def TextField.read (field : TextField) : Json → Reading String
  | .null => .ok field.default
  | value => if value.hasLongInteger then .error [.here .longInteger] else .ok value.text

/-- The fields of a finding, their keys and their values. -/
def schema : Schema where
  Field := Field
  decEq := inferInstance
  fields := TextField.all.map .text ++ [.generated]
  Value := Value
  key
    | .text field => field.key
    | .generated => "isGenerated"
  otherKey
    | .text field => field.otherKey
    | .generated => some "synthetic"
  required _ := false
  default
    | .text field => field.default
    | .generated => false
  read
    | .text field => field.read
    | .generated => fun value => .ok (value matches .bool true)
  write
    | _, .text _, value => .string value
    | _, .generated, value => .bool value

end Finding

/-- A threat attached to a cell. -/
abbrev Finding := Record Finding.schema

namespace Finding

/-- The text of a field. -/
def text (finding : Finding) (field : TextField) : String :=
  finding.get (.text field)

def id (finding : Finding) : String := finding.text .id
def title (finding : Finding) : String := finding.text .title
def category (finding : Finding) : String := finding.text .category
def status (finding : Finding) : String := finding.text .status
def severity (finding : Finding) : String := finding.text .severity
def description (finding : Finding) : String := finding.text .description
def mitigation (finding : Finding) : String := finding.text .mitigation
def subject (finding : Finding) : String := finding.text .subject
def origin (finding : Finding) : String := finding.text .origin

/-- Whether the finding was generated by an earlier analysis. -/
def isGenerated (finding : Finding) : Bool := finding.get .generated

/-- Reads a finding. -/
def read : Json → Reading Finding := schema.decode

/-- Whether reading a finding breaks down: a text field has a value that is nested too deep. -/
def isTooDeep [Platform] : Json → Bool
  | .object fields => TextField.all.any fun field =>
    (schema.locate fields (.text field)).any fun (_, value) => value.isTooDeep
  | _ => false

/-- The names of the text fields in the literal of a finding. -/
def TextField.literalName : TextField → String
  | .id => "id"
  | .title => "title"
  | .category => "category"
  | .status => "status"
  | .severity => "severity"
  | .description => "description"
  | .mitigation => "mitigation"
  | .subject => "subject_type"
  | .origin => "origin"

/-- A finding written as a literal: all its fields, then its extras. -/
def literal (finding : Finding) : String :=
  let texts := TextField.all.map fun field =>
    field.literalName ++ "=" ++ Text.quoted (finding.text field)
  let generated := "synthetic=" ++ (Json.bool finding.isGenerated).literal
  let extras := finding.extras.map fun (key, value) => key ++ "=" ++ value.literal
  "Finding(" ++ ", ".intercalate (texts ++ generated :: extras) ++ ")"

/-- The literal of a finding, if it has one: each of its extras has to have a literal. -/
def literal? [Platform] (finding : Finding) : Option String :=
  if finding.extras.any fun (_, value) =>
      value.overflows Platform.deepestText || value.hasLongInteger then none
  else some finding.literal

/-- The short form of a finding. -/
def brief (finding : Finding) : Json :=
  .object [("id", .string finding.id), ("title", .string finding.title),
    ("category", .string finding.category), ("severity", .string finding.severity),
    ("status", .string finding.status), ("subject", .string finding.subject),
    ("origin", .string finding.origin)]

end Finding
end ThreatAnalysis
