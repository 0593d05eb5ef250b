/-!
Issues: what is wrong with a document, and where. An issue is located by the keys and indices that
lead to the value it is about.
-/
namespace ThreatAnalysis

/-- A step from a value to one inside it. -/
inductive Step where
  | key (name : String)
  | index (position : Nat)
deriving DecidableEq, Repr

/-- What can be wrong with a value. -/
inductive IssueKind where
  /-- A required field is absent. -/
  | missing
  /-- Not a string. -/
  | notString
  /-- Nothing that could stand for a flag. -/
  | notFlag
  /-- A string or number that stands for no flag. -/
  | unknownFlag
  /-- Not an array. -/
  | notList
  /-- Not an object. -/
  | notObject
  /-- Not a path. -/
  | notPath
  /-- An integer with too many digits for a text. -/
  | longInteger
deriving DecidableEq, Repr

/-- The name under which an issue is reported. -/
def IssueKind.name : IssueKind → String
  | .missing => "missing"
  | .notString => "string_type"
  | .notFlag => "bool_type"
  | .unknownFlag => "bool_parsing"
  | .notList => "list_type"
  | .notObject => "model_type"
  | .notPath => "path_type"
  | .longInteger => "value_error"

/-- An issue and its place. -/
structure Issue where
  place : List Step
  kind : IssueKind
deriving DecidableEq, Repr

namespace Issue

/-- An issue of the value itself. -/
def here (kind : IssueKind) : Issue := ⟨[], kind⟩

/-- The same issue, seen from a value around it. -/
def under (step : Step) (issue : Issue) : Issue :=
  { issue with place := step :: issue.place }

end Issue

/-- The outcome of reading a value: what was read, or every issue found. -/
abbrev Reading (α : Type) := Except (List Issue) α

namespace Reading

/-- The issues of a reading, none if it succeeded. -/
def issues {α : Type} : Reading α → List Issue
  | .ok _ => []
  | .error found => found

/-- The same reading, seen from a value around it. -/
def under {α : Type} (step : Step) (reading : Reading α) : Reading α :=
  reading.mapError (·.map (·.under step))

end Reading
end ThreatAnalysis
