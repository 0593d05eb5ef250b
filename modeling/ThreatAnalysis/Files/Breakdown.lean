import ThreatAnalysis.Files.Tree

/-!
Breakdowns. Most failures are foreseen by the operation they happen in, which then goes on without
a file or says what is wrong. A breakdown is a failure that none foresees: it ends whatever is
going on, and only its name is reported.
-/
namespace ThreatAnalysis

/-- A failure that nothing provides for. -/
inductive Breakdown where
  | file (error : FileError)
  /-- A document is nested too deep to be read or copied, or directories to be made. -/
  | nesting
deriving DecidableEq, Repr

namespace Breakdown

/-- The name under which a breakdown is reported. -/
def name : Breakdown → String
  | .file error => error.cause.name
  | .nesting => "RecursionError"

/-- The text of a breakdown. -/
def message : Breakdown → String
  | .file error => error.message
  | .nesting => "maximum nesting depth exceeded"

end Breakdown
end ThreatAnalysis
