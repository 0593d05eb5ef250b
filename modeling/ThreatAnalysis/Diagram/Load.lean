import ThreatAnalysis.Diagram.Basic
import ThreatAnalysis.Files.Breakdown
import ThreatAnalysis.Files.Document

/-!
Diagrams in files. A path with which no file system is asked counts as that of a file without a
document.
-/
namespace ThreatAnalysis.Diagram

/-- Why there is no diagram in a file. -/
inductive LoadError where
  | unreadable (path : Path) (error : FileError)
  /-- The file holds no document. -/
  | notDocument (path : Path)
  | format (error : FormatError)
  | broken (breakdown : Breakdown)
deriving DecidableEq, Repr

/-- The text of an error. -/
def LoadError.message : LoadError → String
  | .unreadable path error => "Cannot read diagram " ++ path.toString ++ ": " ++ error.message
  | .notDocument path => "Diagram " ++ path.toString ++ " is not valid JSON"
  | .format error => error.message
  | .broken breakdown => breakdown.message

/-- The error for a payload that is read as no diagram. -/
def LoadError.ofRead : ReadError → LoadError
  | .format error => .format error
  | .nesting => .broken .nesting

variable [Platform]

/-- Reads a payload. -/
def parse (payload : Json) : Except LoadError Diagram :=
  (read payload).mapError .ofRead

/-- Reads the diagram in a file. -/
def load (tree : FileTree) (path : Path) : Except LoadError Diagram :=
  match tree.document path with
  | .ok payload => parse payload
  | .error .nesting => .error (.broken .nesting)
  | .error (.file error) =>
    if error.cause = .nullInPath then .error (.notDocument path)
    else .error (.unreadable path error)
  | .error _ => .error (.notDocument path)

end ThreatAnalysis.Diagram
