import ThreatAnalysis.Files.Breakdown
import ThreatAnalysis.Files.Document
import ThreatAnalysis.Rule.Basic

/-!
Rule files. A file of rules is a document with an array of entries, each of which is a rule or is
left out. A file that cannot be read, or is no such document, counts as a file without rules that
has a problem; reading it fails only by a breakdown: if the document is nested too deep, or if it
stays open whether there is a file.
-/
namespace ThreatAnalysis

/-- What is wrong with a file of rules. -/
inductive RuleFileProblem where
  /-- There is no file, where one is optional. -/
  | absent
  | document (error : DocumentError)
  /-- The document has no array of entries. -/
  | noEntries
deriving DecidableEq, Repr

/-- The name under which a problem is reported. -/
def RuleFileProblem.name : RuleFileProblem → String
  | .absent => "not found"
  | .document error => error.name
  | .noEntries => "ValidationError"

/-- What is wrong in detail; a file that is absent needs no details. -/
def RuleFileProblem.detail? : RuleFileProblem → Option String
  | .absent => none
  | .document error => some error.message
  | .noEntries => some "There is no array of rules"

/-- The text of a problem: its name, and the details. -/
def RuleFileProblem.message (problem : RuleFileProblem) : String :=
  problem.name ++ ((problem.detail?.map (": " ++ ·)).getD "")

/-- The outcome of reading a file of rules. -/
structure RuleFile where
  path : Path
  rules : List Rule
  problem : Option RuleFileProblem
  /-- The number of entries that are no rules. -/
  skipped : Nat

namespace RuleFile

variable [Platform]

/-- The outcome for a file with a problem. -/
def failed (path : Path) (problem : RuleFileProblem) : RuleFile :=
  ⟨path, [], some problem, 0⟩

/-- The outcome for the entries of a document. -/
def ofEntries (path : Path) (entries : List Json) : RuleFile where
  path := path
  rules := entries.filterMap fun entry => (Rule.read entry).toOption
  problem := none
  skipped := entries.countP fun entry => (Rule.read entry).toOption.isNone

/-- The entries of a document. -/
def entries? (document : Json) : Option (List Json) :=
  match document.get? "rules" with
  | some (.array entries) => some entries
  | _ => none

/-- The outcome for a document. -/
def ofDocument (path : Path) (document : Json) : RuleFile :=
  match entries? document with
  | some entries => ofEntries path entries
  | none => failed path .noEntries

/-- Reads a file of rules. -/
def read (tree : FileTree) (path : Path) : Except Breakdown RuleFile :=
  match tree.document path with
  | .ok document => .ok (ofDocument path document)
  | .error .nesting => .error .nesting
  | .error error => .ok (failed path (.document error))

/-- Reads a file of rules that is optional. -/
def readOptional (tree : FileTree) (path : Path) : Except Breakdown RuleFile :=
  match tree.isFile path with
  | .ok true => read tree path
  | .ok false => .ok (failed path .absent)
  | .error error => .error (.file error)

/-- Whether a file has no problem. -/
def isOk (file : RuleFile) : Bool := file.problem.isNone

end RuleFile
end ThreatAnalysis
