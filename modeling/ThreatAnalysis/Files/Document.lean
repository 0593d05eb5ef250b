import ThreatAnalysis.Files.Tree
import ThreatAnalysis.Json.Reader

/-!
Documents in files. A file holds a document if its bytes are a text and the text is a document that
is not nested too deep and has no integer that is too long.
-/
namespace ThreatAnalysis

/-- Why no document can be read from a file. -/
inductive DocumentError where
  | file (error : FileError)
  /-- The bytes of the file are no text. -/
  | notText
  /-- The text of the file is no document. -/
  | notJson
  /-- The text of the file is nested too deep. -/
  | nesting
  /-- The text of the file has an integer with too many digits. -/
  | longInteger
deriving DecidableEq, Repr

/-- The name under which an error is reported. -/
def DocumentError.name : DocumentError → String
  | .file error => error.cause.name
  | .notText => "UnicodeDecodeError"
  | .notJson => "JSONDecodeError"
  | .nesting => "RecursionError"
  | .longInteger => "ValueError"

/-- The text of an error. -/
def DocumentError.message : DocumentError → String
  | .file error => error.message
  | .notText => "The bytes are no text"
  | .notJson => "The text is no document"
  | .nesting => "The document is nested too deep"
  | .longInteger => "Exceeds the limit (" ++ toString longestInteger ++ " digits) for an integer"

variable [Platform]

/-- The document of a content. -/
def Content.document : Content → Except DocumentError Json
  | .binary _ => .error .notText
  | .text written =>
    match Json.readWithin Platform.deepestDocument written with
    | .ok document => .ok document
    | .error .malformed => .error .notJson
    | .error .nesting => .error .nesting
    | .error .longInteger => .error .longInteger

/-- The document in a file. -/
def FileTree.document (tree : FileTree) (path : Path) : Except DocumentError Json :=
  match tree.read path with
  | .ok content => content.document
  | .error error => .error (.file error)

end ThreatAnalysis
