import ThreatAnalysis.Files.Breakdown
import ThreatAnalysis.Files.Document
import ThreatAnalysis.Json.TextForm

/-!
Architecture templates: documents with a summary and a detail section, kept as files of one
directory. Listing a directory passes over every file that is no such document, and fails only by a
breakdown.
-/
namespace ThreatAnalysis

/-- A template, as the document of a file. -/
structure Template where
  fileName : String
  document : Fields

namespace Template

variable [Platform]

/-- Whether a section says something: it is not null, empty text, false or zero. -/
def isSection : Json → Bool
  | .null => false
  | .bool value => value
  | .int value => value ≠ 0
  | .double value => !value.isZero
  | .string value => !value.isEmpty
  | _ => true

/-- Whether a document has a section. -/
def hasSection (document : Fields) (key : String) : Bool :=
  (document.get? key).any isSection

/-- The template that a document is. -/
def ofDocument? (fileName : String) : Json → Option Template
  | .object document =>
    if hasSection document "summary" && hasSection document "detail" then some ⟨fileName, document⟩
    else none
  | _ => none

/-- The template in a file, if there is one. -/
def read (tree : FileTree) (directory : Path) (fileName : String) :
    Except Breakdown (Option Template) :=
  match tree.document (directory.child fileName) with
  | .ok document => .ok (ofDocument? fileName document)
  | .error .nesting => .error .nesting
  | .error _ => .ok none

/-- The templates in files of a directory. -/
def readAll (tree : FileTree) (directory : Path) (names : List String) :
    Except Breakdown (List Template) := do
  let found ← (names.filter fun name => Path.suffix name == ".json").mapM (read tree directory)
  return found.filterMap id

/-- The templates of a directory, in the order of their file names; none if it is no directory. -/
def list (tree : FileTree) (directory : Path) : Except Breakdown (List Template) :=
  match tree.isDirectory directory with
  | .error error => .error (.file error)
  | .ok false => .ok []
  | .ok true =>
    match tree.list directory with
    | .ok names => readAll tree directory names
    | .error error => .error (.file error)

/-- The identifier of a template: the name of its file without the suffix. -/
def id (template : Template) : String :=
  Path.stem template.fileName

/-- The document of a template, tagged with its identifier and the name of its file. -/
def write (template : Template) : Json :=
  .object ((template.document.put "id" (.string template.id)).put "fileName"
    (.string template.fileName))

/-- The title under which a template is shown: the title in its summary, or the whole summary if it
is no object. A title that is neither a text nor null cannot be shown. -/
def title? (template : Template) : Option String :=
  match template.document.get? "summary" with
  | some (.object summary) =>
    match Fields.get? summary "title" with
    | none => some ""
    | some .null => some ""
    | some (.string title) => some title
    | some _ => none
  | some summary => some summary.text
  | none => some ""

end Template
end ThreatAnalysis
