import ThreatAnalysis.Catalog.Bundled
import ThreatAnalysis.Catalog.Settings
import ThreatAnalysis.Json.Writer

/-!
Snapshots: the files and the environment of a run, as one document. Its member `files` holds the
text of each file under its name, and null for a directory; its member `environment` holds the
values of variables.
-/
namespace ThreatAnalysis

/-- The files and the environment of a run. -/
structure Snapshot where
  files : FileTree
  environment : Environment

namespace Snapshot

/-- The members of a part of a document. -/
def part (document : Json) (key : String) : Fields :=
  match document.get? key with
  | some (.object members) => members
  | _ => []

/-- Puts a file or a directory where its name leads. -/
def place (files : FileTree) (name : String) (content : Json) : FileTree :=
  let location := FileTree.destination (.ofString name)
  match content with
  | .string text => files.place location (.file (.text text))
  | .null => files.place location .directory
  | _ => files

/-- The variable and value of a member, if its value is a text. -/
def binding? : String × Json → Option (String × String)
  | (name, .string value) => some (name, value)
  | _ => none

/-- Reads a snapshot. -/
def read [Platform] (document : Json) : Snapshot where
  files := (part document "files").foldl (fun files (name, content) => place files name content)
    .initial
  environment := (part document "environment").filterMap binding?

/-- What stands at a location, as a member of a document. -/
def write (location : Location) (entry : Entry) : Option (String × Json) :=
  let name := "/" ++ "/".intercalate location
  match entry with
  | .file (.text text) => some (name, .string text)
  | .file (.binary _) => none
  | .directory => some (name, .null)

/-- The members for what one tree has and another one has not. -/
def changes (before after : FileTree) : Fields :=
  after.entries.filterMap fun (location, entry) =>
    let same := (before.find? location).bind (write location)
    match write location entry with
    | none => none
    | some (name, content) =>
      if same.any fun (_, old) => old.equal content then none else some (name, content)

end Snapshot
end ThreatAnalysis
