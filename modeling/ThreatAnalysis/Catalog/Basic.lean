import ThreatAnalysis.Catalog.RuleFile
import ThreatAnalysis.Catalog.Settings

/-!
The catalog of rules. The baseline consists of the rules of all documents in the rules directory,
in the order of their names, except those whose names are reserved; the supplemental rules come
from one further file. A rules directory that does not exist is made. Only a directory that can be
neither made nor listed, and a breakdown, prevent loading: a problem with a single file leaves out
that file.
-/
namespace ThreatAnalysis

/-- The rules in the order in which they apply, and the files they come from. -/
structure Catalog where
  baseline : List Rule
  supplemental : List Rule
  files : List RuleFile

/-- Why no catalog can be loaded. -/
inductive CatalogError where
  /-- The rules directory cannot be made or listed. -/
  | directory (path : Path) (error : FileError)
  | broken (breakdown : Breakdown)
deriving DecidableEq, Repr

namespace CatalogError

/-- The text of an error. -/
def message : CatalogError → String
  | .directory path error =>
    "Cannot read rules directory " ++ path.toString ++ ": " ++ error.message
  | .broken breakdown => breakdown.message

/-- The error for a rules directory that cannot be made or listed. Only what the file system says
of it is foreseen. -/
def ofFile (path : Path) (error : FileError) : CatalogError :=
  if error.cause = .nullInPath then .broken (.file error) else .directory path error

end CatalogError

namespace Catalog

variable [Platform]

/-- The catalog before anything is loaded. -/
def empty : Catalog := ⟨[], [], []⟩

/-- Whether a name in the rules directory is that of a baseline document. -/
def isBaselineName (reservedPrefix name : String) : Bool :=
  Path.suffix name == ".json" && !reservedPrefix.isPrefixOf name

/-- The documents of the baseline in a directory that exists. -/
def baselineFiles (tree : FileTree) (directory : Path) (reservedPrefix : String) :
    Except CatalogError (List RuleFile) := do
  let names ← (tree.list directory).mapError (.ofFile directory)
  (names.filter (isBaselineName reservedPrefix)).mapM fun name =>
    (RuleFile.read tree (directory.child name)).mapError .broken

/-- Makes the rules directory if nothing stands there. -/
def prepare (tree : FileTree) (directory : Path) : FileTree × Except CatalogError Unit :=
  match tree.contains directory with
  | .ok true => (tree, .ok ())
  | .error error => (tree, .error (.ofFile directory error))
  | .ok false =>
    if tree.lacksTooMany directory then (tree, .error (.broken .nesting))
    else
      match tree.makeDirectories directory with
      | (tree, .ok _) => (tree, .ok ())
      | (tree, .error error) => (tree, .error (.ofFile directory error))

/-- Loads the baseline. -/
def loadBaseline (tree : FileTree) (directory : Path) (reservedPrefix : String) :
    FileTree × Except CatalogError (List RuleFile) :=
  match prepare tree directory with
  | (tree, .error error) => (tree, .error error)
  | (tree, .ok ()) => (tree, baselineFiles tree directory reservedPrefix)

/-- The catalog of baseline files and the supplemental file. -/
def ofFiles (baseline : List RuleFile) (supplemental : RuleFile) : Catalog where
  baseline := baseline.flatMap (·.rules)
  supplemental := supplemental.rules
  files := baseline ++ [supplemental]

/-- Loads the catalog. -/
def load (tree : FileTree) (settings : Settings) : FileTree × Except CatalogError Catalog :=
  match loadBaseline tree settings.rulesDirectory settings.reservedPrefix with
  | (tree, .error error) => (tree, .error error)
  | (tree, .ok baseline) =>
    match RuleFile.readOptional tree settings.supplementalPath with
    | .ok supplemental => (tree, .ok (ofFiles baseline supplemental))
    | .error breakdown => (tree, .error (.broken breakdown))

end Catalog
end ThreatAnalysis
