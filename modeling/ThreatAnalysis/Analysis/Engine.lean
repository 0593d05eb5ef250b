import ThreatAnalysis.Analysis.Report
import ThreatAnalysis.Diagram.Load

/-!
Engines. An engine applies the catalog of a store with settings of its own. A store loads its
catalog once: as long as loading fails it has none and may try again, and once it has one nothing
changes it. A report can be asked of an engine that has not loaded anything yet, which then does
so; a diagram in a file is read before that, and a payload only after it. An analysis works on a
copy of the diagram, which fails if the diagram is nested too deep.
-/
namespace ThreatAnalysis

/-- Where the diagram of an analysis comes from. -/
inductive DiagramSource where
  | file (name : String)
  | payload (payload : Json)
  | diagram (diagram : Diagram)

/-- Why an analysis fails. -/
inductive AnalysisError where
  /-- The engine has loaded no rules yet. -/
  | notInitialized
  | rules (error : CatalogError)
  | diagram (error : Diagram.LoadError)
  /-- The diagram cannot be copied. -/
  | copy (breakdown : Breakdown)
deriving DecidableEq, Repr

namespace AnalysisError

/-- The text of an error. -/
def message : AnalysisError → String
  | .notInitialized => "Threat engine not initialized. Call initialize() first."
  | .rules error => error.message
  | .diagram error => error.message
  | .copy breakdown => breakdown.message

/-- The breakdown behind an error, if it is none that is foreseen. -/
def breakdown? : AnalysisError → Option Breakdown
  | .rules (.broken breakdown) => some breakdown
  | .diagram (.broken breakdown) => some breakdown
  | .copy breakdown => some breakdown
  | _ => none

end AnalysisError

namespace DiagramSource

variable [Platform]

/-- The source that a document stands for when a report is asked for: a text is the name of a
file. -/
def ofDocument : Json → DiagramSource
  | .string name => .file name
  | document => .payload document

/-- The name by which a report calls its source. -/
def name : DiagramSource → String
  | .file name => name
  | _ => "<payload>"

/-- Reads the diagram of a source, a file as it is in the tree. -/
def read (tree : FileTree) : DiagramSource → Except Diagram.LoadError Diagram
  | .file name => Diagram.load tree (.ofString name)
  | .payload document => Diagram.parse document
  | .diagram known => .ok known

/-- Whether the source has to be read before rules are loaded. -/
def isFile : DiagramSource → Bool
  | .file _ => true
  | _ => false

end DiagramSource

namespace Engine

variable [Platform]

/-- The copy of a diagram that an analysis works on. -/
def copy (diagram : Diagram) : Except AnalysisError Diagram :=
  if (diagram.encode .given).depth ≤ Platform.deepestDiagram then .ok diagram else .error (.copy .nesting)

/-- Analyzes a diagram with the catalog of an engine, if it has one. -/
def analyze (catalog : Option Catalog) (enabled : Bool) (source : DiagramSource) (tree : FileTree)
    (override : Option Bool) : Except AnalysisError Diagram :=
  match catalog with
  | none => .error .notInitialized
  | some catalog => do
    let diagram ← copy (← (source.read tree).mapError .diagram)
    return diagram.analyze catalog (override.getD enabled)

/-- The catalog a store has after it was asked to load: the one it has, or the one in the files. -/
def loadOnce (catalog : Option Catalog) (tree : FileTree) (settings : Settings) :
    FileTree × Except CatalogError Catalog :=
  match catalog with
  | some catalog => (tree, .ok catalog)
  | none => Catalog.load tree settings

/-- Reports on a source that was read already, or is read once there is a catalog. The catalog
comes back with the report, also if the report fails. -/
def reportOn (source : String) (diagram : Except Diagram.LoadError Diagram)
    (catalog : Option Catalog) (tree : FileTree) (loading : Settings) (enabled : Bool)
    (override : Option Bool) : FileTree × Option Catalog × Except AnalysisError Report :=
  match loadOnce catalog tree loading with
  | (tree, .error error) => (tree, catalog, .error (.rules error))
  | (tree, .ok catalog) =>
    match diagram.mapError .diagram >>= copy with
    | .error error => (tree, some catalog, .error error)
    | .ok diagram => (tree, some catalog, .ok (.ofRun source diagram catalog enabled override))

/-- Loads the rules if need be, analyzes and reports. -/
def report (source : DiagramSource) (catalog : Option Catalog) (tree : FileTree)
    (loading : Settings) (enabled : Bool) (override : Option Bool) :
    FileTree × Option Catalog × Except AnalysisError Report :=
  match source.isFile, source.read tree with
  | true, .error error => (tree, catalog, .error (.diagram error))
  | _, diagram => reportOn source.name diagram catalog tree loading enabled override

end Engine
end ThreatAnalysis
