import ThreatAnalysis.Analysis.Basic
import ThreatAnalysis.Diagram.Severity
import ThreatAnalysis.Json.Writer

/-!
Reports of an analysis: the analyzed diagram and the rules that were applied, as a text summary
and as a document. The counts by severity go by the texts of the findings, while findings are
ranked by the levels that those texts name.
-/
namespace ThreatAnalysis

/-- What is known about an engine: the rules it has, and whether it applies the supplemental
ones. -/
structure EngineInfo where
  initialized : Bool
  baselineRules : Nat
  supplementalRules : Nat
  supplementalEnabled : Bool
deriving DecidableEq, Repr

namespace EngineInfo

/-- The number of rules that apply. -/
def totalRules (info : EngineInfo) : Nat :=
  info.baselineRules + if info.supplementalEnabled then info.supplementalRules else 0

/-- The state of an engine with rules, which are there once they are loaded. -/
def ofRules (initialized : Bool) (rules : Catalog) (supplementalEnabled : Bool) : EngineInfo :=
  ⟨initialized, rules.baseline.length, rules.supplemental.length, supplementalEnabled⟩

/-- The rules of an engine in words. -/
def describe (info : EngineInfo) : String :=
  toString info.baselineRules ++ " baseline, " ++ toString info.supplementalRules ++
    " supplemental (" ++ (if info.supplementalEnabled then "enabled" else "disabled") ++ ")"

/-- The document of an engine. -/
def write (info : EngineInfo) : Json :=
  .object [("initialized", .bool info.initialized),
    ("baseline_rule_count", .int info.baselineRules),
    ("supplemental_rule_count", .int info.supplementalRules),
    ("supplemental_enabled", .bool info.supplementalEnabled),
    ("total_rule_count", .int info.totalRules)]

end EngineInfo

/-- The result of an analysis. -/
structure Report where
  /-- Where the diagram comes from. -/
  source : String
  diagram : Diagram
  engine : EngineInfo

namespace Report

variable [Platform]

/-- Analyzes a diagram with a catalog. The supplemental rules are included as the run says, or as
the engine is set if the run does not say. -/
def ofRun (source : String) (diagram : Diagram) (catalog : Catalog) (enabled : Bool)
    (override : Option Bool) : Report :=
  let supplemental := override.getD enabled
  { source := source
    diagram := diagram.analyze catalog supplemental
    engine := .ofRules true catalog supplemental }

/-- The findings with their cells, in the order of the diagram. -/
def findings (report : Report) : List (Cell × Finding) :=
  report.diagram.cells.flatMap fun cell => cell.findings.map (cell, ·)

/-- The findings with their cells, the most severe first. -/
def ranked (report : Report) : List (Cell × Finding) :=
  Severity.sortBy (fun (_, finding) => finding.severity) report.findings

/-- Counts one more occurrence of a text. -/
def countText (text : String) : List (String × Nat) → List (String × Nat)
  | [] => [(text, 1)]
  | (other, count) :: rest =>
    if other = text then (other, count + 1) :: rest else (other, count) :: countText text rest

/-- The number of findings for each severity text, in the order in which the texts occur first. -/
def countBySeverity (report : Report) : List (String × Nat) :=
  report.findings.foldl (fun counts (_, finding) => countText finding.severity counts) []

/-- The number of findings with a severity text. -/
def countOf (report : Report) (text : String) : Nat :=
  (report.countBySeverity.lookup text).getD 0

/-- How many findings the summary shows. -/
def shownFindings : Nat := 10

/-- How many characters of a mitigation the summary shows. -/
def shownMitigation : Nat := 100

/-- The lines of the summary for a finding. -/
def findingLines (cell : Cell) (finding : Finding) : List String :=
  let mitigation :=
    if finding.mitigation.isEmpty then []
    else ["    Mitigation: " ++ String.ofList (finding.mitigation.toList.take shownMitigation)]
  ["  [" ++ finding.severity ++ "] " ++ finding.title,
    "    Cell: " ++ cell.nameOr cell.id ++ " (" ++ finding.category ++ ")"] ++ mitigation ++ [""]

/-- The lines of the summary for the most severe findings. -/
def topLines (report : Report) : List String :=
  if report.diagram.threatCount = 0 then []
  else
    ["Top Threats:", "".pushn '-' 30] ++
      (report.ranked.take shownFindings).flatMap fun (cell, finding) => findingLines cell finding

/-- The lines of the summary. -/
def summaryLines (report : Report) : List String :=
  ["Threat Map Analysis: " ++ report.source,
    "".pushn '=' 50,
    "",
    "Diagram: " ++ report.diagram.displayTitle,
    "Cells: " ++ toString report.diagram.cells.length,
    "Rules: " ++ report.engine.describe,
    "",
    "Threats: " ++ toString report.diagram.threatCount ++ " total"] ++
  Severity.all.map (fun level =>
    "  " ++ level.name ++ ": " ++ toString (report.countOf level.name)) ++
  [""] ++ report.topLines

/-- The text summary. -/
def summary (report : Report) : String :=
  "\n".intercalate report.summaryLines

/-- The document of a report. -/
def write (report : Report) : Json :=
  let counts := report.countBySeverity.map fun (text, count) => (text, Json.int count)
  .object [("source_path", .string report.source),
    ("analysis_timestamp", .string Platform.timestamp),
    ("summary", .object [("title", .string report.diagram.title),
      ("num_cells", .int report.diagram.cells.length),
      ("threat_count", .int report.diagram.threatCount),
      ("by_severity", .object counts)]),
    ("engine", report.engine.write),
    ("diagram", report.diagram.encode .given)]

/-- The content of the file in which a report is kept as a document. -/
def content (report : Report) (style : Json.Style) : Content :=
  .text (report.write.render style)

end Report
end ThreatAnalysis
