import ThreatAnalysis.Analysis.Engine
import ThreatAnalysis.CommandLine.Invocation
import ThreatAnalysis.CommandLine.Terminal
import ThreatAnalysis.Diagram.Template

/-!
Runs of the program. A run prints, may change the file tree, and may fail: a wrong command line or
a diagram that cannot be read end it with exit code 2, and every other failure ends it with exit
code 1. What was printed before a failure stays, and a report is printed before it is written. All
lines have markup. The texts of findings are escaped in it, all other texts are not, so that a tag
in the name of a file or in the title of a diagram counts as one.
-/
namespace ThreatAnalysis

/-- Why a run fails. -/
inductive RunFailure where
  | usage (error : UsageError)
  /-- There are no rules to analyze with. -/
  | analysis (error : AnalysisError)
  /-- A text cannot be shown. -/
  | shown (failure : Terminal.Failure)
  /-- The title of a template cannot be shown. -/
  | title (template : String)
  | broken (breakdown : Breakdown)
deriving DecidableEq, Repr

namespace RunFailure

/-- The exit code of a failure. -/
def exitCode : RunFailure → Nat
  | .usage _ => 2
  | _ => 1

/-- The name of a problem with a text. -/
def problemName : Terminal.Problem → String
  | .markup .unopened => "MarkupError"
  | .markup .missingNumber => "ValueError"
  | .unwritable => "UnicodeEncodeError"

/-- The line of errors for a failure; a failure of the rules is printed instead. -/
def errorLine? : RunFailure → Option String
  | .usage error => some (Terminal.withoutControls ("Error: " ++ error.message))
  | .analysis _ => none
  | .shown failure =>
    some (problemName failure.problem ++ ": " ++ failure.text ++ " cannot be shown")
  | .title template => some ("NotRenderableError: the title of " ++ template ++ " cannot be shown")
  | .broken breakdown => some (breakdown.name ++ ": " ++ breakdown.message)

/-- The name of a failure that nothing in the program provides for. -/
def unexpected? : RunFailure → Option String
  | .shown failure => some (problemName failure.problem)
  | .title _ => some "NotRenderableError"
  | .broken breakdown => some breakdown.name
  | _ => none

end RunFailure

/-- What a run leaves behind. -/
structure RunOutcome where
  files : FileTree
  printed : List String
  failure : Option RunFailure

namespace RunOutcome

variable [Platform]

/-- The exit code of a run. -/
def exitCode (outcome : RunOutcome) : Nat :=
  (outcome.failure.map RunFailure.exitCode).getD 0

/-- The outcome of a run with lines printed before it. -/
def after (lines : List String) (outcome : RunOutcome) : RunOutcome :=
  { outcome with printed := lines ++ outcome.printed }

/-- Goes on with the files that a run leaves behind, unless it fails. -/
def andThen (outcome : RunOutcome) (next : FileTree → RunOutcome) : RunOutcome :=
  match outcome.failure with
  | some _ => outcome
  | none => (next outcome.files).after outcome.printed

/-- The outcome of a run that fails and prints nothing. -/
def failed (files : FileTree) (failure : RunFailure) : RunOutcome :=
  ⟨files, [], some failure⟩

/-- The outcome of a run that prints texts with markup. -/
def shown (files : FileTree) (texts : List String) : RunOutcome :=
  let (lines, failed) := Terminal.stack texts
  ⟨files, lines, failed.map .shown⟩

/-- The outcome of a run that prints a table. -/
def table (files : FileTree) (title : String) (rows : List (List String)) : RunOutcome :=
  match Terminal.table title rows with
  | .ok lines => ⟨files, lines, none⟩
  | .error failure => .failed files (.shown failure)

end RunOutcome

namespace CommandLine

variable [Platform]

/-- The version of the program. -/
def version : String := "0.1.0"

/-- The run that ends with an error of an analysis. A diagram that cannot be read is a wrong value
of the command line. -/
def refuse (files : FileTree) (error : AnalysisError) : RunOutcome :=
  match error.breakdown?, error with
  | some breakdown, _ => .failed files (.broken breakdown)
  | none, .diagram error => .failed files (.usage (.diagram error))
  | none, error =>
    (RunOutcome.shown files ["[red]Error loading rules:[/red] " ++ error.message]).andThen
      fun files => .failed files (.analysis error)

/-! The command `analyze`. -/

/-- The colour of findings with a severity text. -/
def colorOf (severity : String) : String :=
  match Severity.all.find? fun level => level.name == severity with
  | some .critical => "red"
  | some .high => "red"
  | some .medium => "yellow"
  | some .low => "blue"
  | none => "white"

/-- The lines with markup for a finding. -/
def findingMarkup (cell : Cell) (finding : Finding) : List String :=
  let color := colorOf finding.severity
  let mitigation :=
    if finding.mitigation.isEmpty then []
    else ["  [green]Mitigation:[/green] " ++ Markup.escape finding.mitigation]
  ["[" ++ color ++ "]" ++ Markup.escape ("[" ++ finding.severity ++ "]") ++ "[/" ++ color ++ "] " ++
      Markup.escape finding.title,
    "  [dim]" ++ Markup.escape (cell.nameOr cell.id) ++ " - " ++ Markup.escape finding.category ++
      "[/dim]"] ++ mitigation ++ [""]

/-- The lines with markup for the findings of a report. -/
def threatMarkup (report : Report) : List String :=
  if report.diagram.threatCount = 0 then ["\n[green]No threats generated.[/green]"]
  else
    ["\n[bold]Threats (" ++ toString report.diagram.threatCount ++ " total)[/bold]\n"] ++
      report.ranked.flatMap fun (cell, finding) => findingMarkup cell finding

/-- The text for the diagram and the rules of a report, which is shown as a whole. -/
def summaryMarkup (report : Report) : String :=
  "\n".intercalate ["Summary",
    "Diagram: " ++ report.diagram.displayTitle,
    "Cells: " ++ toString report.diagram.cells.length,
    "Rules: " ++ report.engine.describe]

/-- The format that the name of a file stands for. -/
def formatOf (path : Path) : ReportFormat :=
  if Text.lower (Path.suffix path.name).toList = ".json".toList then .json else .text

/-- The content of the file of a report. -/
def reportContent (report : Report) : ReportFormat → Content
  | .json => report.content (.indented 2)
  | .text => .text report.summary

/-- Writes a report to the file that is asked for. -/
def save (files : FileTree) (report : Report) (request : AnalyzeRequest) : RunOutcome :=
  match request.out with
  | none => .shown files []
  | some path =>
    match files.write path (reportContent report (request.format.getD (formatOf path))) with
    | .error error => .failed files (.broken (.file error))
    | .ok files => .shown files ["\n[green]Report saved to:[/green] " ++ path.toString]

/-- Shows a report and then writes it, unless something in it cannot be shown. -/
def present (files : FileTree) (report : Report) (request : AnalyzeRequest) : RunOutcome :=
  (RunOutcome.shown files (summaryMarkup report :: threatMarkup report)).andThen fun files =>
    save files report request

/-- The settings of a request in an environment. -/
def settingsOf (environment : Environment) (request : AnalyzeRequest) : Settings :=
  (Settings.inEnvironment environment).withChoices request.rulesDirectory request.supplemental

/-- Analyzes a diagram and shows the report. -/
def analyze (files : FileTree) (environment : Environment) (request : AnalyzeRequest) :
    RunOutcome :=
  let name := request.diagram.toString
  let settings := settingsOf environment request
  let heading := ["\n[bold]Threat Map[/bold] v" ++ version ++ "\n",
    "Analyzing: [cyan]" ++ name ++ "[/cyan]\n"]
  (RunOutcome.shown files heading).andThen fun files =>
    match Engine.report (.file name) none files settings settings.supplementalEnabled none with
    | (files, _, .error error) => refuse files error
    | (files, _, .ok report) => present files report request

/-! The command `info`. -/

/-- The rows of the table of an engine. -/
def infoRows (directory : Path) (info : EngineInfo) : List (List String) := [
  ["Setting", "Value"],
  ["Rules directory", directory.toString],
  ["Baseline rules", toString info.baselineRules],
  ["Supplemental rules", toString info.supplementalRules],
  ["Supplemental enabled",
    if info.supplementalEnabled then "[green]yes[/green]" else "[yellow]no[/yellow]"],
  ["Total active rules", toString info.totalRules]]

/-- The lines with markup for a file of rules that is left out. -/
def skippedMarkup (file : RuleFile) : List String :=
  match file.problem with
  | none => []
  | some problem =>
    ["[yellow]Skipped:[/yellow] " ++ file.path.name ++ " (" ++ problem.message ++ ")"]

/-- Shows the rules that an analysis would apply. -/
def info (files : FileTree) (environment : Environment) (rulesDirectory : Option Path) :
    RunOutcome :=
  let settings := (Settings.inEnvironment environment).withChoices rulesDirectory none
  match Catalog.load files settings with
  | (files, .error error) => refuse files (.rules error)
  | (files, .ok catalog) =>
    let info := EngineInfo.ofRules true catalog settings.supplementalEnabled
    (RunOutcome.table files "Threat Engine" (infoRows settings.rulesDirectory info)).andThen
      fun files => .shown files (catalog.files.flatMap skippedMarkup)

/-! The command `templates`. -/

/-- The row of a template. -/
def templateRow (template : Template) : Except RunFailure (List String) :=
  match template.title? with
  | some title => .ok [template.id, title, template.fileName]
  | none => .error (.title template.fileName)

/-- The table of templates. -/
def templateTable (files : FileTree) (found : List Template) : RunOutcome :=
  match found.mapM templateRow with
  | .error failure => .failed files failure
  | .ok rows =>
    .table files ("Templates (" ++ toString found.length ++ ")") (["Id", "Title", "File"] :: rows)

/-- Shows templates, as a table or as a document. -/
def showTemplates (files : FileTree) (found : List Template) (asJson : Bool) : RunOutcome :=
  if asJson then
    ⟨files, [(Json.array (found.map Template.write)).render (.indented 2)], none⟩
  else if found.isEmpty then .shown files ["[yellow]No templates found.[/yellow]"]
  else templateTable files found

/-- Lists the templates of a directory. -/
def templates (files : FileTree) (environment : Environment) (directory : Option Path)
    (asJson : Bool) : RunOutcome :=
  match directory.or environment.templatesDirectory? with
  | none => .failed files (.usage .noTemplatesDirectory)
  | some directory =>
    match Template.list files directory with
    | .ok found => showTemplates files found asJson
    | .error breakdown => .failed files (.broken breakdown)

/-! Runs. -/

/-- The lines on how the program, or a command of it, is used. -/
def helpLines : Option CommandName → List String
  | none => ["Usage: threat-map [OPTIONS] COMMAND [ARGS]...", "Commands: analyze, info, templates"]
  | some command => ["Usage: threat-map " ++ command.word ++ " [OPTIONS]"]

/-- Does what is asked for. -/
def perform (files : FileTree) (environment : Environment) : Invocation → RunOutcome
  | .help command => ⟨files, helpLines command, none⟩
  | .version => ⟨files, ["threat-map, version " ++ version], none⟩
  | .analyze request => analyze files environment request
  | .info rulesDirectory => info files environment rulesDirectory
  | .templates directory asJson => templates files environment directory asJson

/-- Runs the program with the words of a command line. -/
def run (files : FileTree) (environment : Environment) (words : List String) : RunOutcome :=
  match Invocation.read files words with
  | .error (.usage error) => .failed files (.usage error)
  | .error (.broken breakdown) => .failed files (.broken breakdown)
  | .ok invocation => perform files environment invocation

end CommandLine
end ThreatAnalysis
