import ThreatAnalysis.Proofs.Analysis.Reporting
import ThreatAnalysis.Proofs.Catalog.Preparing
import ThreatAnalysis.Proofs.CommandLine.Choosing
import ThreatAnalysis.Proofs.CommandLine.Legibility

/-!
How an analysis ends. The library reads the diagram, then loads the rules, then copies the diagram,
and the first of these that fails decides how it ends (`reportOf_ending`). A run shows its heading
and then does what that end calls for (`analyze_shown`): it refuses the diagram (`refuse_diagram`) or
the rules (`refuse_rules`), or it shows the report and writes it last of all (`save_located`).
-/
namespace ThreatAnalysis

namespace RunOutcome

section
variable [Platform] {files : FileTree} {texts : List String}

/-- Texts that are shown are put in front of what comes then. -/
theorem andThen_shown (passes : (RunOutcome.shown files texts).failure = none)
    (next : FileTree → RunOutcome) :
    ∃ lines, (RunOutcome.shown files texts).andThen next = (next files).after lines := by
  unfold andThen
  rw [passes]
  exact ⟨_, rfl⟩

/-- A text that cannot be shown ends a run. -/
theorem andThen_unshown (stops : (RunOutcome.shown files texts).failure ≠ none)
    (next : FileTree → RunOutcome) :
    ((RunOutcome.shown files texts).andThen next).exitCode = 1 ∧
      ((RunOutcome.shown files texts).andThen next).files = files := by
  obtain ⟨failure, failed⟩ := Option.ne_none_iff_exists'.mp stops
  have code : (RunOutcome.shown files texts).exitCode = 1 := by
    unfold RunOutcome.shown at failed ⊢
    obtain ⟨cause, -, rfl⟩ := Option.map_eq_some_iff.mp failed
    unfold exitCode
    rw [failed]
    rfl
  unfold andThen
  rw [failed]
  exact ⟨code, rfl⟩

end

end RunOutcome

theorem Diagram.load_congr [Platform] {first second : FileTree} {path : Path}
    (same : first.entry path = second.entry path) : load first path = load second path := by
  unfold load
  rw [FileTree.document_congr same]

namespace CommandLine
open FileTree (Placed OnlyMakes OnWay)
open Markup (Tagless)
variable {files made : FileTree} {environment : Environment} {choice : AnalyzeChoice}
  {report : Report}

theorem request_out (choice : AnalyzeChoice) : choice.request.out = choice.out.map .ofString := rfl

variable [Platform]

/-- The settings that are chosen. -/
abbrev chosen (environment : Environment) (choice : AnalyzeChoice) : Settings :=
  settingsOf environment choice.request

/-- The report that the library gives on a file. -/
def reportOf (files : FileTree) (settings : Settings) (name : String) :
    FileTree × Option Catalog × Except AnalysisError Report :=
  Engine.report (.file (Path.ofString name).toString) none files settings
    settings.supplementalEnabled none

/-- The ways in which the library ends an analysis. -/
inductive Ending (files : FileTree) (settings : Settings) (name : String) :
    FileTree × Option Catalog × Except AnalysisError Report → Prop where
  | unread {error : Diagram.LoadError}
      (failed : Diagram.load files (.ofString name) = .error error) :
      Ending files settings name (files, none, .error (.diagram error))
  | unloaded {diagram : Diagram} {error : CatalogError}
      (read : Diagram.load files (.ofString name) = .ok diagram)
      (failed : (Catalog.load files settings).2 = .error error) :
      Ending files settings name ((Catalog.load files settings).1, none, .error (.rules error))
  | uncopied {diagram : Diagram} {catalog : Catalog}
      (read : Diagram.load files (.ofString name) = .ok diagram)
      (loaded : (Catalog.load files settings).2 = .ok catalog)
      (failed : ¬Engine.Copyable diagram) :
      Ending files settings name
        ((Catalog.load files settings).1, some catalog, .error (.copy .nesting))
  | reported {diagram : Diagram} {catalog : Catalog}
      (read : Diagram.load files (.ofString name) = .ok diagram)
      (loaded : (Catalog.load files settings).2 = .ok catalog)
      (copyable : Engine.Copyable diagram) (report : Report) :
      Ending files settings name ((Catalog.load files settings).1, some catalog, .ok report)

theorem reportOf_ending (files : FileTree) (settings : Settings) (name : String) :
    Ending files settings name (reportOf files settings name) := by
  have source : (DiagramSource.file (Path.ofString name).toString).read files =
      Diagram.load files (.ofString name) := by
    show Diagram.load files (.ofString (Path.ofString name).toString) = _
    rw [Path.ofString_toString_ofString]
  unfold reportOf Engine.report
  rw [source]
  cases read : Diagram.load files (.ofString name) with
  | error error => exact .unread read
  | ok diagram =>
    have begun : (Except.mapError AnalysisError.diagram (.ok diagram) >>= Engine.copy) =
        Engine.copy diagram := rfl
    unfold Engine.reportOn Engine.loadOnce
    rcases loading : Catalog.load files settings with ⟨made, error | catalog⟩
    · have first : made = (Catalog.load files settings).1 := by rw [loading]
      rw [first]
      exact .unloaded read (by rw [loading])
    · have first : made = (Catalog.load files settings).1 := by rw [loading]
      have loaded : (Catalog.load files settings).2 = .ok catalog := by rw [loading]
      dsimp only [DiagramSource.isFile]
      rw [begun, first]
      by_cases copyable : Engine.Copyable diagram
      · rw [Engine.copy_ok_iff.mpr ⟨copyable, rfl⟩]
        exact .reported read loaded copyable _
      · have failed : Engine.copy diagram = .error (.copy .nesting) := if_neg copyable
        rw [failed]
        exact .uncopied read loaded copyable

/-- There is a report only of a diagram that can be copied, with rules that could be loaded. -/
theorem of_reportOf {settings : Settings} {name : String}
    (reported : (reportOf files settings name).2.2 = .ok report) :
    ∃ diagram catalog, Diagram.load files (.ofString name) = .ok diagram ∧
      (Catalog.load files settings).2 = .ok catalog ∧ Engine.Copyable diagram := by
  have ending := reportOf_ending files settings name
  generalize reportOf files settings name = result at reported ending
  cases ending with
  | reported read loaded copyable _ => exact ⟨_, _, read, loaded, copyable⟩
  | _ => cases reported

/-- What a run does at the end of its analysis. -/
def conclude (request : AnalyzeRequest) :
    FileTree × Option Catalog × Except AnalysisError Report → RunOutcome
  | (made, _, .error error) => refuse made error
  | (made, _, .ok report) => present made report request

/-- A run shows its heading before that. -/
theorem analyze_shown (files : FileTree) (environment : Environment)
    (plain : Plain (Path.ofString choice.diagram).toString) :
    ∃ lines, analyze files environment choice.request = RunOutcome.after lines
      (conclude choice.request
        (reportOf files (chosen environment choice) choice.diagram)) := by
  obtain ⟨lines, shown⟩ := RunOutcome.andThen_shown (heading_failure plain files)
    fun files => conclude choice.request
      (reportOf files (chosen environment choice) choice.diagram)
  refine ⟨lines, Eq.trans ?_ shown⟩
  have named : choice.request.diagram = Path.ofString choice.diagram := rfl
  unfold analyze
  dsimp only
  rw [named]
  refine congrArg (RunOutcome.andThen _) ?_
  funext tree
  unfold reportOf chosen
  generalize Engine.report _ none tree _ _ none = result
  obtain ⟨after, held, error | report⟩ := result <;> rfl

/-- A diagram that is no diagram is refused, one that breaks the program is not. -/
theorem refuse_diagram (files : FileTree) (error : Diagram.LoadError) :
    (refuse files (.diagram error)).files = files ∧
      ((refuse files (.diagram error)).exitCode = 2 ∧ (∀ breakdown, error ≠ .broken breakdown) ∨
        (refuse files (.diagram error)).exitCode = 1 ∧ ∃ breakdown, error = .broken breakdown) := by
  cases error with
  | broken breakdown => exact ⟨rfl, .inr ⟨rfl, breakdown, rfl⟩⟩
  | _ => exact ⟨rfl, .inl ⟨rfl, nofun⟩⟩

/-- Rules that cannot be loaded end a run in one way, whether that can be shown or not. -/
theorem refuse_rules (made : FileTree) (error : CatalogError) :
    (refuse made (.rules error)).exitCode = 1 ∧ (refuse made (.rules error)).files = made := by
  cases error with
  | broken breakdown => exact ⟨rfl, rfl⟩
  | directory path error =>
    have begun : refuse made (.rules (.directory path error)) = (RunOutcome.shown made
        ["[red]Error loading rules:[/red] " ++
          (AnalysisError.rules (.directory path error)).message]).andThen
      fun files => .failed files (.analysis (.rules (.directory path error))) := rfl
    rw [begun]
    by_cases passes : (RunOutcome.shown made ["[red]Error loading rules:[/red] " ++
        (AnalysisError.rules (.directory path error)).message]).failure = none
    · obtain ⟨lines, shown⟩ := RunOutcome.andThen_shown passes
        fun files => .failed files (.analysis (.rules (.directory path error)))
      rw [shown]
      exact ⟨rfl, rfl⟩
    · exact RunOutcome.andThen_unshown passes _

/-! Writing the report. -/

/-- A report that is written to a file is written as a document. -/
def AsksForDocument (choice : AnalyzeChoice) (out : String) : Prop :=
  choice.format = some .json ∨ choice.format = none ∧
    Text.lower (Path.suffix (Path.ofString out).name).toList = ".json".toList

/-- The report that is asked for as a document is written as one. -/
theorem reportContent_of_asks {out : String} (document : AsksForDocument choice out)
    (report : Report) :
    reportContent report (choice.request.format.getD (formatOf (.ofString out))) =
      report.content (.indented 2) := by
  have format : choice.request.format.getD (formatOf (.ofString out)) = .json := by
    show choice.format.getD _ = _
    rcases document with named | ⟨unnamed, suffix⟩
    · rw [named, Option.getD_some]
    · rw [unnamed, Option.getD_none, formatOf, if_pos suffix]
  rw [format]
  rfl

theorem save_unlocated (report : Report) {out : String} {rules : Path} {cause : FileCause}
    (asked : choice.out = some out) (placed : Placed files rules out)
    (makes : OnlyMakes (OnWay rules) files made)
    (unlocated : files.locate (.ofString out) = .error cause) :
    save made report choice.request =
      .failed made (.broken (.file ⟨cause, .ofString out⟩)) := by
  have failed := placed.not_written makes unlocated
    (reportContent report (choice.request.format.getD (formatOf (.ofString out))))
  unfold save
  rw [request_out, asked, Option.map_some]
  dsimp only
  rw [failed]

theorem save_located (report : Report) {out : String} {rules : Path} {location : Location}
    (asked : choice.out = some out) (placed : Placed files rules out)
    (makes : OnlyMakes (OnWay rules) files made)
    (located : files.locate (.ofString out) = .ok location) :
    ∃ after, save made report choice.request =
        .shown after ["\n[green]Report saved to:[/green] " ++ (Path.ofString out).toString] ∧
      after.read (.ofString out) =
        .ok (reportContent report (choice.request.format.getD (formatOf (.ofString out)))) := by
  obtain ⟨after, wrote, holds⟩ := placed.written makes located
    (reportContent report (choice.request.format.getD (formatOf (.ofString out))))
  refine ⟨after, ?_, holds⟩
  unfold save
  rw [request_out, asked, Option.map_some]
  dsimp only
  rw [wrote]

end CommandLine
end ThreatAnalysis
