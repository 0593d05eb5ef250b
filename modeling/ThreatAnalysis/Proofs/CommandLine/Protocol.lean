import ThreatAnalysis.Proofs.Catalog.Isolation
import ThreatAnalysis.Proofs.CommandLine.Ending

/-!
The exit codes of an analysis, and what a run with each of them leaves behind (`Protocol`). A diagram
that is refused comes first and leaves the files as they are, then rules that cannot be used; a run
that fails does not write its report, and one that succeeds writes the one that the library gives
(`analysis_keeps_protocol`). A report is written after everything else, so that all that matters for
it is that what was made before is on the way to the rules directory (`Placed.entry_made`).
-/
namespace ThreatAnalysis

namespace CommandLine
open FileTree (Placed OnlyMakes OnWay)
open Catalog (Usable Unbroken)
open Markup (Tagless)
variable {files made : FileTree} {environment : Environment} {choice : AnalyzeChoice}
  {words : List String} {outcome : RunOutcome} {report : Report}

theorem outFree_of_placed {rules : Path}
    (placed : ∀ out, choice.out = some out → Placed files rules out) :
    ∀ out, choice.out = some out → files.named out ≠ .ok .directory :=
  fun out asked => (placed out asked).asWritten

section
variable [Platform]

/-- The diagram that is named is refused: there is no file, or none that holds a diagram. -/
def Refused (files : FileTree) (name : String) : Prop :=
  (∀ content, files.named name ≠ .ok (.file content)) ∨
    ∃ error, Diagram.load files (.ofString name) = .error error ∧
      ∀ breakdown, error ≠ .broken breakdown

/-- Nothing breaks an analysis: nothing that it reads or copies is nested too deep, not too many
directories have to be made, it is clear where the supplemental rules and the report are, and every
text of the report that is shown can be written to a terminal. -/
structure Intact (files : FileTree) (environment : Environment) (choice : AnalyzeChoice) : Prop where
  shallow : ∀ breakdown,
    Diagram.load files (.ofString choice.diagram) ≠ .error (.broken breakdown)
  copyable : ∀ diagram, Diagram.load files (.ofString choice.diagram) = .ok diagram →
    Engine.Copyable diagram
  few : files.lacksTooMany (chosen environment choice).rulesDirectory = false
  rules : Unbroken (Catalog.load files (chosen environment choice)).1 (chosen environment choice)
  writable : ∀ out, choice.out = some out → ∃ location, files.locate (.ofString out) = .ok location
  legible : ∀ report,
    (reportOf files (chosen environment choice) choice.diagram).2.2 = .ok report → Legible report

/-- The names of files are texts, and no text that is shown as it stands has markup. -/
structure PlainTexts (files : FileTree) (environment : Environment) (choice : AnalyzeChoice) :
    Prop where
  diagram : Plain (Path.ofString choice.diagram).toString
  out : ∀ out, choice.out = some out → Plain (Path.ofString out).toString
  report : ∀ report,
    (reportOf files (chosen environment choice) choice.diagram).2.2 = .ok report → Unmarked report

/-- The exit codes of an analysis, and what it leaves behind. -/
structure Protocol (files : FileTree) (environment : Environment) (choice : AnalyzeChoice)
    (outcome : RunOutcome) : Prop where
  refused : outcome.exitCode = 2 ↔ Refused files choice.diagram
  failed : outcome.exitCode = 1 ↔ ¬Refused files choice.diagram ∧
    ¬(Usable files (chosen environment choice).rulesDirectory ∧ Intact files environment choice)
  succeeded : outcome.exitCode = 0 ↔ ¬Refused files choice.diagram ∧
    Usable files (chosen environment choice).rulesDirectory ∧ Intact files environment choice
  untouched : outcome.exitCode = 2 → outcome.files = files
  unwritten : outcome.exitCode = 1 → ∀ out, choice.out = some out →
    outcome.files.entry (.ofString out) = files.entry (.ofString out)
  written : outcome.exitCode = 0 → ∀ out, choice.out = some out → AsksForDocument choice out →
    ∃ settings report, Settings.ofEnvironment environment choice.overrides = .ok settings ∧
      (reportOf files settings choice.diagram).2.2 = .ok report ∧
      outcome.files.read (.ofString out) = .ok (report.content (.indented 2))

namespace Protocol

theorem of_refused (refused : Refused files choice.diagram) (code : outcome.exitCode = 2)
    (same : outcome.files = files) : Protocol files environment choice outcome where
  refused := ⟨fun _ => refused, fun _ => code⟩
  failed := by simp [code, refused]
  succeeded := by simp [code, refused]
  untouched _ := same
  unwritten := by simp [code]
  written := by simp [code]

theorem of_failed (accepted : ¬Refused files choice.diagram)
    (lost : ¬(Usable files (chosen environment choice).rulesDirectory ∧
      Intact files environment choice)) (code : outcome.exitCode = 1)
    (kept : ∀ out, choice.out = some out →
      outcome.files.entry (.ofString out) = files.entry (.ofString out)) :
    Protocol files environment choice outcome where
  refused := by simp [code, accepted]
  failed := ⟨fun _ => ⟨accepted, lost⟩, fun _ => code⟩
  succeeded := by simp [code, lost]
  untouched := by simp [code]
  unwritten _ := kept
  written := by simp [code]

theorem of_succeeded (accepted : ¬Refused files choice.diagram)
    (usable : Usable files (chosen environment choice).rulesDirectory)
    (intact : Intact files environment choice) (code : outcome.exitCode = 0)
    (held : ∀ out, choice.out = some out → AsksForDocument choice out →
      ∃ report, (reportOf files (chosen environment choice) choice.diagram).2.2 = .ok report ∧
        outcome.files.read (.ofString out) = .ok (report.content (.indented 2))) :
    Protocol files environment choice outcome where
  refused := by simp [code, accepted]
  failed := by simp [code, usable, intact]
  succeeded := ⟨fun _ => ⟨accepted, usable, intact⟩, fun _ => code⟩
  untouched := by simp [code]
  unwritten := by simp [code]
  written _ out asked document := by
    obtain ⟨report, made, read⟩ := held out asked document
    exact ⟨chosen environment choice, report, ofEnvironment_overrides environment choice, made,
      read⟩

/-- What is printed has no bearing on it. -/
theorem after (kept : Protocol files environment choice outcome) (lines : List String) :
    Protocol files environment choice (outcome.after lines) :=
  ⟨kept.refused, kept.failed, kept.succeeded, kept.untouched, kept.unwritten, kept.written⟩

end Protocol

/-! What holds at each end. -/

variable {content : Content} {diagram : Diagram} {catalog : Catalog}

theorem accepted_of_load (isFile : files.named choice.diagram = .ok (.file content))
    (read : ∀ error, Diagram.load files (.ofString choice.diagram) = .error error →
      ∃ breakdown, error = .broken breakdown) : ¬Refused files choice.diagram := by
  rintro (noFile | ⟨error, failed, unbroken⟩)
  · exact noFile content isFile
  · obtain ⟨breakdown, rfl⟩ := read error failed
    exact unbroken breakdown rfl

theorem accepted_of_read (isFile : files.named choice.diagram = .ok (.file content))
    (read : Diagram.load files (.ofString choice.diagram) = .ok diagram) :
    ¬Refused files choice.diagram := by
  refine accepted_of_load isFile fun error failed => ?_
  rw [read] at failed
  cases failed

/-- Whatever is made for the rules, the place for the report stays as it is. -/
theorem kept_of_load {settings : Settings}
    (placed : ∀ out, choice.out = some out → Placed files settings.rulesDirectory out) :
    ∀ out, choice.out = some out →
      (Catalog.load files settings).1.entry (.ofString out) = files.entry (.ofString out) :=
  fun out asked => (placed out asked).entry_made (Catalog.load_onlyMakes files settings)

theorem protocol_unread (isFile : files.named choice.diagram = .ok (.file content))
    {error : Diagram.LoadError}
    (failed : Diagram.load files (.ofString choice.diagram) = .error error) :
    Protocol files environment choice (refuse files (.diagram error)) := by
  obtain ⟨same, ⟨code, unbroken⟩ | ⟨code, breakdown, rfl⟩⟩ := refuse_diagram files error
  · exact .of_refused (.inr ⟨error, failed, unbroken⟩) code same
  · refine .of_failed ?_ ?_ code ?_
    · refine accepted_of_load isFile fun error again => ⟨breakdown, ?_⟩
      rw [failed] at again
      exact (Except.error.inj again).symm
    · exact fun working => working.2.shallow breakdown failed
    · intro out _
      rw [same]

theorem protocol_unloaded (isFile : files.named choice.diagram = .ok (.file content))
    (read : Diagram.load files (.ofString choice.diagram) = .ok diagram)
    {error : CatalogError}
    (failed : (Catalog.load files (chosen environment choice)).2 = .error error)
    (placed : ∀ out, choice.out = some out →
      Placed files (chosen environment choice).rulesDirectory out) :
    Protocol files environment choice
      (refuse (Catalog.load files (chosen environment choice)).1 (.rules error)) := by
  obtain ⟨code, same⟩ := refuse_rules (Catalog.load files (chosen environment choice)).1 error
  refine .of_failed (accepted_of_read isFile read) ?_ code ?_
  · rintro ⟨usable, intact⟩
    obtain ⟨catalog, loaded⟩ :=
      Catalog.load_succeeds_iff_usable.mpr ⟨usable, intact.few, intact.rules⟩
    rw [failed] at loaded
    cases loaded
  · rw [same]
    exact kept_of_load placed

theorem protocol_uncopied (isFile : files.named choice.diagram = .ok (.file content))
    (read : Diagram.load files (.ofString choice.diagram) = .ok diagram)
    (failed : ¬Engine.Copyable diagram)
    (placed : ∀ out, choice.out = some out →
      Placed files (chosen environment choice).rulesDirectory out) :
    Protocol files environment choice
      (refuse (Catalog.load files (chosen environment choice)).1 (.copy .nesting)) := by
  refine .of_failed (accepted_of_read isFile read) ?_ rfl (kept_of_load placed)
  exact fun working => failed (working.2.copyable diagram read)

/-- Once there are rules and a report that can be shown, all that is left is to write it. -/
theorem intact_of_loaded (read : Diagram.load files (.ofString choice.diagram) = .ok diagram)
    (loaded : (Catalog.load files (chosen environment choice)).2 = .ok catalog)
    (copyable : Engine.Copyable diagram)
    (reported : (reportOf files (chosen environment choice) choice.diagram).2.2 = .ok report)
    (legible : Legible report)
    (writable : ∀ out, choice.out = some out →
      ∃ location, files.locate (.ofString out) = .ok location) :
    Usable files (chosen environment choice).rulesDirectory ∧
      Intact files environment choice := by
  obtain ⟨usable, few, rules⟩ := Catalog.load_succeeds_iff_usable.mp ⟨catalog, loaded⟩
  refine ⟨usable, ?_, ?_, few, rules, writable, ?_⟩
  · intro breakdown broken
    rw [read] at broken
    cases broken
  · intro other same
    rw [read] at same
    cases same
    exact copyable
  · intro other same
    rw [reported] at same
    cases same
    exact legible

/-- Once a report is shown, it depends on the place for it how the run ends. -/
theorem protocol_saved (accepted : ¬Refused files choice.diagram)
    (ready : (∀ out, choice.out = some out →
        ∃ location, files.locate (.ofString out) = .ok location) →
      Usable files (chosen environment choice).rulesDirectory ∧ Intact files environment choice)
    (reported : (reportOf files (chosen environment choice) choice.diagram).2.2 = .ok report)
    (placed : ∀ out, choice.out = some out →
      Placed files (chosen environment choice).rulesDirectory out)
    (plain : ∀ out, choice.out = some out → Plain (Path.ofString out).toString)
    (makes : OnlyMakes (OnWay (chosen environment choice).rulesDirectory) files made) :
    Protocol files environment choice (save made report choice.request) := by
  cases asked : choice.out with
  | none =>
    have saved : save made report choice.request = .shown made [] := by
      unfold save
      rw [request_out, asked]
      rfl
    obtain ⟨usable, intact⟩ := ready (by simp [asked])
    rw [saved]
    exact .of_succeeded accepted usable intact rfl (by simp [asked])
  | some out =>
    cases located : files.locate (.ofString out) with
    | error cause =>
      rw [save_unlocated report asked (placed out asked) makes located]
      refine .of_failed accepted ?_ rfl fun out asked => (placed out asked).entry_made makes
      rintro ⟨-, intact⟩
      obtain ⟨location, found⟩ := intact.writable out asked
      rw [located] at found
      cases found
    | ok location =>
      obtain ⟨after, saved, holds⟩ := save_located report asked (placed out asked) makes located
      obtain ⟨usable, intact⟩ := ready (by simp [asked, located])
      have none := saved_failure (plain out asked) after
      rw [saved]
      refine .of_succeeded accepted usable intact ?_ ?_
      · unfold RunOutcome.exitCode
        rw [none]
        rfl
      · intro other again document
        obtain rfl : out = other := Option.some.inj (asked.symm.trans again)
        rw [reportContent_of_asks document] at holds
        exact ⟨report, reported, holds⟩

theorem protocol_reported (isFile : files.named choice.diagram = .ok (.file content))
    (read : Diagram.load files (.ofString choice.diagram) = .ok diagram)
    (loaded : (Catalog.load files (chosen environment choice)).2 = .ok catalog)
    (copyable : Engine.Copyable diagram)
    (reported : (reportOf files (chosen environment choice) choice.diagram).2.2 = .ok report)
    (placed : ∀ out, choice.out = some out →
      Placed files (chosen environment choice).rulesDirectory out)
    (plain : PlainTexts files environment choice) :
    Protocol files environment choice
      (present (Catalog.load files (chosen environment choice)).1 report choice.request) := by
  have shows := report_failure_eq_none_iff (plain.report report reported)
    (Catalog.load files (chosen environment choice)).1
  by_cases legible : Legible report
  · obtain ⟨lines, presented⟩ : ∃ lines,
        present (Catalog.load files (chosen environment choice)).1 report choice.request =
          (save (Catalog.load files (chosen environment choice)).1 report choice.request).after
            lines := RunOutcome.andThen_shown (shows.mpr legible) _
    have makes := Catalog.load_onlyMakes files (chosen environment choice)
    rw [presented]
    apply Protocol.after
    exact protocol_saved (accepted_of_read isFile read)
      (intact_of_loaded read loaded copyable reported legible) reported placed plain.out makes
  · obtain ⟨code, same⟩ := RunOutcome.andThen_unshown (mt shows.mp legible)
      fun files => save files report choice.request
    refine .of_failed (accepted_of_read isFile read) ?_ code ?_
    · exact fun working => legible (working.2.legible report reported)
    · rw [present, same]
      exact kept_of_load placed

/-! Runs. -/

/-- An analysis of a file keeps to its exit codes. -/
theorem protocol_analyze (isFile : files.named choice.diagram = .ok (.file content))
    (placed : ∀ out, choice.out = some out →
      Placed files (chosen environment choice).rulesDirectory out)
    (plain : PlainTexts files environment choice) :
    Protocol files environment choice (analyze files environment choice.request) := by
  obtain ⟨lines, shown⟩ := analyze_shown files environment plain.diagram
  have ending := reportOf_ending files (chosen environment choice) choice.diagram
  rw [shown]
  apply Protocol.after
  generalize result : reportOf files (chosen environment choice) choice.diagram = outcome at ending
  cases ending with
  | unread failed => exact protocol_unread isFile failed
  | unloaded read failed =>
    exact protocol_unloaded isFile read failed placed
  | uncopied read loaded failed => exact protocol_uncopied isFile read failed placed
  | reported read loaded copyable report =>
    have reported : (reportOf files (chosen environment choice) choice.diagram).2.2 =
        .ok report := by rw [result]
    exact protocol_reported isFile read loaded copyable reported placed plain

/-- Words that name a file are done as they ask. -/
theorem run_of_isFile (environment : Environment) (asks : Invocation.Asks words choice)
    (clean : ∀ name ∈ choice.names, '\x00' ∉ name.toList) {rules : Path}
    (placed : ∀ out, choice.out = some out → Placed files rules out)
    (isFile : files.named choice.diagram = .ok (.file content)) :
    run files environment ("analyze" :: words) = analyze files environment choice.request := by
  unfold run
  rw [Invocation.read_of_asks asks clean (outFree_of_placed placed), isFile]
  rfl

/-- Words that name no file are refused, whatever else they ask for. -/
theorem run_of_noFile (environment : Environment) (asks : Invocation.Asks words choice)
    (clean : ∀ name ∈ choice.names, '\x00' ∉ name.toList) {rules : Path}
    (placed : ∀ out, choice.out = some out → Placed files rules out)
    (noFile : ∀ content, files.named choice.diagram ≠ .ok (.file content)) :
    (run files environment ("analyze" :: words)).exitCode = 2 ∧
      (run files environment ("analyze" :: words)).files = files := by
  unfold run
  rw [Invocation.read_of_asks asks clean (outFree_of_placed placed)]
  rcases led : files.named choice.diagram with cause | content | _
  · exact ⟨rfl, rfl⟩
  · exact absurd led (noFile content)
  · exact ⟨rfl, rfl⟩

end

open scoped Platform

/-- A working directory with a diagram, and a directory with one entry. -/
def deskWith (entry : Entry) : FileTree := ⟨[
  (["home"], .directory),
  (FileTree.workingDirectory, .directory),
  (FileTree.workingDirectory ++ ["d.json"], .file (.text
    "\x7b\"title\": \"Shop\", \"cells\": [\x7b\"id\": \"a\", \"type\": \"tm.Actor\"\x7d]\x7d")),
  (FileTree.workingDirectory ++ ["r"], .directory),
  (FileTree.workingDirectory ++ ["r", "a.json"], entry)]⟩

def deskEnvironment : Environment := [("THREAT_MAP_RULES_DIR", "elsewhere")]

def deskWords : List String :=
  ["--out", "out.JSON", "--no-supplemental", "--diagram=d.json", "-rr"]

def deskChoice : AnalyzeChoice := ⟨"d.json", some "r", some false, none, some "out.JSON"⟩

theorem desk_asks : Invocation.Asks deskWords deskChoice := by
  have takesOut : Scan.TakesNext Invocation.analyzeSpellings "--out" .out :=
    ⟨by decide, by decide, by with_unfolding_all rfl⟩
  have switched : Scan.Completes Invocation.analyzeSpellings "--no-supplemental"
      ⟨.supplemental, .switch false⟩ := ⟨by decide, by decide, by with_unfolding_all rfl⟩
  have diagram : Scan.Completes Invocation.analyzeSpellings "--diagram=d.json"
      ⟨.diagram, .argument "d.json"⟩ := ⟨by decide, by decide, by with_unfolding_all rfl⟩
  have rules : Scan.Completes Invocation.analyzeSpellings "-rr"
      ⟨.rulesDirectory, .argument "r"⟩ := ⟨by decide, by decide, by with_unfolding_all rfl⟩
  have nothing : Scan.ofWords Invocation.analyzeSpellings true [] = .ok ⟨[], []⟩ := rfl
  have behind := switched.ofWords_eq (diagram.ofWords_eq (rules.ofWords_eq nothing))
  exact ⟨_, takesOut.ofWords_eq behind "out.JSON", rfl, rfl, rfl, rfl, rfl, rfl, rfl⟩

theorem desk_clean : ∀ name ∈ deskChoice.names, '\x00' ∉ name.toList := by
  decide

theorem desk_placed (entry : Entry) : ∀ out, deskChoice.out = some out →
    Placed (deskWith entry) (chosen deskEnvironment deskChoice).rulesDirectory out := by
  intro out asked
  obtain rfl : "out.JSON" = out := Option.some.inj asked
  refine ⟨?_, ?_, ⟨⟨.here, []⟩, "out.JSON", rfl, rfl⟩, by decide +kernel⟩
  · have led : (deskWith entry).named "out.JSON" = .error .notFound := rfl
    rw [led]
    nofun
  · have led : (deskWith entry).entry (.ofString "out.JSON") = .error .notFound := rfl
    rw [led]
    nofun

/-- Whether all texts of a report can be written, and those that are not escaped have no brackets. -/
def isClear (report : Report) : Bool :=
  (Terminal.isWritable report.diagram.displayTitle &&
    report.diagram.displayTitle.toList.all (· ≠ '[')) &&
    report.findings.all fun (cell, finding) =>
      (shownTexts cell finding).all Terminal.isWritable &&
        ((cell.nameOr cell.id).toList ++ (" - ".toList ++ finding.category.toList)).all (· ≠ '[')

theorem unmarked_and_legible (clear : isClear report = true) :
    Unmarked report ∧ Legible report := by
  have absent {text : List Char} (all : text.all (· ≠ '[') = true) : '[' ∉ text := by
    intro member
    have differs := List.all_eq_true.mp all '[' member
    exact of_decide_eq_true differs rfl
  obtain ⟨title, each⟩ := Bool.and_eq_true_iff.mp clear
  obtain ⟨written, bare⟩ := Bool.and_eq_true_iff.mp title
  have findings (cell : Cell) (finding : Finding) (listed : (cell, finding) ∈ report.findings) :=
    Bool.and_eq_true_iff.mp (List.all_eq_true.mp each (cell, finding) listed)
  constructor
  · exact ⟨Markup.tagless_of_notMem (absent bare), fun cell finding listed =>
      Markup.tagless_of_notMem (absent (findings cell finding listed).2)⟩
  · exact ⟨written, fun cell finding listed =>
      List.all_eq_true.mp (findings cell finding listed).1⟩

/-- The names that are chosen have no brackets, and can be written. -/
theorem desk_names_plain :
    Plain (Path.ofString deskChoice.diagram).toString ∧
      ∀ out, deskChoice.out = some out → Plain (Path.ofString out).toString := by
  constructor
  · exact ⟨Markup.tagless_of_notMem (by decide +kernel), by decide +kernel⟩
  · intro out asked
    obtain rfl : "out.JSON" = out := Option.some.inj asked
    exact ⟨Markup.tagless_of_notMem (by decide +kernel), by decide +kernel⟩

/-- One rule that an actor fulfils. -/
def actorRule : Entry := Session.ruleFile "First" "isActor"

theorem desk_reported : ∃ report, (reportOf (deskWith actorRule) (chosen deskEnvironment deskChoice)
    deskChoice.diagram).2.2 = .ok report ∧ isClear report = true := by
  have clear : (reportOf (deskWith actorRule) (chosen deskEnvironment deskChoice)
      deskChoice.diagram).2.2.toOption.map isClear = some true := by decide +kernel
  generalize (reportOf (deskWith actorRule) (chosen deskEnvironment deskChoice)
    deskChoice.diagram).2.2 = result at clear ⊢
  cases result with
  | error error => cases clear
  | ok report => exact ⟨report, rfl, Option.some.inj clear⟩

theorem desk_plain : PlainTexts (deskWith actorRule) deskEnvironment deskChoice := by
  obtain ⟨diagram, out⟩ := desk_names_plain
  obtain ⟨made, reported, clear⟩ := desk_reported
  refine ⟨diagram, out, ?_⟩
  intro report same
  rw [reported] at same
  cases same
  exact (unmarked_and_legible clear).1

theorem desk_succeeds (kept : Protocol (deskWith actorRule) deskEnvironment deskChoice outcome) :
    outcome.exitCode = 0 := by
  obtain ⟨_, reported, clear⟩ := desk_reported
  obtain ⟨diagram, catalog, read, loaded, copyable⟩ := of_reportOf reported
  have isFile : ∃ content, (deskWith actorRule).named deskChoice.diagram = .ok (.file content) :=
    ⟨_, rfl⟩
  obtain ⟨content, isFile⟩ := isFile
  refine kept.succeeded.mpr ⟨accepted_of_read isFile read,
    intact_of_loaded read loaded copyable reported (unmarked_and_legible clear).2 ?_⟩
  intro out asked
  obtain rfl : "out.JSON" = out := Option.some.inj asked
  exact ⟨_, rfl⟩

section
variable {written : String}

theorem deskWith_reached (entry : Entry) : (deskWith entry).isDirectory
    (chosen deskEnvironment deskChoice).rulesDirectory = .ok true := by
  rfl

theorem deskWith_entry (entry : Entry) : (deskWith entry).entry
    ((chosen deskEnvironment deskChoice).rulesDirectory.child "a.json") = .ok entry := by
  rfl

theorem deskWith_document (deep : Json.readWithin Platform.deepestDocument written = .error .nesting) :
    (deskWith (.file (.text written))).document
      ((chosen deskEnvironment deskChoice).rulesDirectory.child "a.json") = .error .nesting := by
  unfold FileTree.document FileTree.read
  simp only [deskWith_entry, Content.document, deep]

theorem deskWith_load (deep : Json.readWithin Platform.deepestDocument written = .error .nesting) :
    (Catalog.load (deskWith (.file (.text written))) (chosen deskEnvironment deskChoice)).2 =
      .error (.broken .nesting) := by
  have names : Catalog.ruleNames (deskWith (.file (.text written)))
      (chosen deskEnvironment deskChoice) = ["a.json"] := rfl
  have baseline : ["a.json"].filter (Catalog.isBaselineName
      (chosen deskEnvironment deskChoice).reservedPrefix) = ["a.json"] := by decide +kernel
  have failed : Catalog.readNamed (deskWith (.file (.text written)))
      (chosen deskEnvironment deskChoice) "a.json" = .error (.broken .nesting) := by
    unfold Catalog.readNamed RuleFile.read
    rw [deskWith_document deep]
    rfl
  rw [Catalog.load_of_isDirectory (deskWith_reached _), names, Catalog.readAll, baseline,
    List.mapM_cons, failed]
  rfl

theorem deskWith_plain (deep : Json.readWithin Platform.deepestDocument written = .error .nesting) :
    PlainTexts (deskWith (.file (.text written))) deskEnvironment deskChoice := by
  obtain ⟨diagram, out⟩ := desk_names_plain
  refine ⟨diagram, out, ?_⟩
  intro report reported
  obtain ⟨-, catalog, -, loaded, -⟩ := of_reportOf reported
  rw [deskWith_load deep] at loaded
  cases loaded

theorem deskWith_accepted (entry : Entry) : ¬Refused (deskWith entry) deskChoice.diagram := by
  obtain ⟨_, reported, -⟩ := desk_reported
  obtain ⟨diagram, -, read, -, -⟩ := of_reportOf reported
  have same : (deskWith entry).entry (.ofString deskChoice.diagram) =
      (deskWith actorRule).entry (.ofString deskChoice.diagram) := rfl
  rw [← Diagram.load_congr same] at read
  exact accepted_of_read (show (deskWith entry).named _ = .ok (.file _) from rfl) read

/-- The document breaks the analysis, whatever words ask for it. -/
theorem deskWith_fails (deep : Json.readWithin Platform.deepestDocument written = .error .nesting)
    (asks : Invocation.Asks words deskChoice) :
    (run (deskWith (.file (.text written))) deskEnvironment ("analyze" :: words)).exitCode =
      1 := by
  obtain ⟨content, isFile⟩ : ∃ content, (deskWith (.file (.text written))).named
      deskChoice.diagram = .ok (.file content) := ⟨_, rfl⟩
  have kept := protocol_analyze isFile (desk_placed _) (deskWith_plain deep)
  have named : Catalog.isBaselineName (chosen deskEnvironment deskChoice).reservedPrefix "a.json" =
      true := by decide +kernel
  rw [run_of_isFile deskEnvironment asks desk_clean (desk_placed _) isFile]
  refine kept.failed.mpr ⟨deskWith_accepted _, fun working => ?_⟩
  have shallow := working.2.rules.baseline "a.json" named
  rw [Catalog.load_of_isDirectory (deskWith_reached _)] at shallow
  exact shallow (deskWith_document deep)

end

end CommandLine
end ThreatAnalysis
