import ThreatAnalysis.Proofs.Analysis.Outcome
import ThreatAnalysis.Proofs.Analysis.Wiring

/-!
What a report says about its engine. The toggle that an analysis goes by and the one that its report
shows are one (`Report.truthful_ofRun`), so that the report can be held against the findings. In a
session an engine may use the store of another one, and share its settings or not; the numbers by
which it does always lead to something (`run_wired`), so that after a report the engine has the
catalog the report is about, and would report the same again (`reports_are_truthful`) but for the
time and the identifiers of findings, which the platform gives.
-/
namespace ThreatAnalysis

namespace Analysis
variable [Platform] {rules : List Rule} {before after : Cells} {cell : Cell}

/-- The findings of a cell that an analysis generated. -/
def generated (cell : Cell) : List Finding :=
  cell.findings.filter Finding.isGenerated

theorem generated_of_findings {written : Cell}
    (held : cell.findings = manual written ++ generatedOn written rules) :
    generated cell = generatedOn written rules := by
  have none : (manual written).filter Finding.isGenerated = [] := by
    rw [List.filter_eq_nil_iff]
    intro finding member
    have byHand := (List.mem_filter.mp member).2
    simpa using byHand
  have all : (generatedOn written rules).filter Finding.isGenerated = generatedOn written rules := by
    rw [List.filter_eq_self]
    intro finding member
    obtain ⟨rule, -, rfl⟩ := List.mem_map.mp member
    exact isGenerated_findingOn rule written
  rw [generated, held, List.filter_append, none, all, List.nil_append]

/-- The generated findings of a cell come from some of the rules, in order. -/
theorem generated_analyzeCell (rules : List Rule) (before after : Cells) (cell : Cell)
    (inScope : (analyzeCell rules before after cell).has .outOfScope = false) :
    ∃ fired, fired.Sublist rules ∧ generated (analyzeCell rules before after cell) =
      generatedOn (analyzeCell rules before after cell) fired := by
  have same := analyzeCell_sameInput rules before after cell
  rw [same.has .outOfScope (by decide)] at inScope
  have findings : (analyzeCell rules before after cell).findings = manual cell ++
      generatedOn cell (firing before after (dropGenerated cell) rules) := by
    rw [analyzeCell_inScope inScope, findings_marked]
  refine ⟨_, (firing_sublist before after (dropGenerated cell) rules).trans List.filter_sublist, ?_⟩
  rw [generatedOn_sameInput _ same]
  exact generated_of_findings findings

/-- What holds of whatever a cell becomes holds of all cells after a run. -/
theorem forall_mem_analyzed {property : Cell → Prop}
    (each : ∀ before after cell, property (analyzeCell rules before after cell))
    (done rest : Cells) : ∀ result ∈ analyzed rules done rest, property result := by
  induction rest generalizing done with
  | nil => simp [analyzed]
  | cons cell rest ih =>
    rw [analyzed, List.forall_mem_cons]
    exact ⟨each done rest cell, ih _⟩

end Analysis

open Analysis

/-- What the engine section of a report has to say about the run that made it. -/
structure Report.Truthful [Platform] (catalog : Catalog) (diagram : Diagram) (report : Report) : Prop where
  initialized : report.engine.initialized = true
  baseline : report.engine.baselineRules = catalog.baseline.length
  supplemental : report.engine.supplementalRules = catalog.supplemental.length
  /-- No cell in scope has more generated findings than there are rules that apply. -/
  bounded : ∀ cell ∈ report.diagram.cells, cell.has .outOfScope = false →
    (generated cell).length ≤ report.engine.totalRules
  /-- Without the supplemental rules they come from some rules of the baseline, in order. -/
  baselineOnly : report.engine.supplementalEnabled = false →
    ∀ cell ∈ report.diagram.cells, cell.has .outOfScope = false →
      ∃ fired, fired.Sublist catalog.baseline ∧ generated cell = generatedOn cell fired
  /-- An analysis that is told to do what the section says gives the same, however its engine is
  set. -/
  repeated : ∀ enabled tree, Engine.analyze (some catalog) enabled (.diagram diagram) tree
    (some report.engine.supplementalEnabled) = .ok report.diagram

theorem EngineInfo.totalRules_ofRules (catalog : Catalog) (included : Bool) :
    (EngineInfo.ofRules true catalog included).totalRules =
      (rulesOf catalog included).length := by
  rw [rulesOf, List.length_append]
  cases included <;> rfl

/-- A report on a diagram that can be copied is truthful. -/
theorem Report.truthful_ofRun [Platform] {diagram : Diagram} (copyable : Engine.Copyable diagram)
    (source : String) (catalog : Catalog) (enabled : Bool) (override : Option Bool) :
    (Report.ofRun source diagram catalog enabled override).Truthful catalog diagram := by
  have explained : ∀ cell ∈ (diagram.analyze catalog (override.getD enabled)).cells,
      cell.has .outOfScope = false → ∃ fired,
        fired.Sublist (rulesOf catalog (override.getD enabled)) ∧
          generated cell = generatedOn cell fired := by
    rw [Diagram.cells_analyze]
    exact forall_mem_analyzed (generated_analyzeCell _) [] diagram.cells
  refine ⟨rfl, rfl, rfl, ?bounded, ?baselineOnly, ?repeated⟩
  case bounded =>
    intro cell listed inScope
    obtain ⟨fired, some, findings⟩ := explained cell listed inScope
    have total := EngineInfo.totalRules_ofRules catalog (override.getD enabled)
    calc (generated cell).length
        = fired.length := by rw [findings, generatedOn, List.length_map]
      _ ≤ (rulesOf catalog (override.getD enabled)).length := some.length_le
      _ = _ := total.symm
  case baselineOnly =>
    intro excluded cell listed inScope
    obtain ⟨fired, some, findings⟩ := explained cell listed inScope
    have off : override.getD enabled = false := excluded
    rw [off, rulesOf, if_neg (by decide), List.append_nil] at some
    exact ⟨fired, some, findings⟩
  case repeated =>
    intro otherwise tree
    have read : DiagramSource.read tree (.diagram diagram) = .ok diagram := rfl
    rcases Engine.analyze_of_read read catalog otherwise (some (override.getD enabled)) with
      ⟨-, ran⟩ | ⟨failed, -⟩
    · exact ran
    · exact absurd copyable failed

namespace Engine
variable [Platform] {source : DiagramSource} {held after : Option Catalog} {tree files : FileTree}
  {loading : Settings} {enabled : Bool} {override : Option Bool} {report : Report}

theorem copy_ok_iff {diagram result : Diagram} :
    copy diagram = .ok result ↔ Copyable diagram ∧ diagram = result := by
  unfold copy Copyable
  split
  case isTrue shallow => simp [shallow]
  case isFalse deep => simp [deep]

/-- A report that succeeds is that of a run over the diagram of its source, with the catalog that
is there then. -/
theorem report_ok
    (reported : Engine.report source held tree loading enabled override =
      (files, after, .ok report)) :
    ∃ diagram catalog, source.read tree = .ok diagram ∧ Copyable diagram ∧
      loadOnce held tree loading = (files, .ok catalog) ∧ after = some catalog ∧
      report = .ofRun source.name diagram catalog enabled override := by
  unfold Engine.report at reported
  split at reported
  · cases reported
  · unfold reportOn at reported
    rcases asked : loadOnce held tree loading with ⟨made, error | catalog⟩
    · simp only [asked] at reported
      cases reported
    · simp only [asked] at reported
      cases read : source.read tree with
      | error error =>
        rw [read] at reported
        cases reported
      | ok diagram =>
        have begun : (Except.mapError AnalysisError.diagram (.ok diagram) >>= copy) =
            copy diagram := rfl
        rw [read, begun] at reported
        cases copied : copy diagram with
        | error error =>
          rw [copied] at reported
          cases reported
        | ok result =>
          obtain ⟨copyable, rfl⟩ := copy_ok_iff.mp copied
          rw [copied] at reported
          cases reported
          exact ⟨diagram, catalog, rfl, copyable, rfl, rfl, rfl⟩

end Engine

namespace Session

section Answers
variable [Platform] {session later : Session} {name : String} {subject : Subject} {override : Option Bool}
  {settings : Settings} {out : Option (Path × Json.Style)} {report : Report} {engine : EngineParts}

/-- A report that is kept is the one that was made, and only the files may change. -/
theorem keep_ok (kept : session.keep report out = (later, .ok (.report shown holds))) :
    shown = report ∧ ∃ files, later = { session with files } := by
  unfold keep at kept
  split at kept
  · cases kept
    exact ⟨rfl, session.files, rfl⟩
  · split at kept
    · cases kept
    · cases kept
      exact ⟨rfl, _, rfl⟩

omit [Platform] in
theorem catalogOf_withCatalog (known : engine.store < session.stores.length) (catalog : Catalog) :
    (session.withCatalog engine.store (some catalog)).catalogOf engine = some catalog := by
  have held := List.getElem?_eq_getElem known
  have set := getElem?_withCatalog held engine.store (some catalog)
  rw [if_pos rfl] at set
  rw [catalogOf, storeAt_eq set, Store.loaded?_eq_some_iff]
  exact ⟨rfl, rfl⟩

omit [Platform] in
theorem infoOf_of_catalogOf {catalog : Catalog} (held : session.catalogOf engine = some catalog) :
    session.infoOf engine =
      .ofRules true catalog (session.settingsOf engine).supplementalEnabled := by
  obtain ⟨initialized, rules⟩ := Store.loaded?_eq_some_iff.mp held
  rw [infoOf, initialized, rules]

/-- What an engine, or settings alone, can be asked about a report that was answered in a session,
which goes on as `later`. -/
structure Accounted (session later : Session) (name : String) (subject : Subject)
    (override : Option Bool) (settings : Settings) (report : Report) (diagram : Diagram)
    (catalog : Catalog) : Prop where
  read : ∃ source, session.reportSource subject = .ok source ∧
    source.read session.files = .ok diagram
  truthful : report.Truthful catalog diagram
  /-- If there is no such engine, the rules are loaded for this report, and the settings say which
  ones apply unless the run does. -/
  alone : session.engines.lookup name = none →
    (Catalog.load session.files settings).2 = .ok catalog ∧
      report.engine.supplementalEnabled = override.getD settings.supplementalEnabled
  /-- Otherwise the rules are those of the engine from now on, and its settings at that moment say
  which ones apply unless the run does. -/
  reused : ∀ engine, session.engines.lookup name = some engine →
    later.catalogOf engine = some catalog ∧
      report.engine.supplementalEnabled =
        override.getD (session.settingsOf engine).supplementalEnabled
  /-- A toggle through any engine switches this one exactly if they have settings in common. -/
  switched : ∀ engine, session.engines.lookup name = some engine → ∀ other sharing enabled,
    session.engines.lookup other = some sharing →
      ((session.step (.toggle other enabled)).1.settingsOf engine).supplementalEnabled =
        if sharing.settings = engine.settings then enabled
        else (session.settingsOf engine).supplementalEnabled
  /-- The engine says the same of itself, apart from what the run says. -/
  informed : ∀ engine, session.engines.lookup name = some engine → ∃ info : EngineInfo,
    later.step (.info name) = (later, .ok (.info info)) ∧
      report.engine =
        { info with supplementalEnabled := override.getD info.supplementalEnabled }
  /-- The engine analyzes the diagram again with the same result. -/
  analyzed : ∀ engine, session.engines.lookup name = some engine → ∀ subject source,
    later.source subject = .ok source → source.read later.files = .ok diagram →
      later.step (.analyze name subject (some report.engine.supplementalEnabled) none) =
        (later, .ok (.diagram report.diagram))

/-- Without an engine of the name the rules are loaded for this one report. -/
theorem accounted_alone (unknown : session.engines.lookup name = none)
    (answered : session.step (.report name subject override settings out) =
      (later, .ok (.report report holds))) :
    ∃ diagram catalog,
      Accounted session later name subject override settings report diagram catalog := by
  rw [Session.step, unknown] at answered
  unfold Session.report at answered
  cases named : session.reportSource subject with
  | error error =>
    rw [named] at answered
    cases answered
  | ok source =>
    rw [named] at answered
    dsimp only at answered
    rcases made : Engine.report source none session.files settings settings.supplementalEnabled
      override with ⟨files, after, error | result⟩
    · rw [made] at answered
      cases answered
    · rw [made] at answered
      obtain ⟨rfl, -⟩ := keep_ok answered
      obtain ⟨diagram, catalog, read, copyable, loaded, -, rfl⟩ := Engine.report_ok made
      refine ⟨diagram, catalog, ⟨source, named, read⟩,
        Report.truthful_ofRun copyable source.name catalog _ override,
        fun _ => ⟨congrArg Prod.snd loaded, rfl⟩, ?_, ?_, ?_, ?_⟩
      all_goals
        intro engine known
        rw [unknown] at known
        cases known

/-- The catalog that an engine gets for a report is its own from then on. -/
theorem report_reused (wired : session.Wired) (known : session.engines.lookup name = some engine)
    (answered : session.step (.report name subject override settings out) =
      (later, .ok (.report report holds))) :
    ∃ source diagram catalog, session.reportSource subject = .ok source ∧
      source.read session.files = .ok diagram ∧ Engine.Copyable diagram ∧
      report = .ofRun source.name diagram catalog (session.settingsOf engine).supplementalEnabled
        override ∧
      later.engines = session.engines ∧ later.settings = session.settings ∧
      later.catalogOf engine = some catalog := by
  have stored := (wired.of_lookup known).2
  rw [Session.step, known] at answered
  unfold Session.report at answered
  cases named : session.reportSource subject with
  | error error =>
    rw [named] at answered
    cases answered
  | ok source =>
    rw [named] at answered
    dsimp only at answered
    rcases ran : Engine.report source (session.catalogOf engine) session.files
      (session.loadingOf engine) (session.settingsOf engine).supplementalEnabled override
      with ⟨made, after, error | result⟩
    · rw [ran] at answered
      cases answered
    · rw [ran] at answered
      obtain ⟨rfl, files, rfl⟩ := keep_ok answered
      obtain ⟨diagram, catalog, read, copyable, -, rfl, same⟩ := Engine.report_ok ran
      have held : ({ session with files := made }.withCatalog engine.store
          (some catalog)).catalogOf engine = some catalog := catalogOf_withCatalog stored _
      exact ⟨source, diagram, catalog, rfl, read, copyable, same, rfl, rfl, held⟩

theorem accounted_reused (wired : session.Wired)
    (known : session.engines.lookup name = some engine)
    (answered : session.step (.report name subject override settings out) =
      (later, .ok (.report report holds))) :
    ∃ diagram catalog,
      Accounted session later name subject override settings report diagram catalog := by
  obtain ⟨source, diagram, catalog, named, read, copyable, rfl, engines, switches, held⟩ :=
    report_reused wired known answered
  have stillKnown : later.engines.lookup name = some engine := engines ▸ known
  have switched : later.settingsOf engine = session.settingsOf engine := by
    unfold settingsOf settingsAt
    rw [switches]
  refine ⟨diagram, catalog, ⟨source, named, read⟩,
    Report.truthful_ofRun copyable source.name catalog _ override, ?alone, ?reused, ?switched,
    ?informed, ?analyzed⟩
  case alone =>
    intro unknown
    rw [known] at unknown
    cases unknown
  case reused =>
    intro other same
    cases known.symm.trans same
    exact ⟨held, rfl⟩
  case switched =>
    intro other same sharer sharing enabled found
    cases known.symm.trans same
    rw [Session.step, withEngine, found]
    exact settingsOf_toggle (wired.of_lookup known).1 sharing enabled
  case informed =>
    intro other same
    cases known.symm.trans same
    refine ⟨later.infoOf engine, ?_, ?_⟩
    · rw [Session.step, withEngine, stillKnown]
    · rw [infoOf_of_catalogOf held, switched]
      rfl
  case analyzed =>
    intro other same subject again named reads
    cases known.symm.trans same
    have copied := Engine.analyze_of_read reads catalog (later.settingsOf engine).supplementalEnabled
      (some (override.getD (session.settingsOf engine).supplementalEnabled))
    rcases copied with ⟨-, ran⟩ | ⟨uncopied, -⟩
    · rw [Session.step, withEngine, stillKnown]
      dsimp only
      unfold Session.analyze
      rw [named]
      dsimp only
      rw [held, Report.ofRun, EngineInfo.ofRules, ran]
      rfl
    · exact absurd copyable uncopied

/-- In every run, however its engines share stores and settings and whatever was switched before,
a report tells the truth about itself, and the engine goes on as it tells. -/
theorem reports_are_truthful (files : FileTree) (commands : List Command)
    (ran : ((opened files).run commands).1 = session)
    (answered : session.step (.report name subject override settings out) =
      (later, .ok (.report report holds))) :
    ∃ diagram catalog,
      Accounted session later name subject override settings report diagram catalog := by
  cases known : session.engines.lookup name with
  | none => exact accounted_alone known answered
  | some engine =>
    have wired : session.Wired := ran ▸ run_wired (opened_wired files) commands
    exact accounted_reused wired known answered

/-- What the engine section of a report says, if a step answers with one. -/
def reportedEngine? : Except StepError Reply → Option EngineInfo
  | .ok (.report report _) => some report.engine
  | _ => none

theorem exists_of_reportedEngine? {command : Command}
    (computed : reportedEngine? (session.step command).2 = some info) :
    ∃ later report holds, session.step command = (later, .ok (.report report holds)) ∧
      report.engine = info := by
  rcases stepped : session.step command with ⟨later, error | reply⟩
  · rw [stepped] at computed
    cases computed
  · rw [stepped] at computed
    cases reply with
    | report report holds => exact ⟨later, report, holds, rfl, Option.some.inj computed⟩
    | _ => cases computed

end Answers

open scoped Platform

/-- A file with one rule. -/
def ruleFile (name expression : String) : Entry :=
  .file (.text ("\x7b\"rules\": [\x7b\"rule\": \"" ++ name ++ "\", \"matches\": [\"" ++ expression ++
    "\"]\x7d]\x7d"))

/-- Three engines use one store, and two of them have settings in common, which are switched through
the one that is not asked for a report. -/
def sharing : List Command :=
  [.write ["r"] .directory,
    .write ["r", "a.json"] (ruleFile "First" "isActor"),
    .write ["r", "enhanced-generic.json"] (ruleFile "Second" "isActor"),
    .create "e" (some (.own { Settings.default with rulesDirectory := .ofString "/r" })) .own,
    .create "f" none (.shared "e"),
    .create "g" (some (.own .default)) (.shared "e"),
    .toggle "f" false]

def shared : Session := ((opened ⟨[]⟩).run sharing).1

/-- A payload with one actor. -/
def actorPayload : Json :=
  .object [("cells", .array [.object [("id", .string "a"), ("type", .string "tm.Actor")]])]

/-- The engine that was switched off through another one reports on the baseline only, and the
engine with settings of its own reports on both parts. -/
theorem sharing_reports :
    (∃ later report holds diagram catalog,
      shared.step (.report "e" (.payload actorPayload) none .default none) =
        (later, .ok (.report report holds)) ∧
      report.engine = ⟨true, 1, 1, false⟩ ∧
      Accounted shared later "e" (.payload actorPayload) none .default report diagram catalog) ∧
    ∃ later report holds diagram catalog,
      shared.step (.report "g" (.payload actorPayload) none .default none) =
        (later, .ok (.report report holds)) ∧
      report.engine = ⟨true, 1, 1, true⟩ ∧
      Accounted shared later "g" (.payload actorPayload) none .default report diagram catalog := by
  obtain ⟨later, report, holds, answered, engine⟩ := exists_of_reportedEngine?
    (show reportedEngine? (shared.step
      (.report "e" (.payload actorPayload) none .default none)).2 = some ⟨true, 1, 1, false⟩ by
        decide +kernel)
  obtain ⟨diagram, catalog, accounted⟩ := reports_are_truthful ⟨[]⟩ sharing rfl answered
  obtain ⟨laterToo, other, holdsToo, alsoAnswered, otherEngine⟩ := exists_of_reportedEngine?
    (show reportedEngine? (shared.step
      (.report "g" (.payload actorPayload) none .default none)).2 = some ⟨true, 1, 1, true⟩ by
        decide +kernel)
  obtain ⟨diagramToo, catalogToo, alsoAccounted⟩ :=
    reports_are_truthful ⟨[]⟩ sharing rfl alsoAnswered
  exact ⟨⟨later, report, holds, diagram, catalog, answered, engine, accounted⟩,
    laterToo, other, holdsToo, diagramToo, catalogToo, alsoAnswered, otherEngine, alsoAccounted⟩

end Session
end ThreatAnalysis
