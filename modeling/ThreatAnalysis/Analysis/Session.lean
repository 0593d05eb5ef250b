import ThreatAnalysis.Analysis.Engine
import ThreatAnalysis.Catalog.Bundled
import ThreatAnalysis.Json.Reader

/-!
Sessions: runs of steps over one file tree, with engines and diagrams under names. Several engines
can use one store, and engines and stores can have settings in common, so that switching the
supplemental rules through one of them is seen by the other. A step that fails answers with the
failure and leaves behind what it did before it failed.
-/
namespace ThreatAnalysis

/-- A store of rules. -/
structure Store where
  /-- The number in the session of the settings it loads by. -/
  settings : Nat
  catalog : Catalog
  initialized : Bool

namespace Store

/-- A store that has loaded nothing yet. -/
def new (settings : Nat) : Store := ⟨settings, .empty, false⟩

/-- The catalog that the store has loaded, if it has. -/
def loaded? (store : Store) : Option Catalog :=
  if store.initialized then some store.catalog else none

/-- The store after it was asked to load, and has a catalog from then on, or has none. -/
def put (store : Store) : Option Catalog → Store
  | some catalog => { store with catalog := catalog, initialized := true }
  | none => store

end Store

/-- An engine: the numbers of its settings and of its store in the session. -/
structure EngineParts where
  settings : Nat
  store : Nat
deriving DecidableEq, Repr

/-- The state of a session. -/
structure Session where
  files : FileTree
  settings : List Settings
  stores : List Store
  engines : List (String × EngineParts)
  diagrams : List (String × Diagram)

/-- Which settings a new engine or store uses. -/
inductive SettingsChoice where
  /-- Settings of its own. -/
  | own (settings : Settings)
  /-- The settings of another engine. -/
  | shared (engine : String)

/-- Which store a new engine uses. -/
inductive StoreChoice where
  /-- A store of its own, which loads by its settings. -/
  | own
  /-- The store of another engine. -/
  | shared (engine : String)
  /-- A new store, which loads by these settings. -/
  | separate (settings : SettingsChoice)

/-- What a diagram is taken from. -/
inductive Subject where
  | file (name : String)
  | payload (payload : Json)
  | stored (name : String)

/-- The steps of a session. -/
inductive Command where
  | write (location : Location) (entry : Entry)
  | remove (location : Location)
  | inspect (path : Path)
  | create (engine : String) (settings : Option SettingsChoice) (store : StoreChoice)
  | start (engine : String)
  | toggle (engine : String) (enabled : Bool)
  | info (engine : String)
  | catalog (engine : String)
  | parse (payload : Json) (name : String)
  | load (file : String) (name : String)
  | recall (name : String)
  | analyze (engine : String) (subject : Subject) (override : Option Bool) (name : Option String)
  | report (engine : String) (subject : Subject) (override : Option Bool)
      (settings : Settings) (out : Option (Path × Json.Style))

/-- What a step answers. -/
inductive Reply where
  | done
  /-- What a path leads to, if anything. -/
  | found (entry : Option Entry)
  | initialized (flag : Bool)
  | enabled (flag : Bool)
  | info (info : EngineInfo)
  | catalog (catalog : Catalog)
  | diagram (diagram : Diagram)
  /-- A report, and whether the file it was written to holds its document. -/
  | report (report : Report) (fileHolds : Option Bool)

/-- Why a step fails. -/
inductive StepError where
  | unknownEngine (name : String)
  | unknownDiagram (name : String)
  | analysis (error : AnalysisError)
  /-- A file cannot be looked at or written. -/
  | file (error : FileError)
deriving DecidableEq, Repr

/-- The breakdown behind an error, if it is none that is foreseen. -/
def StepError.breakdown? : StepError → Option Breakdown
  | .analysis error => error.breakdown?
  | .file error => some (.file error)
  | _ => none

namespace Session

variable [Platform]

/-- The session before its first step. -/
def initial : Session := ⟨.initial, [], [], [], []⟩

/-- Settings by their number. -/
def settingsAt (session : Session) (number : Nat) : Settings :=
  session.settings.getD number .default

/-- A store by its number. -/
def storeAt (session : Session) (number : Nat) : Store :=
  session.stores.getD number (.new 0)

/-- The settings of an engine. -/
def settingsOf (session : Session) (engine : EngineParts) : Settings :=
  session.settingsAt engine.settings

/-- The catalog that the store of an engine has loaded, if it has. -/
def catalogOf (session : Session) (engine : EngineParts) : Option Catalog :=
  (session.storeAt engine.store).loaded?

/-- The settings by which the store of an engine loads. -/
def loadingOf (session : Session) (engine : EngineParts) : Settings :=
  session.settingsAt (session.storeAt engine.store).settings

/-- The state of an engine. -/
def infoOf (session : Session) (engine : EngineParts) : EngineInfo :=
  let store := session.storeAt engine.store
  .ofRules store.initialized store.catalog (session.settingsOf engine).supplementalEnabled

/-- Gives a store the catalog it has loaded, if it has. -/
def withCatalog (session : Session) (store : Nat) (catalog : Option Catalog) : Session :=
  { session with stores := session.stores.modify store fun old => old.put catalog }

/-- Adds settings, and gives back their number. -/
def addSettings (session : Session) (settings : Settings) : Session × Nat :=
  ({ session with settings := session.settings ++ [settings] }, session.settings.length)

/-- Adds a store that loads by settings with a number, and gives back its own number. -/
def addStore (session : Session) (settings : Nat) : Session × Nat :=
  ({ session with stores := session.stores ++ [.new settings] }, session.stores.length)

/-- Puts a diagram under a name. -/
def withDiagram (session : Session) (name : Option String) (diagram : Diagram) : Session :=
  match name with
  | none => session
  | some name => { session with diagrams := (name, diagram) :: session.diagrams }

/-- The parts of an engine that has to exist. -/
def engineOf (session : Session) (name : String) : Except StepError EngineParts :=
  match session.engines.lookup name with
  | some parts => .ok parts
  | none => .error (.unknownEngine name)

/-- Provides settings, and gives back their number. -/
def provide (session : Session) : SettingsChoice → Except StepError (Session × Nat)
  | .own settings => .ok (session.addSettings settings)
  | .shared other => do return (session, (← session.engineOf other).settings)

/-- Joins a store with settings. Without any it is joined with those it loads by. -/
def join (session : Session) (settings : Option SettingsChoice) (store : Nat) :
    Except StepError (Session × EngineParts) :=
  match settings with
  | none => .ok (session, ⟨(session.storeAt store).settings, store⟩)
  | some settings => do
    let (session, number) ← session.provide settings
    return (session, ⟨number, store⟩)

/-- Provides the parts of an engine. -/
def assemble (session : Session) (settings : Option SettingsChoice) :
    StoreChoice → Except StepError (Session × EngineParts)
  | .own => do
    let (session, number) ← session.provide (settings.getD (.own .default))
    let (session, store) := session.addStore number
    return (session, ⟨number, store⟩)
  | .shared other => do session.join settings (← session.engineOf other).store
  | .separate loading => do
    let (session, number) ← session.provide loading
    let (session, store) := session.addStore number
    session.join settings store

/-- Makes an engine. -/
def create (session : Session) (name : String) (settings : Option SettingsChoice)
    (choice : StoreChoice) : Session × Except StepError Reply :=
  match session.assemble settings choice with
  | .error error => (session, .error error)
  | .ok (session, parts) =>
    ({ session with engines := (name, parts) :: session.engines },
      .ok (.initialized (session.storeAt parts.store).initialized))

/-- Loads the catalog of the store of an engine, unless it has one. -/
def start (session : Session) (engine : EngineParts) : Session × Except StepError Reply :=
  match Engine.loadOnce (session.catalogOf engine) session.files (session.loadingOf engine) with
  | (files, .error error) => ({ session with files }, .error (.analysis (.rules error)))
  | (files, .ok catalog) =>
    ({ session with files }.withCatalog engine.store (some catalog), .ok (.initialized true))

/-- Switches the supplemental rules in the settings of an engine. -/
def toggle (session : Session) (engine : EngineParts) (enabled : Bool) : Session :=
  { session with
    settings := session.settings.modify engine.settings fun old =>
      { old with supplementalEnabled := enabled } }

/-- The source of a subject. -/
def source (session : Session) : Subject → Except StepError DiagramSource
  | .file name => .ok (.file name)
  | .payload payload => .ok (.payload payload)
  | .stored name =>
    match session.diagrams.lookup name with
    | some diagram => .ok (.diagram diagram)
    | none => .error (.unknownDiagram name)

/-- The source of a subject of a report. -/
def reportSource (session : Session) : Subject → Except StepError DiagramSource
  | .payload payload => .ok (.ofDocument payload)
  | subject => session.source subject

/-- Analyzes a subject, and puts the result under a name. -/
def analyze (session : Session) (engine : EngineParts) (subject : Subject)
    (override : Option Bool) (name : Option String) : Session × Except StepError Reply :=
  match session.source subject with
  | .error error => (session, .error error)
  | .ok source =>
    let enabled := (session.settingsOf engine).supplementalEnabled
    match Engine.analyze (session.catalogOf engine) enabled source session.files override with
    | .error error => (session, .error (.analysis error))
    | .ok diagram => (session.withDiagram name diagram, .ok (.diagram diagram))

/-- Writes a report to a file, and tells whether the file then holds its document. -/
def keep (session : Session) (report : Report) (out : Option (Path × Json.Style)) :
    Session × Except StepError Reply :=
  match out with
  | none => (session, .ok (.report report none))
  | some (path, style) =>
    match session.files.write path (report.content style) with
    | .error error => (session, .error (.file error))
    | .ok files =>
      let holds := match files.document path with
        | .ok document => document.equal report.write
        | .error _ => false
      ({ session with files }, .ok (.report report (some holds)))

/-- Reports on a subject with an engine, or with settings alone if there is no such engine. -/
def report (session : Session) (engine : Option EngineParts) (subject : Subject)
    (override : Option Bool) (settings : Settings) (out : Option (Path × Json.Style)) :
    Session × Except StepError Reply :=
  match session.reportSource subject with
  | .error error => (session, .error error)
  | .ok source =>
    match engine with
    | none =>
      let enabled := settings.supplementalEnabled
      match Engine.report source none session.files settings enabled override with
      | (files, _, .error error) => ({ session with files }, .error (.analysis error))
      | (files, _, .ok report) => { session with files }.keep report out
    | some engine =>
      let enabled := (session.settingsOf engine).supplementalEnabled
      match Engine.report source (session.catalogOf engine) session.files
          (session.loadingOf engine) enabled override with
      | (files, catalog, .error error) =>
        ({ session with files }.withCatalog engine.store catalog, .error (.analysis error))
      | (files, catalog, .ok report) =>
        ({ session with files }.withCatalog engine.store catalog).keep report out

/-- Stores a diagram that was read. -/
def store (session : Session) (name : String) (diagram : Except Diagram.LoadError Diagram) :
    Session × Except StepError Reply :=
  match diagram with
  | .error error => (session, .error (.analysis (.diagram error)))
  | .ok diagram => (session.withDiagram (some name) diagram, .ok (.diagram diagram))

/-- Takes a step with an engine that has to exist. -/
def withEngine (session : Session) (name : String)
    (step : EngineParts → Session × Except StepError Reply) : Session × Except StepError Reply :=
  match session.engines.lookup name with
  | some engine => step engine
  | none => (session, .error (.unknownEngine name))

/-- Takes a step. -/
def step (session : Session) : Command → Session × Except StepError Reply
  | .write location entry =>
    ({ session with files := session.files.place location entry }, .ok .done)
  | .remove location => ({ session with files := session.files.remove location }, .ok .done)
  | .inspect path =>
    match session.files.inspect path with
    | .ok found => (session, .ok (.found found))
    | .error error => (session, .error (.file error))
  | .create name settings choice => session.create name settings choice
  | .start name => session.withEngine name session.start
  | .toggle name enabled => session.withEngine name fun engine =>
    (session.toggle engine enabled, .ok (.enabled enabled))
  | .info name => session.withEngine name fun engine =>
    (session, .ok (.info (session.infoOf engine)))
  | .catalog name => session.withEngine name fun engine =>
    (session, .ok (.catalog (session.storeAt engine.store).catalog))
  | .parse payload name => session.store name (Diagram.parse payload)
  | .load file name => session.store name (Diagram.load session.files (.ofString file))
  | .recall name =>
    match session.diagrams.lookup name with
    | some diagram => (session, .ok (.diagram diagram))
    | none => (session, .error (.unknownDiagram name))
  | .analyze name subject override result => session.withEngine name fun engine =>
    session.analyze engine subject override result
  | .report name subject override settings out =>
    session.report (session.engines.lookup name) subject override settings out

/-- Takes steps in order. -/
def run (session : Session) : List Command → Session × List (Except StepError Reply)
  | [] => (session, [])
  | command :: rest =>
    let (session, reply) := session.step command
    let (session, replies) := session.run rest
    (session, reply :: replies)

end Session
end ThreatAnalysis
