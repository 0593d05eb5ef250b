import ThreatAnalysis.Analysis.Session
import ThreatAnalysis.Proofs.Traversal

/-!
Stores load once. Of all that can happen in a session, only asking a store to load touches its
catalog, and only as long as it has none (`step_evolves`). What it gets then is what a new store
would get at that moment (`reads_iff`), and this stays through every further run
(`run_keeps_catalog`).
-/
namespace ThreatAnalysis

namespace Store

theorem loaded?_eq_none_iff {store : Store} :
    store.loaded? = none ↔ store.initialized = false := by
  simp [loaded?]

theorem loaded?_eq_some_iff {store : Store} {catalog : Catalog} :
    store.loaded? = some catalog ↔ store.initialized = true ∧ store.catalog = catalog := by
  simp [loaded?]

/-- Giving a store what it has loaded changes nothing. -/
theorem put_loaded? (store : Store) : store.put store.loaded? = store := by
  obtain ⟨settings, catalog, _ | _⟩ := store <;> rfl

end Store

namespace Session
variable {session later : Session} {number : Nat} {store : Store}

theorem getElem?_withCatalog (held : session.stores[number]? = some store) (place : Nat)
    (catalog : Option Catalog) : (session.withCatalog place catalog).stores[number]? =
      some (if place = number then store.put catalog else store) := by
  rw [withCatalog, List.getElem?_modify, held]
  split <;> rfl

theorem storeAt_eq (held : session.stores[number]? = some store) :
    session.storeAt number = store := by
  rw [storeAt, List.getD_eq_getElem?_getD, held, Option.getD_some]

/-- Setting the catalog that a store has changes nothing. -/
theorem withCatalog_catalogOf (session : Session) (engine : EngineParts) :
    (session.withCatalog engine.store (session.catalogOf engine)).stores = session.stores := by
  refine List.ext_getElem? fun place => ?_
  cases held : session.stores[place]? with
  | none =>
    rw [withCatalog, List.getElem?_modify, held]
    rfl
  | some store =>
    rw [getElem?_withCatalog held]
    by_cases same : engine.store = place
    · rw [if_pos same, catalogOf, same, storeAt_eq held, store.put_loaded?]
    · rw [if_neg same]

/-- The session with one more engine, and a store of its own that loads by the settings. -/
def withNew (session : Session) (name : String) (loading : Settings) : Session :=
  let parts : EngineParts := ⟨session.settings.length, session.stores.length⟩
  { session with
    settings := session.settings ++ [loading]
    stores := session.stores ++ [.new parts.settings]
    engines := (name, parts) :: session.engines }

theorem create_separate (session : Session) (name : String) (loading : Settings) :
    (session.create name none (.separate (.own loading))).1 = session.withNew name loading := by
  simp [create, assemble, provide, join, addSettings, addStore, storeAt, withNew, Store.new, bind,
    Except.bind]

theorem provide_stores {settings : SettingsChoice}
    (provided : session.provide settings = .ok (later, number)) :
    later.stores = session.stores := by
  cases settings with
  | own settings =>
    cases provided
    rfl
  | shared other =>
    obtain ⟨found, _, rest⟩ := bind_ok_iff.mp provided
    cases rest
    rfl

theorem join_stores {settings : Option SettingsChoice} {place : Nat}
    (joined : session.join settings place = .ok (later, parts)) :
    later.stores = session.stores := by
  cases settings with
  | none =>
    cases joined
    rfl
  | some choice =>
    obtain ⟨⟨between, number⟩, provided, rest⟩ := bind_ok_iff.mp joined
    cases rest
    exact provide_stores provided

/-- The parts of an engine come with a new store at most. -/
theorem assemble_stores {settings : Option SettingsChoice} {choice : StoreChoice}
    (assembled : session.assemble settings choice = .ok (later, parts)) :
    later.stores = session.stores ∨ ∃ number, later.stores = session.stores ++ [.new number] := by
  cases choice with
  | own =>
    obtain ⟨⟨between, number⟩, provided, rest⟩ := bind_ok_iff.mp assembled
    cases rest
    refine .inr ⟨number, ?_⟩
    show between.stores ++ [.new number] = _
    rw [provide_stores provided]
  | shared other =>
    obtain ⟨found, _, joined⟩ := bind_ok_iff.mp assembled
    exact .inl (join_stores joined)
  | separate loading =>
    obtain ⟨⟨between, number⟩, provided, joined⟩ := bind_ok_iff.mp assembled
    refine .inr ⟨number, (join_stores joined).trans ?_⟩
    show between.stores ++ [.new number] = _
    rw [provide_stores provided]

theorem create_stores (session : Session) (name : String) (settings : Option SettingsChoice)
    (choice : StoreChoice) : (session.create name settings choice).1.stores = session.stores ∨
      ∃ number, (session.create name settings choice).1.stores =
        session.stores ++ [.new number] := by
  unfold create
  split
  case h_1 => exact .inl rfl
  case h_2 made parts assembled =>
    have grown : made.stores = session.stores ∨
        ∃ number, made.stores = session.stores ++ [.new number] := assemble_stores assembled
    exact grown

theorem withDiagram_stores (session : Session) (name : Option String) (diagram : Diagram) :
    (session.withDiagram name diagram).stores = session.stores := by
  cases name <;> rfl

theorem store_stores (session : Session) (name : String)
    (diagram : Except Diagram.LoadError Diagram) :
    (session.store name diagram).1.stores = session.stores := by
  cases diagram with
  | error error => rfl
  | ok diagram => exact withDiagram_stores session (some name) diagram

theorem withEngine_stores {act : EngineParts → Session × Except StepError Reply}
    (each : ∀ engine, (act engine).1.stores = session.stores) (name : String) :
    (session.withEngine name act).1.stores = session.stores := by
  unfold withEngine
  split
  · exact each _
  · rfl

theorem reportSource_error (failed : session.reportSource subject = .error error) :
    ∃ name, error = .unknownDiagram name := by
  cases subject with
  | file name => cases failed
  | payload payload => cases failed
  | stored name =>
    simp only [reportSource, source] at failed
    split at failed
    · cases failed
    · cases failed
      exact ⟨name, rfl⟩

end Session

section Stores
variable [Platform]

/-- What may become of the catalog of a store that is asked to load: it stays, or there was none
and it is read. -/
inductive Asked (tree : FileTree) (loading : Settings) :
    Option Catalog → Option Catalog → Prop where
  | kept (catalog : Option Catalog) : Asked tree loading catalog catalog
  | read (catalog : Catalog) (loaded : (Catalog.load tree loading).2 = .ok catalog) :
      Asked tree loading none (some catalog)

theorem Asked.cases (asked : Asked tree loading before after) :
    after = before ∨ ∃ catalog, before = none ∧ after = some catalog ∧
      (Catalog.load tree loading).2 = .ok catalog := by
  cases asked with
  | kept => exact .inl rfl
  | read catalog loaded => exact .inr ⟨catalog, rfl, rfl, loaded⟩

theorem Asked.eq_none (asked : Asked tree loading before none) : before = none := by
  cases asked
  rfl

/-- The step asks the store of an engine to load. -/
def Command.Asks (name : String) : Command → Prop
  | .start engine => engine = name
  | .report engine _ _ _ _ => engine = name
  | _ => False

namespace Engine
variable {catalog : Option Catalog} {tree : FileTree} {loading : Settings}

theorem loadOnce_error (failed : loadOnce catalog tree loading = (files, .error error)) :
    catalog = none := by
  cases catalog with
  | none => rfl
  | some held => cases failed

theorem loadOnce_ok (loaded : loadOnce catalog tree loading = (files, .ok result)) :
    Asked tree loading catalog (some result) := by
  cases catalog with
  | none => exact .read result (congrArg Prod.snd loaded)
  | some held =>
    cases loaded
    exact .kept _

theorem copy_ne_rules (diagram : Except Diagram.LoadError Diagram) (error : CatalogError) :
    diagram.mapError .diagram >>= copy ≠ .error (.rules error) := by
  cases diagram with
  | error _ => nofun
  | ok diagram =>
    show copy diagram ≠ _
    unfold copy
    split <;> nofun

/-- A report asks for a catalog. It leaves none behind if loading failed, and one if there is
a result. -/
structure Answered (tree : FileTree) (loading : Settings) (before after : Option Catalog)
    (report : Except AnalysisError Report) : Prop where
  asked : Asked tree loading before after
  failed : ∀ error, report = .error (.rules error) → after = none
  succeeded : ∀ result, report = .ok result → after ≠ none

theorem reportOn_answered (name : String) (diagram : Except Diagram.LoadError Diagram)
    (enabled : Bool) (override : Option Bool) :
    Answered tree loading catalog
      (reportOn name diagram catalog tree loading enabled override).2.1
      (reportOn name diagram catalog tree loading enabled override).2.2 := by
  unfold reportOn
  rcases asks : loadOnce catalog tree loading with ⟨files, error | result⟩
  · obtain rfl := loadOnce_error asks
    exact ⟨.kept none, fun _ _ => rfl, nofun⟩
  · have asked := loadOnce_ok asks
    have foreign := copy_ne_rules diagram
    cases copied : diagram.mapError .diagram >>= copy with
    | error error =>
      refine ⟨asked, ?_, nofun⟩
      rintro reason ⟨⟩
      exact absurd copied (foreign reason)
    | ok copied => exact ⟨asked, nofun, fun _ _ => Option.some_ne_none result⟩

theorem report_answered (source : DiagramSource) (catalog : Option Catalog) (tree : FileTree)
    (loading : Settings) (enabled : Bool) (override : Option Bool) :
    Answered tree loading catalog
      (report source catalog tree loading enabled override).2.1
      (report source catalog tree loading enabled override).2.2 := by
  unfold report
  split
  · exact ⟨.kept catalog, nofun, nofun⟩
  · exact reportOn_answered _ _ enabled override

end Engine

namespace Session
variable {session later : Session} {number : Nat} {store : Store}

/-- A store that is made by the settings now and asked to load gets the catalog. -/
def Reads (session : Session) (settings : Settings) (catalog : Catalog) : Prop :=
  ∀ engine,
    ((session.run [.create engine none (.separate (.own settings)), .start engine]).1.stores[
      session.stores.length]?).bind Store.loaded? = some catalog

theorem start_stores (session : Session) (engine : EngineParts)
    (held : session.stores[engine.store]? = some (.new loading)) :
    (session.start engine).1.stores[engine.store]? = some ((Store.new loading).put
      (Catalog.load session.files (session.settingsAt loading)).2.toOption) := by
  have unloaded : session.catalogOf engine = none := by rw [catalogOf, storeAt_eq held]; rfl
  have bySettings : session.loadingOf engine = session.settingsAt loading := by
    rw [loadingOf, storeAt_eq held]
    rfl
  unfold start
  rw [unloaded, bySettings, Engine.loadOnce]
  rcases Catalog.load session.files (session.settingsAt loading) with ⟨files, error | catalog⟩
  · exact held
  · have there : ({ session with files } : Session).stores[engine.store]? = _ := held
    have loaded := getElem?_withCatalog there engine.store (some catalog)
    rwa [if_pos rfl] at loaded

/-- What a new store gets is what can be loaded from the files. -/
theorem reads_iff (session : Session) (settings : Settings) (catalog : Catalog) :
    session.Reads settings catalog ↔ (Catalog.load session.files settings).2 = .ok catalog := by
  have known (name : String) : (session.withNew name settings).engines.lookup name =
      some ⟨session.settings.length, session.stores.length⟩ := List.lookup_cons_self
  have held (name : String) : (session.withNew name settings).stores[session.stores.length]? =
      some (.new session.settings.length) := by simp [withNew]
  have newest (name : String) :
      (session.withNew name settings).settingsAt session.settings.length = settings := by
    simp [withNew, settingsAt]
  have outcome (name : String) := start_stores (session.withNew name settings)
    ⟨session.settings.length, session.stores.length⟩ (held name)
  unfold Reads
  simp only [run, step, create_separate, withEngine, known, outcome, newest, Option.bind_some]
  cases loaded : (Catalog.load session.files settings).2 <;>
    simp [withNew, loaded, Except.toOption, Store.put, Store.loaded?, Store.new]

/-- What may become of a store in a step: it stays, or it had no catalog and gets the one that a
new store would get. -/
inductive Evolves (session : Session) (store : Store) : Store → Prop where
  | kept : Evolves session store store
  | loaded (unloaded : store.initialized = false)
      (reads : session.Reads (session.settingsAt store.settings) catalog) :
      Evolves session store (store.put (some catalog))

/-- A step asks the store of an engine to load. It leaves the store without a catalog if loading
failed, and with one if the step succeeded. -/
structure AsksStore (session : Session) (engine : EngineParts)
    (result : Session × Except StepError Reply) (after : Option Catalog) : Prop where
  stores : result.1.stores = (session.withCatalog engine.store after).stores
  asked : Asked session.files (session.loadingOf engine) (session.catalogOf engine) after
  failed : ∀ error, result.2 = .error (.analysis (.rules error)) → after = none
  succeeded : ∀ reply, result.2 = .ok reply → after ≠ none

theorem AsksStore.evolves (asks : session.AsksStore engine result after)
    (held : session.stores[number]? = some store) :
    ∃ later, result.1.stores[number]? = some later ∧ session.Evolves store later ∧
      (engine.store = number → later = store.put after) := by
  refine ⟨_, asks.stores ▸ getElem?_withCatalog held engine.store after, ?_⟩
  by_cases same : engine.store = number
  · -- The store of the engine is this one, so its catalog and settings are the ones asked about.
    have asked := asks.asked
    rw [loadingOf, catalogOf, same, storeAt_eq held] at asked
    rw [if_pos same]
    refine ⟨?_, fun _ => rfl⟩
    rcases asked.cases with rfl | ⟨catalog, unloaded, rfl, read⟩
    · rw [store.put_loaded?]
      exact .kept
    · exact .loaded (Store.loaded?_eq_none_iff.mp unloaded)
        ((reads_iff session _ catalog).mpr read)
  · rw [if_neg same]
    exact ⟨.kept, fun shared => absurd shared same⟩

theorem start_asks (session : Session) (engine : EngineParts) :
    ∃ after, session.AsksStore engine (session.start engine) after := by
  unfold start
  rcases asks : Engine.loadOnce (session.catalogOf engine) session.files (session.loadingOf engine)
    with ⟨files, error | catalog⟩
  · refine ⟨session.catalogOf engine, ?_, .kept _, fun _ _ => Engine.loadOnce_error asks, nofun⟩
    rw [withCatalog_catalogOf]
  · exact ⟨some catalog, rfl, Engine.loadOnce_ok asks, nofun, fun _ _ => Option.some_ne_none _⟩

theorem keep_stores (session : Session) (report : Report) (out : Option (Path × Json.Style)) :
    (session.keep report out).1.stores = session.stores := by
  unfold keep
  split
  · rfl
  · split <;> rfl

/-- Keeping a report fails at most with its file. -/
theorem keep_ne_rules (session : Session) (report : Report) (out : Option (Path × Json.Style))
    (error : CatalogError) : (session.keep report out).2 ≠ .error (.analysis (.rules error)) := by
  unfold keep
  split
  · nofun
  · split <;> nofun

theorem report_asks (session : Session) (engine : EngineParts) (subject : Subject)
    (override : Option Bool) (settings : Settings) (out : Option (Path × Json.Style)) :
    ∃ after, session.AsksStore engine
      (session.report (some engine) subject override settings out) after := by
  have unasked := withCatalog_catalogOf session engine
  unfold report
  cases named : session.reportSource subject with
  | error error =>
    obtain ⟨name, rfl⟩ := reportSource_error named
    exact ⟨_, unasked.symm, .kept _, nofun, nofun⟩
  | ok document =>
    -- Whether the report can be kept has no bearing on the catalog, which is there by then.
    have answered := Engine.report_answered document (session.catalogOf engine) session.files
      (session.loadingOf engine) (session.settingsOf engine).supplementalEnabled override
    rcases outcome : Engine.report document (session.catalogOf engine) session.files
      (session.loadingOf engine) (session.settingsOf engine).supplementalEnabled override
      with ⟨files, after, error | result⟩ <;> simp only [outcome] at answered ⊢
    · refine ⟨after, rfl, answered.asked, ?_, nofun⟩
      rintro reason ⟨⟩
      exact answered.failed reason rfl
    · refine ⟨after, keep_stores _ result out, answered.asked, fun reason failed => ?_,
        fun _ _ => ?_⟩
      · exact absurd failed (keep_ne_rules _ result out reason)
      · exact answered.succeeded result rfl

theorem analyze_stores (session : Session) (engine : EngineParts) (subject : Subject)
    (override : Option Bool) (name : Option String) :
    (session.analyze engine subject override name).1.stores = session.stores := by
  unfold analyze
  split
  · rfl
  · simp only
    split
    · rfl
    · exact withDiagram_stores session name _

theorem step_asks {command : Command} (asks : command.Asks name)
    (known : session.engines.lookup name = some engine) :
    ∃ after, session.AsksStore engine (session.step command) after := by
  cases command <;> try contradiction
  case start other =>
    obtain rfl : other = name := asks
    rw [step, withEngine, known]
    exact session.start_asks engine
  case report other subject override settings out =>
    obtain rfl : other = name := asks
    rw [step, known]
    exact session.report_asks engine subject override settings out

theorem report_none_stores (session : Session) (subject : Subject) (override : Option Bool)
    (settings : Settings) (out : Option (Path × Json.Style)) :
    (session.report none subject override settings out).1.stores = session.stores := by
  unfold report
  split
  · rfl
  · simp only
    split
    · rfl
    · exact keep_stores _ _ out

/-- The stores after a step that asks none to load: they are kept, and a new one may come in. -/
def AddsStores (session : Session) (result : Session × Except StepError Reply) : Prop :=
  ∃ added, result.1.stores = session.stores ++ added ∧ ∀ store ∈ added, ∃ number, store = .new number

/-- What a step does to the stores: it may add one, or ask one to load. -/
theorem step_stores (session : Session) (command : Command) :
    session.AddsStores (session.step command) ∨ ∃ engine after,
      session.AsksStore engine (session.step command) after := by
  have unchanged {result : Session × Except StepError Reply}
      (same : result.1.stores = session.stores) : session.AddsStores result :=
    ⟨[], by rw [same, List.append_nil], nofun⟩
  cases command with
  | write location entry => exact .inl (unchanged rfl)
  | remove location => exact .inl (unchanged rfl)
  | inspect path =>
    refine .inl (unchanged ?_)
    rw [step]
    split <;> rfl
  | create name settings choice =>
    rcases session.create_stores name settings choice with same | ⟨number, added⟩
    · exact .inl (unchanged same)
    · exact .inl ⟨_, added, by simp⟩
  | start name =>
    cases known : session.engines.lookup name with
    | none => exact .inl (unchanged (by simp only [step, withEngine, known]))
    | some engine =>
      exact .inr ⟨engine, step_asks (show (Command.start name).Asks name from rfl) known⟩
  | toggle name enabled =>
    refine .inl (unchanged (withEngine_stores ?_ name))
    exact fun _ => rfl
  | info name =>
    refine .inl (unchanged (withEngine_stores ?_ name))
    exact fun _ => rfl
  | catalog name =>
    refine .inl (unchanged (withEngine_stores ?_ name))
    exact fun _ => rfl
  | parse payload name => exact .inl (unchanged (store_stores session name _))
  | load file name => exact .inl (unchanged (store_stores session name _))
  | «recall» name =>
    refine .inl (unchanged ?_)
    rw [step]
    split <;> rfl
  | analyze name subject override result =>
    exact .inl (unchanged (withEngine_stores
      (fun engine => analyze_stores session engine subject override result) name))
  | report name subject override settings out =>
    cases known : session.engines.lookup name with
    | none =>
      refine .inl (unchanged ?_)
      rw [step, known]
      exact report_none_stores session subject override settings out
    | some engine =>
      exact .inr ⟨engine, step_asks (show (Command.report name ..).Asks name from rfl) known⟩

/-- A step leaves a store as it is, or loads it if it has no catalog. -/
theorem step_evolves (held : session.stores[number]? = some store) (command : Command) :
    ∃ later, (session.step command).1.stores[number]? = some later ∧
      session.Evolves store later := by
  rcases session.step_stores command with ⟨added, appended, -⟩ | ⟨engine, after, asks⟩
  · have bound := (List.getElem?_eq_some_iff.mp held).1
    rw [appended, List.getElem?_append_left bound]
    exact ⟨store, held, .kept⟩
  · obtain ⟨later, found, evolves, -⟩ := asks.evolves held
    exact ⟨later, found, evolves⟩

/-- The stores that have loaded nothing have nothing. -/
def EmptyUntilLoaded (session : Session) : Prop :=
  ∀ store ∈ session.stores, store.initialized = false → store.catalog = .empty

/-- A store that comes in is empty, and asking one to load fills it or leaves it as it was. -/
theorem EmptyUntilLoaded.step (empty : session.EmptyUntilLoaded) (command : Command) :
    (session.step command).1.EmptyUntilLoaded := by
  intro store listed unloaded
  rcases session.step_stores command with ⟨added, appended, fresh⟩ | ⟨engine, after, asks⟩
  · rw [appended] at listed
    rcases List.mem_append.mp listed with old | new
    · exact empty store old unloaded
    · obtain ⟨number, rfl⟩ := fresh store new
      rfl
  · obtain ⟨number, found⟩ := List.mem_iff_getElem?.mp listed
    rw [asks.stores, withCatalog, List.getElem?_modify] at found
    obtain ⟨old, held, rfl⟩ := Option.map_eq_some_iff.mp found
    have kept := empty old (List.mem_of_getElem? held)
    by_cases same : engine.store = number
    · rw [if_pos same] at unloaded ⊢
      cases after with
      | none => exact kept unloaded
      | some catalog => cases unloaded
    · rw [if_neg same] at unloaded ⊢
      exact kept unloaded

theorem EmptyUntilLoaded.run (empty : session.EmptyUntilLoaded) (commands : List Command) :
    (session.run commands).1.EmptyUntilLoaded := by
  induction commands generalizing session with
  | nil => exact empty
  | cons command rest ih => exact ih (empty.step command)

section Replies
variable {name : String} {engine : EngineParts} {command : Command}

theorem step_unloaded (held : session.stores[number]? = some store)
    (unloaded : store.initialized = false) (empty : store.catalog = .empty)
    (known : session.engines.lookup name = some engine) (same : engine.store = number) :
    (session.step (.catalog name)).2 = .ok (.catalog .empty) ∧
    (∃ enabled, (session.step (.info name)).2 = .ok (.info ⟨false, 0, 0, enabled⟩)) ∧
    ∀ subject source override result, session.source subject = .ok source →
      session.step (.analyze name subject override result) =
        (session, .error (.analysis .notInitialized)) := by
  have missing : session.catalogOf engine = none := by
    rw [catalogOf, same, storeAt_eq held, Store.loaded?_eq_none_iff, unloaded]
  refine ⟨?_, ⟨(session.settingsOf engine).supplementalEnabled, ?_⟩, ?_⟩
  · simp only [step, withEngine, known, same, storeAt_eq held, empty]
  · simp only [step, withEngine, known, infoOf, same, storeAt_eq held, empty, unloaded]
    rfl
  · intro subject source override result named
    simp only [step, withEngine, known, analyze, named, missing]
    rfl

theorem stores_of_failed (held : session.stores[number]? = some store)
    (known : session.engines.lookup name = some engine) (same : engine.store = number)
    (asks : command.Asks name)
    (failed : (session.step command).2 = .error (.analysis (.rules error))) :
    store.initialized = false ∧ (session.step command).1.stores[number]? = some store := by
  obtain ⟨after, asked⟩ := step_asks asks known
  obtain ⟨later, found, -, given⟩ := asked.evolves held
  obtain rfl := asked.failed error failed
  obtain rfl := given same
  have missing := asked.asked.eq_none
  rw [catalogOf, same, storeAt_eq held, Store.loaded?_eq_none_iff] at missing
  exact ⟨missing, found⟩

theorem stores_of_succeeded (held : session.stores[number]? = some store)
    (known : session.engines.lookup name = some engine) (same : engine.store = number)
    (asks : command.Asks name) (answered : (session.step command).2 = .ok reply) :
    ∃ catalog, (session.step command).1.stores[number]? = some (store.put (some catalog)) := by
  obtain ⟨after, asked⟩ := step_asks asks known
  obtain ⟨later, found, -, given⟩ := asked.evolves held
  obtain ⟨catalog, rfl⟩ := Option.ne_none_iff_exists'.mp (asked.succeeded reply answered)
  exact ⟨catalog, given same ▸ found⟩

end Replies

/-- Once a store is initialized, no further step changes it. -/
theorem run_keeps_catalog (held : session.stores[number]? = some store)
    (loaded : store.initialized = true) (commands : List Command) :
    (session.run commands).1.stores[number]? = some store := by
  induction commands generalizing session with
  | nil => exact held
  | cons command rest ih =>
    obtain ⟨later, found, evolves⟩ := step_evolves held command
    cases evolves with
    | kept => exact ih found
    | loaded unloaded _ => exact absurd loaded (by rw [unloaded]; decide)

/-- A store loads at most once, and what it loads is up to date. The store has a number in the
session, under which engines use it. -/
structure LoadsOnce (session : Session) (number : Nat) (store : Store) : Prop where
  /-- Until it is initialized the store is empty, and no engine that uses it has rules or analyzes
  anything. -/
  unloaded : store.initialized = false → store.catalog = .empty ∧
    ∀ name engine, session.engines.lookup name = some engine → engine.store = number →
      (session.step (.catalog name)).2 = .ok (.catalog .empty) ∧
      (∃ enabled, (session.step (.info name)).2 = .ok (.info ⟨false, 0, 0, enabled⟩)) ∧
      ∀ subject source override result, session.source subject = .ok source →
        session.step (.analyze name subject override result) =
          (session, .error (.analysis .notInitialized))
  /-- If a step asks the store to load and that fails, it was not initialized, and it stays so. -/
  failed : ∀ name engine, session.engines.lookup name = some engine → engine.store = number →
    ∀ command error, command.Asks name →
      (session.step command).2 = .error (.analysis (.rules error)) →
        store.initialized = false ∧ (session.step command).1.stores[number]? = some store
  /-- If a step asks the store to load and succeeds, it is initialized. -/
  succeeded : ∀ name engine, session.engines.lookup name = some engine → engine.store = number →
    ∀ command reply, command.Asks name → (session.step command).2 = .ok reply →
      ∃ catalog, (session.step command).1.stores[number]? = some (store.put (some catalog))
  /-- A step keeps the store, or gives it the catalog that a new store would get. -/
  changed : ∀ command, ∃ later, (session.step command).1.stores[number]? = some later ∧
    session.Evolves store later
  /-- Once it is initialized it stays as it is, whatever else is done. -/
  kept : store.initialized = true → ∀ commands,
    (session.run commands).1.stores[number]? = some store

/-- The session over a file tree before its first step. -/
def opened (files : FileTree) : Session := { initial with files := files }

/-- At every point of every run, whatever happens to the files and however engines share them, the
stores load once. -/
theorem stores_load_once (files : FileTree) (commands : List Command)
    (held : ((opened files).run commands).1.stores[number]? = some store) :
    ((opened files).run commands).1.LoadsOnce number store where
  unloaded unloaded := by
    have blank : (opened files).EmptyUntilLoaded := nofun
    have empty := blank.run commands store (List.mem_of_getElem? held) unloaded
    exact ⟨empty, fun _ _ known same => step_unloaded held unloaded empty known same⟩
  failed _ _ known same _ _ asks failed := stores_of_failed held known same asks failed
  succeeded _ _ known same _ _ asks answered := stores_of_succeeded held known same asks answered
  changed := step_evolves held
  kept := run_keeps_catalog held

end Session
end Stores

namespace Session
open scoped Platform

/-- A file stands where the rules should be, so that an engine fails to start; once rules stand
there, it is started through another engine. -/
def retry : List Command :=
  [.write ["r"] (.file (.text "")),
    .create "e" (some (.own { Settings.default with rulesDirectory := .ofString "/r" })) .own,
    .start "e",
    .remove ["r"],
    .write ["r"] .directory,
    .write ["r", "a.json"] (.file (.text
      "\x7b\"rules\": [\x7b\"rule\": \"Sent\", \"matches\": [\"isFlow\"]\x7d]\x7d")),
    .create "f" none (.shared "e"),
    .toggle "f" false,
    .report "f" (.payload (.object [("cells", .array [])])) none .default none]

theorem retry_loads_once :
    (((opened ⟨[]⟩).run (retry.take 3)).1.stores[0]? = some (.new 0) ∧
      ((opened ⟨[]⟩).run (retry.take 3)).1.LoadsOnce 0 (.new 0)) ∧
    ∃ catalog, catalog.baseline.length = 1 ∧
      ((opened ⟨[]⟩).run retry).1.stores[0]? = some ⟨0, catalog, true⟩ ∧
      ((opened ⟨[]⟩).run retry).1.LoadsOnce 0 ⟨0, catalog, true⟩ := by
  have failed : ((opened ⟨[]⟩).run (retry.take 3)).1.stores[0]? = some (.new 0) := rfl
  have loaded : ((opened ⟨[]⟩).run retry).1.stores[0]?.map (fun store =>
      (store.settings, store.initialized, store.catalog.baseline.length)) = some (0, true, 1) := by
    decide +kernel
  obtain ⟨⟨settings, catalog, initialized⟩, there, same⟩ := Option.map_eq_some_iff.mp loaded
  obtain ⟨rfl, rfl, counted⟩ : settings = 0 ∧ initialized = true ∧ catalog.baseline.length = 1 := by
    simpa using same
  exact ⟨⟨failed, stores_load_once _ _ failed⟩, catalog, counted, there,
    stores_load_once _ _ there⟩

end Session
end ThreatAnalysis
