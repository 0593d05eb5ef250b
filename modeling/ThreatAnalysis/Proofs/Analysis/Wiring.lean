import ThreatAnalysis.Proofs.Analysis.LoadOnce

/-!
The numbers in a session. An engine names its settings and its store by their numbers, and a store
its settings, so that several engines can have either in common. Only making an engine touches
those numbers, and it takes them from what is there or has just been added: in every run they lead
to something (`run_wired`).
-/
namespace ThreatAnalysis

namespace Session
variable {session later : Session}

/-- The numbers by which engines, stores and settings hang together. -/
def wiring (session : Session) : Nat × List Nat × List (String × EngineParts) :=
  (session.settings.length, session.stores.map Store.settings, session.engines)

/-- Every number leads to something. -/
structure Wired (session : Session) : Prop where
  engines : ∀ entry ∈ session.engines, entry.2.settings < session.settings.length ∧
    entry.2.store < session.stores.length
  stores : ∀ store ∈ session.stores, store.settings < session.settings.length

theorem Wired.of_wiring (wired : session.Wired) (same : later.wiring = session.wiring) :
    later.Wired := by
  unfold wiring at same
  obtain ⟨settings, stores, engines⟩ : _ ∧ _ ∧ _ := by simpa only [Prod.mk.injEq] using same
  have count := congrArg List.length stores
  rw [List.length_map, List.length_map] at count
  constructor
  · intro entry listed
    rw [engines] at listed
    rw [settings, count]
    exact wired.engines entry listed
  · intro store listed
    have number : store.settings ∈ session.stores.map Store.settings := by
      rw [← stores]
      exact List.mem_map_of_mem listed
    obtain ⟨old, oldListed, same⟩ := List.mem_map.mp number
    rw [settings, ← same]
    exact wired.stores old oldListed

theorem Wired.addSettings (wired : session.Wired) (settings : Settings) :
    (session.addSettings settings).1.Wired := by
  have longer : (session.addSettings settings).1.settings.length = session.settings.length + 1 :=
    List.length_append
  constructor
  · intro entry listed
    obtain ⟨valid, known⟩ := wired.engines entry listed
    rw [longer]
    exact ⟨Nat.lt_succ_of_lt valid, known⟩
  · intro store listed
    rw [longer]
    exact Nat.lt_succ_of_lt (wired.stores store listed)

theorem Wired.addStore (wired : session.Wired) (number : Nat)
    (valid : number < session.settings.length) :
    (session.addStore number).1.Wired := by
  have longer : (session.addStore number).1.stores.length = session.stores.length + 1 :=
    List.length_append
  constructor
  · intro entry listed
    obtain ⟨settings, known⟩ := wired.engines entry listed
    rw [longer]
    exact ⟨settings, Nat.lt_succ_of_lt known⟩
  · intro store listed
    rcases List.mem_append.mp listed with old | new
    · exact wired.stores store old
    · rw [List.mem_singleton.mp new]
      exact valid

theorem Wired.addEngine (wired : session.Wired) (name : String) {parts : EngineParts}
    (valid : parts.settings < session.settings.length) (known : parts.store < session.stores.length) :
    ({ session with engines := (name, parts) :: session.engines } : Session).Wired := by
  refine ⟨?_, wired.stores⟩
  intro entry listed
  rcases List.mem_cons.mp listed with rfl | listed
  · exact ⟨valid, known⟩
  · exact wired.engines entry listed

theorem Wired.settings_storeAt (wired : session.Wired) (known : number < session.stores.length) :
    (session.storeAt number).settings < session.settings.length := by
  rw [storeAt, List.getD_eq_getElem?_getD, List.getElem?_eq_getElem known, Option.getD_some]
  exact wired.stores _ (List.getElem_mem known)

theorem Wired.of_lookup (wired : session.Wired)
    (known : session.engines.lookup name = some engine) :
    engine.settings < session.settings.length ∧ engine.store < session.stores.length := by
  obtain ⟨front, back, whole, -⟩ := List.lookup_eq_some_iff.mp known
  exact wired.engines (name, engine) (by simp [whole])

theorem Wired.engineOf (wired : session.Wired) (found : session.engineOf name = .ok engine) :
    engine.settings < session.settings.length ∧ engine.store < session.stores.length := by
  unfold Session.engineOf at found
  split at found
  case h_1 parts known =>
    cases found
    exact wired.of_lookup known
  case h_2 => cases found

theorem Wired.provide (wired : session.Wired) {choice : SettingsChoice}
    (provided : session.provide choice = .ok (later, number)) :
    later.Wired ∧ number < later.settings.length := by
  cases choice with
  | own settings =>
    cases provided
    exact ⟨wired.addSettings settings, by simp⟩
  | shared other =>
    obtain ⟨found, known, rest⟩ := bind_ok_iff.mp provided
    cases rest
    exact ⟨wired, (wired.engineOf known).1⟩

/-- The parts of an engine lead to something. -/
def Joined (session : Session) (parts : EngineParts) : Prop :=
  session.Wired ∧ parts.settings < session.settings.length ∧ parts.store < session.stores.length

theorem Wired.join (wired : session.Wired) (known : place < session.stores.length)
    {settings : Option SettingsChoice} (joined : session.join settings place = .ok (later, parts)) :
    later.Joined parts := by
  cases settings with
  | none =>
    cases joined
    exact ⟨wired, wired.settings_storeAt known, known⟩
  | some choice =>
    obtain ⟨⟨between, number⟩, provided, rest⟩ := bind_ok_iff.mp joined
    cases rest
    obtain ⟨still, valid⟩ := wired.provide provided
    exact ⟨still, valid, (provide_stores provided).symm ▸ known⟩

/-- An engine that is made uses a store and settings there are, or new ones. -/
theorem Wired.assemble (wired : session.Wired) {settings : Option SettingsChoice}
    {choice : StoreChoice} (assembled : session.assemble settings choice = .ok (later, parts)) :
    later.Joined parts := by
  have last (between : Session) (number : Nat) :
      between.stores.length < (between.addStore number).1.stores.length := by
    simp [Session.addStore]
  cases choice with
  | own =>
    obtain ⟨⟨between, number⟩, provided, rest⟩ := bind_ok_iff.mp assembled
    cases rest
    obtain ⟨still, valid⟩ := wired.provide provided
    exact ⟨still.addStore number valid, valid, last between number⟩
  | shared other =>
    obtain ⟨found, known, joined⟩ := bind_ok_iff.mp assembled
    exact wired.join (wired.engineOf known).2 joined
  | separate loading =>
    obtain ⟨⟨between, number⟩, provided, joined⟩ := bind_ok_iff.mp assembled
    obtain ⟨still, valid⟩ := wired.provide provided
    exact (still.addStore number valid).join (last between number) joined

theorem Wired.create (wired : session.Wired) (name : String) (settings : Option SettingsChoice)
    (choice : StoreChoice) : (session.create name settings choice).1.Wired := by
  unfold Session.create
  split
  case h_1 => exact wired
  case h_2 made parts assembled =>
    have joined : made.Joined parts := wired.assemble assembled
    obtain ⟨still, valid, known⟩ := joined
    exact still.addEngine name valid known

theorem withCatalog_wiring (session : Session) (place : Nat) (catalog : Option Catalog) :
    (session.withCatalog place catalog).wiring = session.wiring := by
  have stores : (session.withCatalog place catalog).stores.map Store.settings =
      session.stores.map Store.settings := by
    refine List.ext_getElem? fun number => ?_
    rw [List.getElem?_map, List.getElem?_map]
    cases held : session.stores[number]? with
    | none =>
      rw [withCatalog, List.getElem?_modify, held]
      rfl
    | some store =>
      rw [getElem?_withCatalog held]
      split
      · cases catalog <;> rfl
      · rfl
  unfold wiring
  rw [stores]
  rfl

theorem withDiagram_wiring (session : Session) (name : Option String) (diagram : Diagram) :
    (session.withDiagram name diagram).wiring = session.wiring := by
  cases name <;> rfl

theorem toggle_wiring (session : Session) (engine : EngineParts) (enabled : Bool) :
    (session.toggle engine enabled).wiring = session.wiring := by
  unfold wiring toggle
  rw [List.length_modify]

theorem store_wiring (session : Session) (name : String)
    (diagram : Except Diagram.LoadError Diagram) :
    (session.store name diagram).1.wiring = session.wiring := by
  cases diagram with
  | error error => rfl
  | ok diagram => exact withDiagram_wiring session (some name) diagram

theorem withEngine_wiring {act : EngineParts → Session × Except StepError Reply}
    (each : ∀ engine, (act engine).1.wiring = session.wiring) (name : String) :
    (session.withEngine name act).1.wiring = session.wiring := by
  unfold withEngine
  split
  · exact each _
  · rfl

/-- A toggle switches all engines with the same settings, and no other one. -/
theorem settingsOf_toggle {engine : EngineParts} (valid : engine.settings < session.settings.length)
    (sharing : EngineParts) (enabled : Bool) :
    ((session.toggle sharing enabled).settingsOf engine).supplementalEnabled =
      if sharing.settings = engine.settings then enabled
      else (session.settingsOf engine).supplementalEnabled := by
  have held := List.getElem?_eq_getElem valid
  unfold settingsOf settingsAt toggle
  rw [List.getD_eq_getElem?_getD, List.getD_eq_getElem?_getD, List.getElem?_modify, held]
  split <;> rfl

variable [Platform]

theorem keep_wiring (session : Session) (report : Report) (out : Option (Path × Json.Style)) :
    (session.keep report out).1.wiring = session.wiring := by
  unfold keep
  split
  · rfl
  · split <;> rfl

theorem start_wiring (session : Session) (engine : EngineParts) :
    (session.start engine).1.wiring = session.wiring := by
  unfold start
  split
  · rfl
  · exact withCatalog_wiring _ _ _

theorem analyze_wiring (session : Session) (engine : EngineParts) (subject : Subject)
    (override : Option Bool) (name : Option String) :
    (session.analyze engine subject override name).1.wiring = session.wiring := by
  unfold analyze
  split
  · rfl
  · dsimp only
    split
    · rfl
    · exact withDiagram_wiring session name _

theorem report_wiring (session : Session) (engine : Option EngineParts) (subject : Subject)
    (override : Option Bool) (settings : Settings) (out : Option (Path × Json.Style)) :
    (session.report engine subject override settings out).1.wiring = session.wiring := by
  unfold report
  split
  · rfl
  · split
    · dsimp only
      split
      · rfl
      · exact keep_wiring _ _ out
    · dsimp only
      split
      · exact withCatalog_wiring _ _ _
      · exact (keep_wiring _ _ out).trans (withCatalog_wiring _ _ _)

/-- A step adds an engine with a store and settings, or leaves all that as it is. -/
theorem Wired.step (wired : session.Wired) (command : Command) :
    (session.step command).1.Wired := by
  cases command with
  | create name settings choice => exact wired.create name settings choice
  | write location entry => exact wired.of_wiring rfl
  | remove location => exact wired.of_wiring rfl
  | inspect path =>
    refine wired.of_wiring ?_
    rw [Session.step]
    split <;> rfl
  | start name => exact wired.of_wiring (withEngine_wiring (start_wiring session) name)
  | toggle name enabled =>
    exact wired.of_wiring (withEngine_wiring (fun engine => toggle_wiring session engine enabled) name)
  | info name =>
    refine wired.of_wiring (withEngine_wiring ?_ name)
    exact fun _ => rfl
  | catalog name =>
    refine wired.of_wiring (withEngine_wiring ?_ name)
    exact fun _ => rfl
  | parse payload name => exact wired.of_wiring (store_wiring session name _)
  | load file name => exact wired.of_wiring (store_wiring session name _)
  | «recall» name =>
    refine wired.of_wiring ?_
    rw [Session.step]
    split <;> rfl
  | analyze name subject override result =>
    exact wired.of_wiring (withEngine_wiring
      (fun engine => analyze_wiring session engine subject override result) name)
  | report name subject override settings out =>
    exact wired.of_wiring (report_wiring session _ subject override settings out)

theorem run_wired (wired : session.Wired) (commands : List Command) :
    (session.run commands).1.Wired := by
  induction commands generalizing session with
  | nil => exact wired
  | cons command rest ih => exact ih (wired.step command)

theorem opened_wired (files : FileTree) : (opened files).Wired :=
  ⟨nofun, nofun⟩

end Session
end ThreatAnalysis
