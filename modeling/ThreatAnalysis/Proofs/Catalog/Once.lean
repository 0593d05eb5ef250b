import ThreatAnalysis.Proofs.Analysis.Outcome
import ThreatAnalysis.Proofs.Catalog.Loading

/-!
How often a path is read for rules. The baseline has one document for each name in the rules
directory, so that no two of them have one path. The supplemental file is chosen by a path of its
own: what keeps it from being read a second time is its name alone, which is reserved or is that of
no document (`ReadApart.reserved`). A supplemental file with the name of a baseline document gives
its rules twice (`ReadApart.twice`, `unreserved_read_twice`).
-/
namespace ThreatAnalysis

namespace RuleFile
variable {tree : FileTree} {path : Path} {file : RuleFile}

theorem path_ofDocument (path : Path) (document : Json) : (ofDocument path document).path = path := by
  unfold ofDocument
  split <;> rfl

variable [Platform]

theorem path_of_read (succeeded : read tree path = .ok file) : file.path = path := by
  unfold read at succeeded
  split at succeeded
  · cases succeeded
    exact path_ofDocument path _
  · cases succeeded
  · cases succeeded
    rfl

theorem path_of_readOptional (succeeded : readOptional tree path = .ok file) :
    file.path = path := by
  unfold readOptional at succeeded
  split at succeeded
  · exact path_of_read succeeded
  · cases succeeded
    rfl
  · cases succeeded

/-- A file gives the same rules whether it is optional or not. -/
theorem rules_of_readOptional (succeeded : read tree path = .ok file)
    (alsoSucceeded : readOptional tree path = .ok other) : other.rules = file.rules := by
  unfold readOptional at alsoSucceeded
  cases asked : tree.isFile path with
  | error error =>
    rw [asked] at alsoSucceeded
    cases alsoSucceeded
  | ok answer =>
    rw [asked] at alsoSucceeded
    cases answer with
    | true => rw [Except.ok.inj (succeeded.symm.trans alsoSucceeded)]
    | false =>
      obtain ⟨error, unread⟩ : ∃ error, tree.document path = .error (.file error) := by
        unfold FileTree.isFile FileTree.inspect at asked
        unfold FileTree.document FileTree.read
        rcases held : tree.entry path with cause | content | _
        · exact ⟨_, rfl⟩
        · simp [held, Except.map] at asked
        · exact ⟨_, rfl⟩
      unfold read at succeeded
      rw [unread] at succeeded
      cases succeeded
      cases alsoSucceeded
      rfl

end RuleFile

namespace Catalog
open FileTree (destination)
open Analysis
variable {tree after : FileTree} {settings : Settings} {catalog : Catalog}
  {baseline : List RuleFile} {supplemental : RuleFile}

/-- The names of the documents of the baseline. -/
def baselineNames (tree : FileTree) (settings : Settings) : List String :=
  (ruleNames tree settings).filter (isBaselineName settings.reservedPrefix)

theorem baselineNames_nodup (tree : FileTree) (settings : Settings) :
    (baselineNames tree settings).Nodup := by
  have ascending := FileTree.names_ascending tree (destination settings.rulesDirectory)
  exact (ascending.imp fun less => ne_of_lt less).filter _

theorem isBaselineName_of_mem (listed : name ∈ baselineNames tree settings) :
    isBaselineName settings.reservedPrefix name = true :=
  (List.mem_filter.mp listed).2

/-- The paths of the baseline are different from one another, and so are all that are read as long as
the supplemental one is none of them. -/
theorem nodup_iff
    (paths : baseline.map RuleFile.path =
      (baselineNames tree settings).map settings.rulesDirectory.child)
    (path : supplemental.path = settings.supplementalPath) :
    (baseline.map RuleFile.path).Nodup ∧
    (((ofFiles baseline supplemental).files.map RuleFile.path).Nodup ↔
      ∀ name ∈ baselineNames tree settings,
        settings.supplementalPath ≠ settings.rulesDirectory.child name) := by
  have apart : (baseline.map RuleFile.path).Nodup := by
    rw [paths]
    refine (baselineNames_nodup tree settings).map fun first second same => ?_
    simpa [Path.child] using same
  refine ⟨apart, ?_⟩
  have behind : (ofFiles baseline supplemental).files.map RuleFile.path =
      baseline.map RuleFile.path ++ [settings.supplementalPath] := by
    rw [ofFiles, List.map_append, List.map_singleton, path]
  rw [behind, List.nodup_append_comm, List.singleton_append, List.nodup_cons, and_iff_left apart,
    paths]
  simp only [List.mem_map, not_exists, not_and]
  exact forall₂_congr fun name listed => ne_comm

section
variable [Platform]

theorem paths_of_readAll
    (read : readAll tree settings (ruleNames tree settings) = .ok baseline) :
    baseline.map RuleFile.path =
      (baselineNames tree settings).map settings.rulesDirectory.child := by
  have each := mapM_ok_iff.mp read
  have paths : List.Forall₂ (fun name file => settings.rulesDirectory.child name = file.path)
      (baselineNames tree settings) baseline :=
    each.imp fun name file succeeded => (RuleFile.path_of_read (readNamed_ok_iff.mp succeeded)).symm
  exact (List.forall₂_eq_eq_eq ▸ List.forall₂_map_left_iff.mpr
    (List.forall₂_map_right_iff.mpr paths)).symm

/-- A supplemental file that is a document of the baseline has the rules of that document, and its
path occurs twice. -/
theorem twice_of_path (read : readAll tree settings (ruleNames tree settings) = .ok baseline)
    (readToo : RuleFile.readOptional tree settings.supplementalPath = .ok supplemental)
    (once : (baseline.map RuleFile.path).Nodup) {name : String}
    (listed : name ∈ baselineNames tree settings)
    (same : settings.supplementalPath = settings.rulesDirectory.child name) :
    ((ofFiles baseline supplemental).files.map RuleFile.path).count settings.supplementalPath = 2 ∧
      ∃ file ∈ baseline, file.path = supplemental.path ∧ file.rules = supplemental.rules := by
  have path := RuleFile.path_of_readOptional readToo
  have member : settings.supplementalPath ∈ baseline.map RuleFile.path := by
    rw [paths_of_readAll read, same]
    exact List.mem_map_of_mem listed
  obtain ⟨file, fileListed, filePath⟩ := List.mem_map.mp member
  refine ⟨?_, file, fileListed, filePath.trans path.symm, ?_⟩
  · have first : (baseline.map RuleFile.path).count settings.supplementalPath = 1 :=
      List.count_eq_one_of_mem once member
    simp [ofFiles, List.count_append, first, path]
  · obtain ⟨other, -, found⟩ := exists_of_mem_mapM read fileListed
    have fileRead := readNamed_ok_iff.mp found
    rw [← RuleFile.path_of_read fileRead, filePath] at fileRead
    exact (RuleFile.rules_of_readOptional fileRead readToo).symm

/-- How often the path of a file of rules occurs, and what that means for an analysis. -/
structure ReadApart (tree : FileTree) (settings : Settings) (catalog : Catalog)
    (documents : List RuleFile) (further : RuleFile) : Prop where
  files : catalog = ofFiles documents further
  /-- No two documents of the baseline have one path. -/
  baseline : (documents.map RuleFile.path).Nodup
  /-- A path occurs more than once only if the supplemental one is that of a baseline document. -/
  paths : (catalog.files.map RuleFile.path).Nodup ↔ ∀ name ∈ baselineNames tree settings,
    settings.supplementalPath ≠ settings.rulesDirectory.child name
  /-- This does not happen under a name that is reserved or is that of no document. -/
  reserved : (∀ name ∈ settings.supplementalPath.parts.getLast?,
      isBaselineName settings.reservedPrefix name = false) →
    (catalog.files.map RuleFile.path).Nodup
  /-- A path that occurs more than once occurs twice, and its rules belong to both parts. -/
  twice : ∀ name ∈ baselineNames tree settings,
    settings.supplementalPath = settings.rulesDirectory.child name →
    (catalog.files.map RuleFile.path).count settings.supplementalPath = 2 ∧
      ∃ file ∈ documents, file.path = further.path ∧ file.rules = further.rules
  /-- In an analysis each entry of a file that was read gives a cell at most one finding. -/
  applied : ∀ source files diagram enabled override result,
    DiagramSource.read files source = .ok diagram →
    Engine.analyze (some catalog) enabled source files override = .ok result →
    List.Forall₂ (fun cell resulting => cell.has .outOfScope = false →
      ∃ applied, applied.Sublist (catalog.files.flatMap RuleFile.rules) ∧
        resulting.findings = manual cell ++ generatedOn cell applied) diagram.cells result.cells

/-- What is added to a cell comes from the files of the catalog, position by position. -/
theorem applied_of_ofFiles (baseline : List RuleFile) (supplemental : RuleFile) (included : Bool)
    (before after : Cells) {cell : Cell} (inScope : cell.has .outOfScope = false) :
    ∃ applied, applied.Sublist ((ofFiles baseline supplemental).files.flatMap RuleFile.rules) ∧
      (analyzeCell (rulesOf (ofFiles baseline supplemental) included) before after cell).findings =
        manual cell ++ generatedOn cell applied := by
  obtain ⟨fired, further, outcome⟩ :=
    analyzeCell_outcome (ofFiles baseline supplemental) included before after inScope
  have first : fired.Sublist (baseline.flatMap RuleFile.rules) :=
    outcome.baseline.trans List.filter_sublist
  have second : further.Sublist supplemental.rules := by
    have some := outcome.supplemental
    unfold supplementalOf at some
    split at some
    · exact some.trans List.filter_sublist
    · rw [List.sublist_nil.mp some]
      exact List.nil_sublist _
  refine ⟨fired ++ further, ?_, ?_⟩
  · simpa [ofFiles] using first.append second
  · rw [outcome.findings, List.append_assoc]
    exact congrArg _ List.map_append.symm

/-- After a store without a catalog has loaded one, no path of a baseline document occurs twice, and
the supplemental path occurs a second time only if it is itself one of those. -/
theorem loaded_files_read_apart
    (loaded : Engine.loadOnce none tree settings = (after, .ok catalog)) :
    ∃ documents further, ReadApart after settings catalog documents further := by
  obtain ⟨reached, again⟩ := load_again loaded
  obtain ⟨files, further, read, readToo, rfl⟩ := (load_ok_iff reached).mp again
  obtain ⟨apart, paths⟩ := nodup_iff (paths_of_readAll read) (RuleFile.path_of_readOptional readToo)
  refine ⟨files, further, rfl, apart, paths, ?reserved, ?twice, ?applied⟩
  case reserved =>
    intro reserved
    refine paths.mpr fun name listed same => ?_
    have named := isBaselineName_of_mem listed
    rw [reserved name (by simp [same, Path.child])] at named
    cases named
  case twice =>
    intro name listed same
    exact twice_of_path read readToo apart listed same
  case applied =>
    intro source tree diagram enabled override result reads ran
    rcases Engine.analyze_of_read reads (ofFiles files further) enabled override with
      ⟨-, whole⟩ | ⟨-, failed⟩
    · rw [whole] at ran
      cases ran
      rw [Diagram.cells_analyze]
      exact analyzed_forall₂ (fun before after cell inScope =>
        applied_of_ofFiles files further _ before after inScope) [] diagram.cells
    · rw [failed] at ran
      cases ran

end

open scoped Platform

/-- A rules directory with one document. -/
def drawer : FileTree := ⟨[
  (["home"], .directory),
  (FileTree.workingDirectory, .directory),
  (FileTree.workingDirectory ++ ["r"], .directory),
  (FileTree.workingDirectory ++ ["r", "extra.json"],
    .file (.text "\x7b\"rules\": [\x7b\"rule\": \"Extra\", \"matches\": [\"isActor\"]\x7d]\x7d"))]⟩

/-- The document is the supplemental file, whether its name is reserved or not. -/
def drawerSettings (reserved : String) : Settings := ⟨⟨.here, ["r"]⟩, "extra.json", reserved, true⟩

/-- The paths of the files that are read, and the names of the rules in both parts. -/
def overview (catalog : Catalog) : List Path × List (Option String) × List (Option String) :=
  (catalog.files.map RuleFile.path, catalog.baseline.map Rule.name,
    catalog.supplemental.map Rule.name)

theorem drawer_loaded (reserved : String)
    (computed : (Engine.loadOnce none drawer (drawerSettings reserved)).2.toOption.map overview =
      some expected) : ∃ catalog, Engine.loadOnce none drawer (drawerSettings reserved) =
        (drawer, .ok catalog) ∧ overview catalog = expected := by
  have held : drawer.entry ⟨.here, ["r"]⟩ = .ok .directory := by rfl
  have reached : drawer.isDirectory (drawerSettings reserved).rulesDirectory = .ok true :=
    FileTree.isDirectory_iff.mpr held
  have stays : (Engine.loadOnce none drawer (drawerSettings reserved)).1 = drawer := by
    rw [Engine.loadOnce, load_of_isDirectory reached]
  cases loaded : (Engine.loadOnce none drawer (drawerSettings reserved)).2 with
  | error error =>
    rw [loaded] at computed
    cases computed
  | ok catalog =>
    rw [loaded] at computed
    exact ⟨catalog, Prod.ext stays loaded, Option.some.inj computed⟩

/-- Under a reserved name the document is read once. -/
theorem reserved_read_once : ∃ catalog,
    Engine.loadOnce none drawer (drawerSettings "ex") = (drawer, .ok catalog) ∧
    overview catalog = ([⟨.here, ["r", "extra.json"]⟩], [], [some "Extra"]) ∧
    ∃ documents further, ReadApart drawer (drawerSettings "ex") catalog documents further := by
  obtain ⟨catalog, loaded, seen⟩ := drawer_loaded "ex"
    (show _ = some ([⟨.here, ["r", "extra.json"]⟩], [], [some "Extra"]) by decide +kernel)
  exact ⟨catalog, loaded, seen, loaded_files_read_apart loaded⟩

/-- Under a name that is not reserved it is read twice, and its rule belongs to both parts. -/
theorem unreserved_read_twice : ∃ catalog,
    Engine.loadOnce none drawer (drawerSettings "enhanced-") = (drawer, .ok catalog) ∧
    catalog.files.map RuleFile.path =
      [⟨.here, ["r", "extra.json"]⟩, ⟨.here, ["r", "extra.json"]⟩] ∧
    catalog.baseline.map Rule.name = [some "Extra"] ∧
    catalog.supplemental.map Rule.name = [some "Extra"] := by
  obtain ⟨catalog, loaded, seen⟩ := drawer_loaded "enhanced-"
    (show _ = some ([⟨.here, ["r", "extra.json"]⟩, ⟨.here, ["r", "extra.json"]⟩], [some "Extra"],
      [some "Extra"]) by decide +kernel)
  unfold overview at seen
  obtain ⟨paths, names, others⟩ : _ ∧ _ ∧ _ := by simpa only [Prod.mk.injEq] using seen
  exact ⟨catalog, loaded, paths, names, others⟩

end Catalog
end ThreatAnalysis
