import ThreatAnalysis.Catalog.Basic
import ThreatAnalysis.Proofs.Files.Directory
import ThreatAnalysis.Proofs.Traversal

/-!
Loading from a rules directory that exists. The documents of the baseline are read in the order of
their names and then the supplemental file, and the tree stays as it is (`load_of_isDirectory`).
Whatever is wrong with a file is told in its outcome, so that loading succeeds unless something
breaks it (`load_succeeds_iff`).
-/
namespace ThreatAnalysis

/-- A name that is a path by itself, from the directory it is in. -/
structure Path.PlainName (name : String) : Prop where
  notEmpty : name ≠ ""
  notHere : name ≠ "."
  notAbove : name ≠ ".."
  noSlash : '/' ∉ name.toList

theorem Text.splitFirst_of_notMem [DecidableEq α] {mark : α} {list : List α}
    (absent : mark ∉ list) : Text.splitFirst (· = mark) list = (list, []) := by
  induction list with
  | nil => rfl
  | cons head rest ih =>
    obtain ⟨different, restAbsent⟩ : mark ≠ head ∧ mark ∉ rest := by simpa using absent
    simp [Text.splitFirst, ih restAbsent, Ne.symm different]

theorem Path.ofString_plain {name : String} (plain : Path.PlainName name) :
    Path.ofString name = ⟨.here, [name]⟩ := by
  have relative : Path.anchorOf name.toList = .here := by
    have noSlash := plain.noSlash
    cases characters : name.toList with
    | nil => rfl
    | cons first rest =>
      have notSlash : first ≠ '/' := by
        rintro rfl
        exact noSlash (characters ▸ List.mem_cons_self)
      unfold Path.anchorOf
      split <;> simp_all
  unfold Path.ofString Path.steps Text.split Text.splitWhere
  rw [relative, Text.splitFirst_of_notMem plain.noSlash]
  simp [plain.notEmpty, plain.notHere]

/-- A supplemental file with a plain name is one of the entries of the rules directory. -/
theorem Settings.supplementalPath_plain {settings : Settings}
    (plain : Path.PlainName settings.supplementalFile) :
    settings.supplementalPath = settings.rulesDirectory.child settings.supplementalFile := by
  unfold Settings.supplementalPath
  rw [Path.ofString_plain plain]
  rfl

namespace RuleFile
variable [Platform] {tree first second : FileTree} {path : Path}

theorem read_congr (same : first.entry path = second.entry path) :
    read first path = read second path := by
  unfold read
  rw [FileTree.document_congr same]

theorem readOptional_congr (same : first.entry path = second.entry path) :
    readOptional first path = readOptional second path := by
  unfold readOptional
  rw [FileTree.isFile_congr same, read_congr same]

/-- Every file can be read, whatever is wrong with it, except that nesting may break it. -/
theorem exists_read_iff :
    (∃ file, read tree path = .ok file) ↔ tree.document path ≠ .error .nesting := by
  unfold read
  rcases tree.document path with error | document
  · cases error <;> simp
  · simp

theorem exists_readOptional_iff :
    (∃ file, readOptional tree path = .ok file) ↔
      (∀ error, tree.isFile path ≠ .error error) ∧ tree.document path ≠ .error .nesting := by
  unfold readOptional
  cases asked : tree.isFile path with
  | error error => simp
  | ok answer =>
    cases answer with
    | false =>
      have shallow : tree.document path ≠ .error .nesting := by
        intro deep
        rw [FileTree.isFile_of_nesting deep] at asked
        cases asked
      simp [shallow]
    | true => simp [exists_read_iff]

/-- Nothing comes from where nothing stands. -/
theorem rules_of_absent (absent : ∀ entry, tree.entry path ≠ .ok entry)
    (succeeded : read tree path = .ok file) : file.rules = [] := by
  have missing : ∃ error, tree.document path = .error (.file error) := by
    unfold FileTree.document FileTree.read
    cases found : tree.entry path with
    | error cause => exact ⟨_, rfl⟩
    | ok entry => exact absurd found (absent entry)
  obtain ⟨error, missing⟩ := missing
  unfold read at succeeded
  rw [missing] at succeeded
  cases succeeded
  rfl

end RuleFile

namespace Catalog
open FileTree (destination)
variable {tree : FileTree} {settings : Settings} {name : String} {catalog : Catalog}

/-- No baseline document is a directory or the one around it. -/
theorem stepTo_of_isBaselineName {reserved : String} (named : isBaselineName reserved name = true)
    (around : Location) : FileTree.stepTo around name = around ++ [name] := by
  have suffix : Path.suffix name = ".json" := by
    unfold isBaselineName at named
    rw [Bool.and_eq_true] at named
    exact eq_of_beq named.1
  exact FileTree.stepTo_of_suffix suffix around

/-- The names in the rules directory. -/
def ruleNames (tree : FileTree) (settings : Settings) : List String :=
  tree.names (destination settings.rulesDirectory)

/-- Nothing stands under a name that is not listed. -/
theorem entry_of_unlisted (reached : tree.isDirectory settings.rulesDirectory = .ok true)
    (named : isBaselineName settings.reservedPrefix name = true)
    (unlisted : name ∉ ruleNames tree settings) (entry : Entry) :
    tree.entry (settings.rulesDirectory.child name) ≠ .ok entry :=
  FileTree.entry_of_unlisted reached (stepTo_of_isBaselineName named _) unlisted entry

variable [Platform]

/-- Nothing breaks loading: no document it reads is nested too deep, and it does not stay open
whether there is a supplemental file. -/
structure Unbroken (tree : FileTree) (settings : Settings) : Prop where
  baseline : ∀ name, isBaselineName settings.reservedPrefix name = true →
    tree.document (settings.rulesDirectory.child name) ≠ .error .nesting
  decided : ∀ error, tree.isFile settings.supplementalPath ≠ .error error
  supplemental : tree.document settings.supplementalPath ≠ .error .nesting

/-- Reads the document of a name in the rules directory. -/
def readNamed (tree : FileTree) (settings : Settings) (name : String) :
    Except CatalogError RuleFile :=
  (RuleFile.read tree (settings.rulesDirectory.child name)).mapError .broken

theorem readNamed_ok_iff : readNamed tree settings name = .ok file ↔
    RuleFile.read tree (settings.rulesDirectory.child name) = .ok file := by
  unfold readNamed
  cases RuleFile.read tree (settings.rulesDirectory.child name) <;> simp [Except.mapError]

/-- Reads the documents of the baseline that are among the names in the rules directory. -/
def readAll (tree : FileTree) (settings : Settings) (names : List String) :
    Except CatalogError (List RuleFile) :=
  (names.filter (isBaselineName settings.reservedPrefix)).mapM (readNamed tree settings)

/-- In a directory that exists, the documents of the baseline are read name by name and then the
supplemental file, and the tree stays as it is. -/
theorem load_of_isDirectory (reached : tree.isDirectory settings.rulesDirectory = .ok true) :
    Catalog.load tree settings = (tree, do
      let files ← readAll tree settings (ruleNames tree settings)
      let supplemental ← (RuleFile.readOptional tree settings.supplementalPath).mapError .broken
      return ofFiles files supplemental) := by
  have prepared : prepare tree settings.rulesDirectory = (tree, .ok ()) := by
    unfold prepare
    rw [FileTree.contains_of_isDirectory reached]
  have baseline : baselineFiles tree settings.rulesDirectory settings.reservedPrefix =
      readAll tree settings (ruleNames tree settings) := by
    unfold baselineFiles
    rw [FileTree.list_of_isDirectory reached]
    rfl
  unfold load loadBaseline
  simp only [prepared, baseline]
  cases readAll tree settings (ruleNames tree settings) with
  | error error => rfl
  | ok files =>
    dsimp only
    cases RuleFile.readOptional tree settings.supplementalPath <;> rfl

theorem load_ok_iff (reached : tree.isDirectory settings.rulesDirectory = .ok true) :
    (Catalog.load tree settings).2 = .ok catalog ↔ ∃ files supplemental,
      readAll tree settings (ruleNames tree settings) = .ok files ∧
      RuleFile.readOptional tree settings.supplementalPath = .ok supplemental ∧
      catalog = ofFiles files supplemental := by
  rw [load_of_isDirectory reached]
  cases readAll tree settings (ruleNames tree settings) with
  | error error => simp [bind, Except.bind]
  | ok files =>
    cases RuleFile.readOptional tree settings.supplementalPath with
    | error breakdown => simp [bind, Except.bind, Except.mapError]
    | ok supplemental => simp [bind, Except.bind, Except.mapError, pure, Except.pure, eq_comm]

/-- Loading succeeds only where the rules directory is one by then, and from what it leaves behind
it would succeed with the same catalog. -/
theorem load_again (loaded : Catalog.load tree settings = (after, .ok catalog)) :
    after.isDirectory settings.rulesDirectory = .ok true ∧
      (Catalog.load after settings).2 = .ok catalog := by
  unfold load loadBaseline at loaded
  rcases prepared : prepare tree settings.rulesDirectory with ⟨made, error | ⟨⟩⟩
  · rw [prepared] at loaded
    cases loaded
  · simp only [prepared] at loaded
    cases read : baselineFiles made settings.rulesDirectory settings.reservedPrefix with
    | error error =>
      rw [read] at loaded
      cases loaded
    | ok files =>
      have reached : made.isDirectory settings.rulesDirectory = .ok true := by
        unfold baselineFiles at read
        cases listed : made.list settings.rulesDirectory with
        | error error => simp [listed, Except.mapError, bind, Except.bind] at read
        | ok names => exact FileTree.isDirectory_of_list listed
      simp only [read] at loaded
      have same : made = after := by
        split at loaded <;> exact congrArg Prod.fst loaded
      subst same
      refine ⟨reached, ?_⟩
      have contained : prepare made settings.rulesDirectory = (made, .ok ()) := by
        unfold prepare
        rw [FileTree.contains_of_isDirectory reached]
      unfold load loadBaseline
      simp only [contained, read]
      exact congrArg Prod.snd loaded

/-- Loading succeeds unless something breaks it. -/
theorem load_succeeds_iff (reached : tree.isDirectory settings.rulesDirectory = .ok true) :
    (∃ catalog, (Catalog.load tree settings).2 = .ok catalog) ↔ Unbroken tree settings := by
  have each : (∃ files, readAll tree settings (ruleNames tree settings) = .ok files) ↔
      ∀ name, isBaselineName settings.reservedPrefix name = true →
        tree.document (settings.rulesDirectory.child name) ≠ .error .nesting := by
    unfold readAll
    simp only [exists_mapM_iff, readNamed_ok_iff, RuleFile.exists_read_iff, List.mem_filter]
    refine ⟨fun shallow name named deep => ?_, fun shallow name listed => shallow name listed.2⟩
    obtain ⟨content, held⟩ := FileTree.entry_of_nesting deep
    by_cases listed : name ∈ ruleNames tree settings
    · exact shallow name ⟨listed, named⟩ deep
    · exact entry_of_unlisted reached named listed _ held
  simp only [load_ok_iff reached]
  constructor
  · rintro ⟨_, files, supplemental, read, readToo, -⟩
    obtain ⟨decided, shallow⟩ := RuleFile.exists_readOptional_iff.mp ⟨supplemental, readToo⟩
    exact ⟨each.mp ⟨files, read⟩, decided, shallow⟩
  · intro unbroken
    obtain ⟨files, read⟩ := each.mpr unbroken.baseline
    obtain ⟨supplemental, readToo⟩ :=
      RuleFile.exists_readOptional_iff.mpr ⟨unbroken.decided, unbroken.supplemental⟩
    exact ⟨_, files, supplemental, read, readToo, rfl⟩

end Catalog
end ThreatAnalysis
