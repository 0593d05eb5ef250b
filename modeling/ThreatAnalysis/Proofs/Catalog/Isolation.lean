import ThreatAnalysis.Analysis.Engine
import ThreatAnalysis.Proofs.Catalog.Loading

/-!
Isolation of rule files. The baseline consists of what the names in the rules directory contribute,
in their order (`baseline_of_load`), and what a name contributes depends on nothing but what stands
at its location. So rules directories that differ in one entry give the same rules but for those of
that entry (`DifferAt.sameBaselineBeside`). Whether there are any rules is not as isolated: an entry
that is nested too deep breaks loading as a whole, which is the only way in which one entry can
(`DifferAt.unbroken_iff`).
-/
namespace ThreatAnalysis

namespace Json.Reader
variable [Platform]

/-- Brackets that lie deeper than a limit end reading, whatever follows. -/
theorem value_of_brackets (limit : Nat) (rest : List Char) : ∀ fuel, 2 * limit < fuel →
    value fuel limit (List.replicate (limit + 1) '[' ++ rest) = .error .nesting := by
  induction limit with
  | zero =>
    intro fuel enough
    obtain ⟨fuel, rfl⟩ := Nat.exists_eq_add_one_of_ne_zero (Nat.ne_of_gt enough)
    rfl
  | succ limit ih =>
    intro fuel enough
    obtain ⟨fuel, rfl⟩ : ∃ steps, fuel = steps + 2 := ⟨fuel - 2, by omega⟩
    have deeper := ih fuel (by omega)
    rw [List.replicate_succ, List.cons_append] at deeper ⊢
    have kept : skip ('[' :: (List.replicate limit '[' ++ rest)) =
        '[' :: (List.replicate limit '[' ++ rest) := rfl
    rw [List.replicate_succ, List.cons_append]
    simp [value, items, kept, deeper, bind, Except.bind, Except.map]

theorem readWithin_of_brackets (limit : Nat) (rest : List Char) :
    readWithin limit (String.ofList (List.replicate (limit + 1) '[' ++ rest)) =
      .error .nesting := by
  have kept : skip (List.replicate (limit + 1) '[' ++ rest) =
      List.replicate (limit + 1) '[' ++ rest := rfl
  have deep := value_of_brackets limit rest
    (2 * (List.replicate (limit + 1) '[' ++ rest).length + 2) (by simp; omega)
  unfold readWithin document
  rw [String.toList_ofList, kept, deep]
  rfl

end Json.Reader

namespace Catalog
open FileTree (destination AgreeBeside)
variable {tree first second : FileTree} {settings : Settings} {changed name : String}
  {catalog other : Catalog}

/-- Two trees in which the rules directory exists, and which agree on everything but one entry of
it. In either of them that may be a file, a directory with whatever is in it, or nothing. -/
structure DifferAt (changed : String) (settings : Settings) (first second : FileTree) : Prop where
  reached : first.isDirectory settings.rulesDirectory = .ok true
  alsoReached : second.isDirectory settings.rulesDirectory = .ok true
  agree : AgreeBeside (destination settings.rulesDirectory ++ [changed]) first second

/-- Any other name leads to the same entry. -/
theorem DifferAt.entry_child (differ : DifferAt changed settings first second)
    (different : name ≠ changed)
    (step : FileTree.stepTo (destination settings.rulesDirectory) name =
      destination settings.rulesDirectory ++ [name]) :
    first.entry (settings.rulesDirectory.child name) =
      second.entry (settings.rulesDirectory.child name) := by
  refine FileTree.entry_child_congr differ.reached differ.alsoReached ?_
  rw [step]
  exact differ.agree.find?_name different

theorem DifferAt.entry_baseline (differ : DifferAt changed settings first second)
    (different : name ≠ changed) (named : isBaselineName settings.reservedPrefix name = true) :
    first.entry (settings.rulesDirectory.child name) =
      second.entry (settings.rulesDirectory.child name) :=
  differ.entry_child different (stepTo_of_isBaselineName named _)

theorem DifferAt.entry_supplemental (differ : DifferAt changed settings first second)
    (plain : Path.PlainName settings.supplementalFile)
    (different : settings.supplementalFile ≠ changed) :
    first.entry settings.supplementalPath = second.entry settings.supplementalPath := by
  rw [Settings.supplementalPath_plain plain]
  exact differ.entry_child different (FileTree.stepTo_of_ne plain.notHere plain.notAbove _)

/-- The names around one that is listed in any case. -/
theorem exists_around (tree : FileTree) (settings : Settings) (changed : String) :
    ∃ below above : List String, FileTree.insertName changed (ruleNames tree settings) =
      below ++ changed :: above ∧ (below ++ changed :: above).Pairwise (· < ·) ∧
      ∀ name, name ∈ below ++ above ↔ name ≠ changed ∧ name ∈ ruleNames tree settings := by
  have placed : changed ∈ FileTree.insertName changed (ruleNames tree settings) :=
    FileTree.mem_insertName.mpr (.inl rfl)
  have ascending : (FileTree.insertName changed (ruleNames tree settings)).Pairwise (· < ·) :=
    FileTree.insertName_ascending (FileTree.names_ascending _ _)
  obtain ⟨below, above, shape⟩ := List.append_of_mem placed
  rw [shape] at ascending
  refine ⟨below, above, shape, ascending, fun name => ?_⟩
  have once : changed ∉ below ++ above :=
    (List.nodup_cons.mp (List.nodup_middle.mp ascending.nodup)).1
  have listed : name ∈ below ++ changed :: above ↔
      name = changed ∨ name ∈ ruleNames tree settings := by
    rw [← shape, FileTree.mem_insertName]
  by_cases same : name = changed
  · subst same
    simp [once]
  · simpa [same] using listed

section
variable [Platform]

/-- The rules that a name in the rules directory contributes to the baseline. -/
def contribution (tree : FileTree) (settings : Settings) (name : String) : List Rule :=
  if isBaselineName settings.reservedPrefix name then
    match RuleFile.read tree (settings.rulesDirectory.child name) with
    | .ok file => file.rules
    | .error _ => []
  else []

/-- A name under which nothing stands contributes nothing. -/
theorem contribution_of_unlisted (reached : tree.isDirectory settings.rulesDirectory = .ok true)
    (unlisted : name ∉ ruleNames tree settings) : contribution tree settings name = [] := by
  unfold contribution
  split
  case isTrue named =>
    split
    case h_1 file read =>
      have absent := entry_of_unlisted reached named unlisted
      exact RuleFile.rules_of_absent absent read
    case h_2 => rfl
  case isFalse => rfl

theorem flatMap_of_readAll {names : List String} {files : List RuleFile}
    (read : readAll tree settings names = .ok files) :
    files.flatMap (·.rules) = names.flatMap (contribution tree settings) := by
  unfold readAll at read
  induction names generalizing files with
  | nil =>
    cases read
    rfl
  | cons name rest ih =>
    rw [List.flatMap_cons]
    cases named : isBaselineName settings.reservedPrefix name with
    | false =>
      rw [List.filter_cons_of_neg (by simp [named])] at read
      simp [contribution, named, ih read]
    | true =>
      rw [List.filter_cons_of_pos named] at read
      obtain ⟨file, others, readFile, readOthers, rfl⟩ := mapM_cons_ok_iff.mp read
      simp [contribution, named, readNamed_ok_iff.mp readFile, ih readOthers]

/-- The baseline, with a place for one more name, which contributes nothing if it is not there. -/
theorem baseline_of_load (reached : tree.isDirectory settings.rulesDirectory = .ok true)
    (loaded : (Catalog.load tree settings).2 = .ok catalog) (added : String) :
    catalog.baseline = (FileTree.insertName added (ruleNames tree settings)).flatMap
      (contribution tree settings) := by
  obtain ⟨files, supplemental, read, -, rfl⟩ := (load_ok_iff reached).mp loaded
  rw [ofFiles, flatMap_of_readAll read]
  by_cases listed : added ∈ ruleNames tree settings
  · have present := FileTree.insertName_of_mem (FileTree.names_ascending _ _) listed
    rw [ruleNames, present]
  · have silent := contribution_of_unlisted reached listed
    rw [FileTree.flatMap_insertName silent]

theorem DifferAt.contribution_eq (differ : DifferAt changed settings first second)
    (different : name ≠ changed) :
    contribution second settings name = contribution first settings name := by
  unfold contribution
  cases named : isBaselineName settings.reservedPrefix name with
  | false => rfl
  | true => rw [RuleFile.read_congr (differ.entry_baseline different named)]

/-- Whether loading is broken in one of the trees but not in the other is up to the entry in which
they differ: if it is read at all, and nested too deep. -/
theorem DifferAt.unbroken_iff (differ : DifferAt changed settings first second)
    (plain : Path.PlainName settings.supplementalFile) (unbroken : Unbroken first settings) :
    Unbroken second settings ↔
      (isBaselineName settings.reservedPrefix changed = true ∨ changed = settings.supplementalFile →
        second.document (settings.rulesDirectory.child changed) ≠ .error .nesting) := by
  have path := Settings.supplementalPath_plain plain
  constructor
  · rintro alsoUnbroken (named | rfl)
    · exact alsoUnbroken.baseline changed named
    · rw [← path]
      exact alsoUnbroken.supplemental
  · intro shallow
    refine ⟨fun name named => ?_, ?_, ?_⟩
    · by_cases same : name = changed
      · subst same
        exact shallow (.inl named)
      · rw [← FileTree.document_congr (differ.entry_baseline same named)]
        exact unbroken.baseline name named
    · intro error failed
      rw [path] at failed
      have alsoFailed :=
        (FileTree.isFile_child_error_iff differ.reached differ.alsoReached).mpr failed
      exact unbroken.decided error (path ▸ alsoFailed)
    · by_cases same : settings.supplementalFile = changed
      · rw [path, same]
        exact shallow (.inr same.symm)
      · rw [← FileTree.document_congr (differ.entry_supplemental plain same)]
        exact unbroken.supplemental

/-- Two baselines that are the same, in the order of names, but for the rules of one entry. -/
def SameBaselineBeside (changed : String) (settings : Settings) (first second : FileTree)
    (catalog other : Catalog) : Prop :=
  ∃ below above : List String, (below ++ changed :: above).Pairwise (· < ·) ∧
    (∀ name, name ∈ below ++ above ↔ name ≠ changed ∧ name ∈ ruleNames first settings) ∧
    catalog.baseline = below.flatMap (contribution first settings) ++
      contribution first settings changed ++ above.flatMap (contribution first settings) ∧
    other.baseline = below.flatMap (contribution first settings) ++
      contribution second settings changed ++ above.flatMap (contribution first settings)

theorem DifferAt.sameBaselineBeside (differ : DifferAt changed settings first second)
    (loaded : (Catalog.load first settings).2 = .ok catalog)
    (also : (Catalog.load second settings).2 = .ok other) :
    SameBaselineBeside changed settings first second catalog other := by
  obtain ⟨below, above, shape, ascending, around⟩ := exists_around first settings changed
  have alsoShape : FileTree.insertName changed (ruleNames second settings) =
      below ++ changed :: above := by
    rw [← shape]
    exact differ.agree.insertName_names.symm
  have kept (name : String) (listed : name ∈ below ++ above) :
      contribution second settings name = contribution first settings name :=
    differ.contribution_eq ((around name).mp listed).1
  have keptBelow : below.flatMap (contribution second settings) =
      below.flatMap (contribution first settings) :=
    List.flatMap_congr fun name listed => kept name (List.mem_append_left _ listed)
  have keptAbove : above.flatMap (contribution second settings) =
      above.flatMap (contribution first settings) :=
    List.flatMap_congr fun name listed => kept name (List.mem_append_right _ listed)
  refine ⟨below, above, ascending, around, ?_, ?_⟩
  · rw [baseline_of_load differ.reached loaded changed, shape, List.flatMap_append,
      List.flatMap_cons, List.append_assoc]
  · rw [baseline_of_load differ.alsoReached also changed, alsoShape, List.flatMap_append,
      List.flatMap_cons, keptBelow, keptAbove, List.append_assoc]

/-- What there is in common between catalogs from trees that differ in one entry. -/
structure Isolated (changed : String) (settings : Settings) (first second : FileTree)
    (catalog other : Catalog) : Prop where
  baseline : SameBaselineBeside changed settings first second catalog other
  /-- An entry that is no document of the baseline has no rules in it. -/
  unnamed : isBaselineName settings.reservedPrefix changed = false →
    other.baseline = catalog.baseline
  /-- The supplemental rules, and the outcome of reading their file, are the same unless the entry
  is that file. -/
  supplemental : changed ≠ settings.supplementalFile → other.supplemental = catalog.supplemental ∧
    other.files.getLast?.isSome ∧ other.files.getLast? = catalog.files.getLast?

/-- Stores without a catalog are asked to load from trees that differ in one entry of the rules
directory. A store fails only if its loading is broken, and where it is not broken in one tree, it
is not in the other either, unless by the entry being nested too deep. If both succeed, the entry
decides over its own rules only. -/
theorem loadOnce_isolates (plain : Path.PlainName settings.supplementalFile)
    (differ : DifferAt changed settings first second) :
    ((∃ catalog, (Engine.loadOnce none first settings).2 = .ok catalog) ↔
      Unbroken first settings) ∧
    ((∃ other, (Engine.loadOnce none second settings).2 = .ok other) ↔
      Unbroken second settings) ∧
    (Unbroken first settings → (Unbroken second settings ↔
      (isBaselineName settings.reservedPrefix changed = true ∨
        changed = settings.supplementalFile →
        second.document (settings.rulesDirectory.child changed) ≠ .error .nesting))) ∧
    ∀ catalog other, (Engine.loadOnce none first settings).2 = .ok catalog →
      (Engine.loadOnce none second settings).2 = .ok other →
      Isolated changed settings first second catalog other := by
  refine ⟨load_succeeds_iff differ.reached, load_succeeds_iff differ.alsoReached,
    differ.unbroken_iff plain, fun catalog other loaded also => ?_⟩
  have baseline := differ.sameBaselineBeside loaded also
  refine ⟨baseline, fun unnamed => ?_, fun different => ?_⟩
  · have silent (tree : FileTree) : contribution tree settings changed = [] := by
      unfold contribution
      rw [if_neg (by simp [unnamed])]
    obtain ⟨below, above, -, -, here, there⟩ := baseline
    rw [here, there, silent, silent]
  · obtain ⟨files, supplemental, -, read, rfl⟩ := (load_ok_iff differ.reached).mp loaded
    obtain ⟨others, alsoSupplemental, -, alsoRead, rfl⟩ :=
      (load_ok_iff differ.alsoReached).mp also
    have same := RuleFile.readOptional_congr (differ.entry_supplemental plain different.symm)
    rw [← same, read] at alsoRead
    cases alsoRead
    simp [ofFiles]

end

open scoped Platform

/-- A document with one rule. -/
def oneRule (name : String) : Entry :=
  .file (.text ("\x7b\"rules\": [\x7b\"rule\": \"" ++ name ++ "\"\x7d]\x7d"))

/-- A rules directory with a document of the baseline and the supplemental file. -/
def shelf : FileTree := ⟨[
  (["home"], .directory),
  (FileTree.workingDirectory, .directory),
  (FileTree.workingDirectory ++ ["r"], .directory),
  (FileTree.workingDirectory ++ ["r", "b.json"], oneRule "Kept"),
  (FileTree.workingDirectory ++ ["r", "extra.json"], oneRule "Extra")]⟩

def shelfSettings : Settings := ⟨⟨.here, ["r"]⟩, "extra.json", "extra", true⟩

/-- One more entry of the rules directory. -/
def shelfWith (entry : Entry) : FileTree :=
  shelf.put (destination shelfSettings.rulesDirectory ++ ["a.json"]) entry

theorem shelfSettings_plain : Path.PlainName shelfSettings.supplementalFile :=
  ⟨by decide, by decide, by decide, by decide⟩

theorem shelfWith_reached (entry : Entry) :
    (shelfWith entry).isDirectory shelfSettings.rulesDirectory = .ok true := by
  rfl

theorem shelfWith_entry (entry : Entry) :
    (shelfWith entry).entry (shelfSettings.rulesDirectory.child "a.json") = .ok entry := by
  rfl

theorem shelfWith_differAt (entry other : Entry) :
    DifferAt "a.json" shelfSettings (shelfWith entry) (shelfWith other) where
  reached := shelfWith_reached entry
  alsoReached := shelfWith_reached other
  agree := (FileTree.put_agreeBeside shelf _ entry).trans
    (FileTree.put_agreeBeside shelf _ other).symm

theorem shelfWith_names (entry : Entry) {expected : List (Option String)}
    (computed : (Engine.loadOnce none (shelfWith entry) shelfSettings).2.toOption.map
      (fun catalog => catalog.baseline.map Rule.name) = some expected) :
    ∃ catalog, (Engine.loadOnce none (shelfWith entry) shelfSettings).2 = .ok catalog ∧
      catalog.baseline.map Rule.name = expected := by
  cases loaded : (Engine.loadOnce none (shelfWith entry) shelfSettings).2 with
  | error error => simp [loaded, Except.toOption] at computed
  | ok catalog => exact ⟨catalog, rfl, by simpa [loaded, Except.toOption] using computed⟩

/-- A document that is cut off takes no rules with it but its own. -/
theorem shelf_isolated : Path.PlainName shelfSettings.supplementalFile ∧
    DifferAt "a.json" shelfSettings (shelfWith (.file (.text "["))) (shelfWith (oneRule "Added")) ∧
    ∃ catalog other,
      (Engine.loadOnce none (shelfWith (.file (.text "["))) shelfSettings).2 = .ok catalog ∧
      (Engine.loadOnce none (shelfWith (oneRule "Added")) shelfSettings).2 = .ok other ∧
      catalog.baseline.map Rule.name = [some "Kept"] ∧
      other.baseline.map Rule.name = [some "Added", some "Kept"] ∧
      Isolated "a.json" shelfSettings (shelfWith (.file (.text "["))) (shelfWith (oneRule "Added"))
        catalog other := by
  have differ := shelfWith_differAt (.file (.text "[")) (oneRule "Added")
  obtain ⟨catalog, loaded, rules⟩ := shelfWith_names (.file (.text "["))
    (show _ = some [some "Kept"] by decide +kernel)
  obtain ⟨other, also, others⟩ := shelfWith_names (oneRule "Added")
    (show _ = some [some "Added", some "Kept"] by decide +kernel)
  have isolates := loadOnce_isolates shelfSettings_plain differ
  exact ⟨shelfSettings_plain, differ, catalog, other, loaded, also, rules, others,
    isolates.2.2.2 catalog other loaded also⟩

/-- A text under a baseline name that is nested too deep breaks loading. -/
theorem not_loaded_of_nesting [Platform]
    (reached : tree.isDirectory settings.rulesDirectory = .ok true)
    (named : isBaselineName settings.reservedPrefix name = true)
    (held : tree.entry (settings.rulesDirectory.child name) = .ok (.file (.text written)))
    (deep : Json.readWithin Platform.deepestDocument written = .error .nesting) :
    ¬∃ catalog, (Engine.loadOnce none tree settings).2 = .ok catalog := by
  have document : tree.document (settings.rulesDirectory.child name) = .error .nesting := by
    unfold FileTree.document FileTree.read
    simp only [held, Content.document, deep]
  intro succeeds
  have unbroken := (load_succeeds_iff reached).mp succeeds
  exact unbroken.baseline name named document

/-- An array of arrays of arrays, one level deeper than documents may be nested. -/
def deepArray : String :=
  String.ofList (List.replicate (Platform.deepestDocument + 1) '[' ++
    List.replicate (Platform.deepestDocument + 1) ']')

/-- A document of a wrong shape that is nested too deep takes all rules with it. -/
theorem deep_document_breaks : Path.PlainName shelfSettings.supplementalFile ∧
    DifferAt "a.json" shelfSettings (shelfWith (oneRule "Added"))
      (shelfWith (.file (.text deepArray))) ∧
    "a.json" ≠ shelfSettings.supplementalFile ∧
    ¬∃ catalog, (Engine.loadOnce none (shelfWith (.file (.text deepArray))) shelfSettings).2 =
      .ok catalog := by
  have named : isBaselineName shelfSettings.reservedPrefix "a.json" = true := by decide +kernel
  have deep := Json.Reader.readWithin_of_brackets Platform.deepestDocument
    (List.replicate (Platform.deepestDocument + 1) ']')
  exact ⟨shelfSettings_plain, shelfWith_differAt _ _, by decide,
    not_loaded_of_nesting (shelfWith_reached _) named (shelfWith_entry _) deep⟩

end Catalog
end ThreatAnalysis
