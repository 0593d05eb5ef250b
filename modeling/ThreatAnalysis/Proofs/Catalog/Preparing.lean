import ThreatAnalysis.Proofs.Catalog.Loading
import ThreatAnalysis.Proofs.Files.Making

/-!
Loading from a rules directory that may not exist yet. It is made first, with those around it, and
nothing else in the tree changes (`load_onlyMakes`). Loading succeeds exactly if the directory can
be listed, or made and then listed (`Usable`), and nothing breaks it (`load_succeeds_iff_usable`).
-/
namespace ThreatAnalysis

namespace Catalog
open FileTree (OnlyMakes OnWay)
variable {tree made : FileTree} {directory : Path} {settings : Settings}

/-- A directory can be listed, or it can be made and then listed. -/
def Usable (tree : FileTree) (directory : Path) : Prop :=
  (∃ names, tree.list directory = .ok names) ∨
    ∃ made location names, tree.makeDirectories directory = (made, .ok location) ∧
      made.list directory = .ok names

variable [Platform]

/-- Preparing the rules directory makes nothing but it and those around it. -/
theorem prepare_onlyMakes (tree : FileTree) (directory : Path) :
    OnlyMakes (OnWay directory) tree (prepare tree directory).1 := by
  have makes := tree.makeDirectories_onlyMakes directory
  unfold prepare
  split
  · exact .refl _ tree
  · exact .refl _ tree
  · split
    · exact .refl _ tree
    · rcases outcome : tree.makeDirectories directory with ⟨made, error | location⟩
      · rwa [outcome] at makes
      · rwa [outcome] at makes

/-- What loading leaves behind is what preparing the rules directory does. -/
theorem load_fst (tree : FileTree) (settings : Settings) :
    (Catalog.load tree settings).1 = (prepare tree settings.rulesDirectory).1 := by
  unfold load loadBaseline
  rcases prepare tree settings.rulesDirectory with ⟨made, error | ⟨⟩⟩
  · rfl
  · dsimp only
    cases baselineFiles made settings.rulesDirectory settings.reservedPrefix with
    | error error => rfl
    | ok files =>
      dsimp only
      cases RuleFile.readOptional made settings.supplementalPath <;> rfl

theorem load_onlyMakes (tree : FileTree) (settings : Settings) :
    OnlyMakes (OnWay settings.rulesDirectory) tree (Catalog.load tree settings).1 := by
  rw [load_fst]
  exact prepare_onlyMakes tree settings.rulesDirectory

/-- Once the rules directory is prepared, loading goes on as if it had been there before. -/
theorem load_prepared (prepared : prepare tree settings.rulesDirectory = (made, .ok ()))
    (reached : made.isDirectory settings.rulesDirectory = .ok true) :
    Catalog.load tree settings = Catalog.load made settings := by
  have again : prepare made settings.rulesDirectory = (made, .ok ()) := by
    unfold prepare
    rw [FileTree.contains_of_isDirectory reached]
  unfold load loadBaseline
  rw [prepared, again]

/-- A directory that exists has not to be made. -/
theorem lacksTooMany_of_isDirectory (reached : tree.isDirectory directory = .ok true) :
    tree.lacksTooMany directory = false := by
  have none : tree.missing directory.anchor directory.parts.reverse = 0 := by
    cases backward : directory.parts.reverse with
    | nil => rfl
    | cons name before =>
      have whole : (⟨directory.anchor, (name :: before).reverse⟩ : Path) = directory := by
        rw [← backward, List.reverse_reverse]
      obtain ⟨located, held⟩ := FileTree.locate_of_isDirectory reached
      have stands : tree.makeDirectory directory = .error ⟨.exists, directory⟩ := by
        unfold FileTree.makeDirectory
        simp only [located, held]
      rw [FileTree.missing, whole, stands]
      rfl
  unfold FileTree.lacksTooMany
  rw [none]
  rfl

/-- The rules directory is there once it is prepared and can be listed. -/
theorem prepare_of_usable (usable : Usable tree directory)
    (few : tree.lacksTooMany directory = false) :
    ∃ made, prepare tree directory = (made, .ok ()) ∧ made.isDirectory directory = .ok true := by
  have present (reached : tree.isDirectory directory = .ok true) :
      ∃ made, prepare tree directory = (made, .ok ()) ∧
        made.isDirectory directory = .ok true := by
    refine ⟨tree, ?_, reached⟩
    unfold prepare
    rw [FileTree.contains_of_isDirectory reached]
  rcases usable with ⟨names, listed⟩ | ⟨made, location, names, succeeded, listed⟩
  · exact present (FileTree.isDirectory_of_list listed)
  · by_cases absent : tree.contains directory = .ok false
    · refine ⟨made, ?_, FileTree.isDirectory_of_list listed⟩
      unfold prepare
      rw [absent]
      simp only [few, succeeded]
      rfl
    · exact present (FileTree.isDirectory_of_makeDirectories succeeded listed absent)

/-- A rules directory that was prepared and can be listed was usable. -/
theorem usable_of_prepare (prepared : prepare tree directory = (made, .ok ()))
    (reached : made.isDirectory directory = .ok true) :
    Usable tree directory ∧ tree.lacksTooMany directory = false := by
  have listed := FileTree.list_of_isDirectory reached
  unfold prepare at prepared
  split at prepared
  · cases prepared
    exact ⟨.inl ⟨_, listed⟩, lacksTooMany_of_isDirectory reached⟩
  · cases prepared
  · split at prepared
    · cases prepared
    · rename_i few
      rcases outcome : tree.makeDirectories directory with ⟨after, error | location⟩
      · rw [outcome] at prepared
        cases prepared
      · rw [outcome] at prepared
        cases prepared
        exact ⟨.inr ⟨made, location, _, outcome, listed⟩, by simpa using few⟩

/-- Loading succeeds unless the rules directory cannot be used, or something breaks it. -/
theorem load_succeeds_iff_usable :
    (∃ catalog, (Catalog.load tree settings).2 = .ok catalog) ↔
      Usable tree settings.rulesDirectory ∧
        tree.lacksTooMany settings.rulesDirectory = false ∧
        Unbroken (Catalog.load tree settings).1 settings := by
  constructor
  · rintro ⟨catalog, loaded⟩
    rcases outcome : Catalog.load tree settings with ⟨after, result⟩
    rw [outcome] at loaded
    obtain rfl : result = .ok catalog := loaded
    obtain ⟨reached, again⟩ := load_again outcome
    have prepared : prepare tree settings.rulesDirectory = (after, .ok ()) := by
      have first := load_fst tree settings
      rw [outcome] at first
      rcases prepared : prepare tree settings.rulesDirectory with ⟨made, error | ⟨⟩⟩
      · unfold load loadBaseline at outcome
        simp only [prepared] at outcome
        cases outcome
      · rw [prepared] at first
        exact congrArg (·, _) first.symm
    obtain ⟨usable, few⟩ := usable_of_prepare prepared reached
    exact ⟨usable, few, (load_succeeds_iff reached).mp ⟨catalog, again⟩⟩
  · rintro ⟨usable, few, unbroken⟩
    obtain ⟨made, prepared, reached⟩ := prepare_of_usable usable few
    have left : (Catalog.load tree settings).1 = made := by
      rw [load_fst, prepared]
    rw [left] at unbroken
    rw [load_prepared prepared reached]
    exact (load_succeeds_iff reached).mpr unbroken

end Catalog
end ThreatAnalysis
