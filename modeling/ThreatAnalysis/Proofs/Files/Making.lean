import Mathlib.Data.List.Infix
import ThreatAnalysis.Proofs.Files.Directory

/-!
What making directories and writing a file may change. A directory is only made where nothing
stood, at the location of a path or of one around it (`makeDirectories_onlyMakes`), and whatever can
be followed before can be followed afterwards (`OnlyMakes.follow`). A file that was written holds
what was written (`read_written`). A place for a file that is not on the way is left alone until the
file is written (`Placed.entry_made`, `Placed.written`).
-/
namespace ThreatAnalysis.FileTree
variable {tree made after : FileTree} {path directory : Path} {location place : Location}
  {names : List String} {entry : Entry}

/-- Directories are made at some of the places, where nothing stood; all else stays. -/
def OnlyMakes (places : Location → Prop) (tree made : FileTree) : Prop :=
  ∀ location, made.find? location = tree.find? location ∨
    tree.find? location = none ∧ made.find? location = some .directory ∧ places location

namespace OnlyMakes
variable {places others : Location → Prop}

theorem refl (places : Location → Prop) (tree : FileTree) : OnlyMakes places tree tree :=
  fun _ => .inl rfl

theorem mono (makes : OnlyMakes places tree made) (wider : ∀ place, places place → others place) :
    OnlyMakes others tree made := by
  intro location
  rcases makes location with same | ⟨free, new, allowed⟩
  · exact .inl same
  · exact .inr ⟨free, new, wider location allowed⟩

theorem trans (first : OnlyMakes places tree made) (second : OnlyMakes places made after) :
    OnlyMakes places tree after := by
  intro location
  rcases second location with same | ⟨free, new, allowed⟩
  · rw [same]
    exact first location
  · rcases first location with same | ⟨-, taken, -⟩
    · exact .inr ⟨same ▸ free, new, allowed⟩
    · rw [taken] at free
      cases free

/-- A directory that is put where nothing stands. -/
theorem put (free : tree.find? place = none) (allowed : places place) :
    OnlyMakes places tree (tree.put place .directory) := by
  have below : place ≠ [] := by
    rintro rfl
    simp [find?] at free
  intro location
  by_cases here : location = place
  · subst here
    exact .inr ⟨free, find?_put_self below _, allowed⟩
  · exact .inl (find?_put_of_ne here _)

theorem find?_of_some (makes : OnlyMakes places tree made)
    (stands : tree.find? location = some entry) : made.find? location = some entry := by
  rcases makes location with same | ⟨free, -, -⟩
  · rw [same, stands]
  · rw [stands] at free
    cases free

theorem find?_of_not (makes : OnlyMakes places tree made) (elsewhere : ¬ places location) :
    made.find? location = tree.find? location := by
  rcases makes location with same | ⟨-, -, allowed⟩
  · exact same
  · exact absurd allowed elsewhere

theorem follow (makes : OnlyMakes places tree made) {start reached : Location}
    (followed : tree.follow start names = .ok reached) :
    made.follow start names = .ok reached := by
  induction names generalizing start with
  | nil => exact followed
  | cons name rest ih =>
    unfold FileTree.follow at followed ⊢
    cases stands : tree.find? start with
    | none =>
      rw [stands] at followed
      cases followed
    | some entry =>
      rw [stands] at followed
      rw [makes.find?_of_some stands]
      cases entry with
      | file content => cases followed
      | directory =>
        dsimp only at followed ⊢
        split at followed
        case isTrue => cases followed
        case isFalse short =>
          rw [if_neg short]
          exact ih followed

theorem locate (makes : OnlyMakes places tree made) (located : tree.locate path = .ok location) :
    made.locate path = .ok location := by
  unfold FileTree.locate followText at located ⊢
  split at located
  · cases located
  · exact makes.follow located

theorem isDirectory (makes : OnlyMakes places tree made)
    (reached : tree.isDirectory path = .ok true) : made.isDirectory path = .ok true := by
  obtain ⟨place, located, held⟩ := entry_ok_iff.mp (isDirectory_iff.mp reached)
  have stays := makes.find?_of_some held
  exact isDirectory_iff.mpr (entry_ok_iff.mpr ⟨place, makes.locate located, stays⟩)

end OnlyMakes

/-- The location of a path, or of one around it. -/
def OnWay (path : Path) (location : Location) : Prop :=
  ∃ front, front <+: path.parts ∧ location = destination ⟨path.anchor, front⟩

theorem onWay_iff_mem_inits {location : Location} : OnWay path location ↔
    location ∈ path.parts.inits.map fun front => destination ⟨path.anchor, front⟩ := by
  unfold OnWay
  simp only [List.mem_map, List.mem_inits, eq_comm]

instance (path : Path) (location : Location) : Decidable (OnWay path location) :=
  decidable_of_iff _ onWay_iff_mem_inits.symm

theorem onWay_destination (path : Path) : OnWay path (destination path) :=
  ⟨path.parts, List.prefix_rfl, rfl⟩

theorem OnWay.of_prefix {anchor : Anchor} {front : List String} (within : front <+: names)
    (onWay : OnWay ⟨anchor, front⟩ location) : OnWay ⟨anchor, names⟩ location := by
  obtain ⟨shorter, begins, rfl⟩ := onWay
  exact ⟨shorter, begins.trans within, rfl⟩

theorem makeDirectory_ok (succeeded : tree.makeDirectory path = .ok made) :
    OnlyMakes (OnWay path) tree made := by
  unfold makeDirectory at succeeded
  cases located : tree.locate path with
  | error cause =>
    rw [located] at succeeded
    cases succeeded
  | ok location =>
    rw [located] at succeeded
    dsimp only at succeeded
    cases free : tree.find? location with
    | some entry =>
      rw [free] at succeeded
      cases succeeded
    | none =>
      rw [free] at succeeded
      cases succeeded
      have arrived := eq_destination_of_locate located
      exact .put free (arrived ▸ onWay_destination path)

theorem makeIn_ok {name : String} (succeeded : tree.makeIn place name = .ok made)
    {places : Location → Prop} (allowed : places (stepTo place name)) :
    OnlyMakes places tree made := by
  unfold makeIn at succeeded
  split at succeeded
  · cases succeeded
  · cases free : tree.find? (stepTo place name) with
    | some entry =>
      rw [free] at succeeded
      cases succeeded
    | none =>
      rw [free] at succeeded
      cases succeeded
      exact .put free allowed

theorem unlessDirectory_fst (tree : FileTree) (path : Path) (error : FileError) :
    (tree.unlessDirectory path error).1 = tree := by
  unfold unlessDirectory
  split <;> rfl

theorem unlessDirectory_ok {error : FileError}
    (succeeded : (tree.unlessDirectory path error).2 = .ok location) :
    location = destination path := by
  unfold unlessDirectory at succeeded
  split at succeeded <;> cases succeeded
  rfl

/-- Making a directory, and those around it that are missing, makes nothing but those, also if it
fails on the way; if it succeeds, it gives the location of the path. -/
theorem makeReversed_spec (tree : FileTree) (anchor : Anchor) (names : List String) :
    OnlyMakes (OnWay ⟨anchor, names.reverse⟩) tree (tree.makeReversed anchor names).1 ∧
      ∀ location, (tree.makeReversed anchor names).2 = .ok location →
        location = destination ⟨anchor, names.reverse⟩ := by
  induction names generalizing tree with
  | nil =>
    rw [makeReversed, unlessDirectory_fst, List.reverse_nil]
    exact ⟨.refl _ tree, fun location succeeded => unlessDirectory_ok succeeded⟩
  | cons name before ih =>
    have around : before.reverse <+: (name :: before).reverse := by simp
    have inside : destination ⟨anchor, (name :: before).reverse⟩ =
        stepTo (destination ⟨anchor, before.reverse⟩) name := by
      rw [List.reverse_cons, destination_append]
    have stays (tree : FileTree) (error : FileError) :=
      unlessDirectory_fst tree ⟨anchor, (name :: before).reverse⟩ error
    unfold makeReversed
    dsimp only
    cases tried : tree.makeDirectory ⟨anchor, (name :: before).reverse⟩ with
    | ok made =>
      refine ⟨makeDirectory_ok tried, ?_⟩
      rintro location ⟨⟩
      rfl
    | error error =>
      dsimp only
      by_cases missing : error.cause = .notFound
      · rw [if_pos missing]
        obtain ⟨makes, arrives⟩ := ih tree
        have first := makes.mono fun _ onWay => onWay.of_prefix around
        rcases outcome : tree.makeReversed anchor before with ⟨made, failed | reached⟩
        · rw [outcome] at first
          exact ⟨first, nofun⟩
        · rw [outcome] at first arrives
          have there := arrives reached rfl
          dsimp only
          cases added : made.makeIn reached name with
          | ok after =>
            have onWay := onWay_destination ⟨anchor, (name :: before).reverse⟩
            rw [inside, ← there] at onWay
            refine ⟨first.trans (makeIn_ok added onWay), ?_⟩
            rintro location ⟨⟩
            rw [there, ← inside]
          | error cause =>
            dsimp only
            rw [stays]
            exact ⟨first, fun location succeeded => unlessDirectory_ok succeeded⟩
      · rw [if_neg missing, stays]
        exact ⟨.refl _ tree, fun location succeeded => unlessDirectory_ok succeeded⟩

theorem makeDirectories_onlyMakes (tree : FileTree) (path : Path) :
    OnlyMakes (OnWay path) tree (tree.makeDirectories path).1 := by
  have spec := (tree.makeReversed_spec path.anchor path.parts.reverse).1
  rwa [List.reverse_reverse] at spec

/-- No directory is made at a path of which it stays open whether it leads to an entry. -/
theorem makeDirectories_unclear (unlocated : tree.locate path = .error cause)
    (unclear : cause.isAbsence = false) : (tree.makeDirectories path).2 = .error ⟨cause, path⟩ := by
  have asked : tree.isDirectory path = .error ⟨cause, path⟩ := by
    have led : tree.entry path = .error cause := by
      unfold entry
      rw [unlocated]
      rfl
    unfold isDirectory inspect
    rw [led]
    simp [unclear, Except.map]
  have open_ (error : FileError) : (tree.unlessDirectory path error).2 = .error ⟨cause, path⟩ := by
    unfold unlessDirectory
    rw [asked]
  have found : cause ≠ .notFound := by
    rintro rfl
    cases unclear
  unfold makeDirectories
  cases backward : path.parts.reverse with
  | nil =>
    have whole : (⟨path.anchor, []⟩ : Path) = path := by
      rw [← List.reverse_eq_nil_iff.mp backward]
    rw [makeReversed, whole]
    exact open_ _
  | cons name before =>
    have whole : (⟨path.anchor, (name :: before).reverse⟩ : Path) = path := by
      rw [← backward, List.reverse_reverse]
    have failed : tree.makeDirectory path = .error ⟨cause, path⟩ := by
      unfold makeDirectory
      rw [unlocated]
    unfold makeReversed
    dsimp only
    rw [whole, failed]
    dsimp only
    rw [if_neg found]
    exact open_ _

/-- Where something stands already, only a directory can be made and then listed. -/
theorem isDirectory_of_makeDirectories
    (succeeded : tree.makeDirectories path = (made, .ok location))
    (listed : made.list path = .ok names) (contained : tree.contains path ≠ .ok false) :
    tree.isDirectory path = .ok true := by
  have makes := tree.makeDirectories_onlyMakes path
  rw [succeeded] at makes
  rcases led : tree.entry path with cause | content | _
  · cases unclear : cause.isAbsence with
    | true =>
      refine absurd ?_ contained
      unfold contains inspect
      simp [led, unclear, Except.map]
    | false =>
      have unlocated : tree.locate path = .error cause := by
        unfold entry at led
        cases located : tree.locate path with
        | error other => simpa [located, bind, Except.bind] using led
        | ok place =>
          simp only [located, bind, Except.bind] at led
          split at led <;> cases led
          cases unclear
      have failed := makeDirectories_unclear unlocated unclear
      rw [succeeded] at failed
      cases failed
  · obtain ⟨place, located, held⟩ := entry_ok_iff.mp led
    unfold list at listed
    rw [makes.locate located] at listed
    simp only [makes.find?_of_some held] at listed
    cases listed
  · exact isDirectory_iff.mpr led

/-- Where nothing but a directory is followed, a file can be put in the way of nothing. -/
theorem follow_put (free : tree.find? place ≠ some .directory) {start reached : Location}
    (followed : tree.follow start names = .ok reached) :
    (tree.put place entry).follow start names = .ok reached := by
  induction names generalizing start with
  | nil => exact followed
  | cons name rest ih =>
    unfold follow at followed ⊢
    cases stands : tree.find? start with
    | none =>
      rw [stands] at followed
      cases followed
    | some other =>
      have elsewhere : start ≠ place ∨ other ≠ .directory := by
        by_cases here : start = place
        · subst here
          exact .inr fun same => free (same ▸ stands)
        · exact .inl here
      rw [stands] at followed
      cases other with
      | file content => cases followed
      | directory =>
        have apart : start ≠ place := elsewhere.resolve_right fun different => different rfl
        rw [find?_put_of_ne apart, stands]
        dsimp only at followed ⊢
        split at followed
        case isTrue => cases followed
        case isFalse short =>
          rw [if_neg short]
          exact ih followed

/-- A path at which there is no directory can be written to, once it can be located. -/
theorem write_ok (located : tree.locate path = .ok location)
    (free : tree.find? location ≠ some .directory) (content : Content) :
    tree.write path content = .ok (tree.put location (.file content)) := by
  unfold write
  rw [located]
  dsimp only
  split
  · contradiction
  · rfl

theorem write_error (unlocated : tree.locate path = .error cause) (content : Content) :
    tree.write path content = .error ⟨cause, path⟩ := by
  unfold write
  rw [unlocated]

/-- A file holds what was written to it. -/
theorem read_written (located : tree.locate path = .ok location)
    (free : tree.find? location ≠ some .directory) (content : Content) :
    (tree.put location (.file content)).read path = .ok content := by
  have below : location ≠ [] := by
    rintro rfl
    exact free (by simp [find?])
  have again : (tree.put location (.file content)).locate path = .ok location := by
    unfold locate followText at located ⊢
    split at located
    · cases located
    · exact follow_put free located
  have held := entry_ok_iff.mpr ⟨location, again, find?_put_self below (.file content)⟩
  unfold read
  rw [held]

/-! Places for a file. -/

variable {rules : Path} {name : String}

/-- A name is that of a place for a report: no directory stands there, but around it, and the place
is not on the way to the rules. -/
structure Placed (tree : FileTree) (rules : Path) (name : String) : Prop where
  asWritten : tree.named name ≠ .ok .directory
  free : tree.entry (.ofString name) ≠ .ok .directory
  around : ∃ directory last, Path.ofString name = directory.child last ∧
    tree.isDirectory directory = .ok true
  apart : ¬OnWay rules (destination (.ofString name))

namespace Placed

/-- What is made on the way to the rules leaves the place alone. -/
theorem entry_made (placed : Placed tree rules name) (makes : OnlyMakes (OnWay rules) tree made) :
    made.entry (.ofString name) = tree.entry (.ofString name) := by
  obtain ⟨directory, last, spelled, reached⟩ := placed.around
  have apart := placed.apart
  rw [spelled] at apart ⊢
  refine entry_child_congr (makes.isDirectory reached) reached ?_
  have inside : destination (directory.child last) = stepTo (destination directory) last :=
    destination_append directory.anchor directory.parts last
  rw [← inside]
  exact makes.find?_of_not apart

theorem locate_made (placed : Placed tree rules name) (makes : OnlyMakes (OnWay rules) tree made) :
    made.locate (.ofString name) = tree.locate (.ofString name) := by
  obtain ⟨directory, last, spelled, reached⟩ := placed.around
  rw [spelled, locate_child (makes.isDirectory reached), locate_child reached]

/-- A file that was written at the place holds what was written. -/
theorem written (placed : Placed tree rules name) (makes : OnlyMakes (OnWay rules) tree made)
    {location : Location} (located : tree.locate (.ofString name) = .ok location)
    (content : Content) : ∃ after, made.write (.ofString name) content = .ok after ∧
      after.read (.ofString name) = .ok content := by
  have there : made.locate (.ofString name) = .ok location := by
    rw [placed.locate_made makes, located]
  have free : made.find? location ≠ some .directory := by
    intro taken
    refine placed.free ?_
    rw [← placed.entry_made makes]
    exact entry_ok_iff.mpr ⟨location, there, taken⟩
  exact ⟨_, write_ok there free content, read_written there free content⟩

theorem not_written (placed : Placed tree rules name) (makes : OnlyMakes (OnWay rules) tree made)
    {cause : FileCause} (unlocated : tree.locate (.ofString name) = .error cause)
    (content : Content) : made.write (.ofString name) content = .error ⟨cause, .ofString name⟩ := by
  refine write_error ?_ content
  rw [placed.locate_made makes, unlocated]

end Placed
end ThreatAnalysis.FileTree
