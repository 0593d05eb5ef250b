import Mathlib.Data.List.Sort
import Mathlib.Data.String.Basic
import ThreatAnalysis.Files.Document

/-!
What stands in a directory. Its names come in ascending order, each of them once, and a name is
among them exactly if something stands at its location (`mem_names`). What a name in it leads to
depends on that location alone (`entry_child`), however the directory itself was reached. So trees
that differ in one entry, and in what is below it, tell the same of every other name
(`AgreeBeside`).
-/
namespace ThreatAnalysis.FileTree
variable {tree first second : FileTree} {path directory : Path} {around place : Location}
  {name other : String} {names : List String}

theorem mem_insertName : other ∈ insertName name names ↔ other = name ∨ other ∈ names := by
  induction names with
  | nil => simp [insertName]
  | cons head rest ih =>
    unfold insertName
    split
    · rw [List.mem_cons]
    · split
      case isTrue _ same => simp [same]
      case isFalse => simp only [List.mem_cons, ih, or_left_comm]

theorem insertName_ascending (ascending : names.Pairwise (· < ·)) :
    (insertName name names).Pairwise (· < ·) := by
  induction names with
  | nil => exact List.pairwise_singleton _ _
  | cons head rest ih =>
    obtain ⟨below, restAscending⟩ := List.pairwise_cons.mp ascending
    unfold insertName
    split
    case isTrue less =>
      refine List.pairwise_cons.mpr ⟨fun later member => ?_, ascending⟩
      rcases List.mem_cons.mp member with rfl | member
      · exact less
      · exact lt_trans less (below later member)
    case isFalse notLess =>
      split
      case isTrue => exact ascending
      case isFalse different =>
        refine List.pairwise_cons.mpr ⟨fun later member => ?_, ih restAscending⟩
        rcases mem_insertName.mp member with rfl | member
        · exact lt_of_le_of_ne (not_lt.mp notLess) (Ne.symm different)
        · exact below later member

/-- A name that is among others is not added to them. -/
theorem insertName_of_mem (ascending : names.Pairwise (· < ·)) (listed : name ∈ names) :
    insertName name names = names := by
  refine (insertName_ascending ascending).eq_of_mem_iff ascending fun other => ?_
  rw [mem_insertName]
  exact or_iff_right_of_imp fun same => same ▸ listed

/-- A name that leads to nothing can be added to names without a change to what they lead to. -/
theorem flatMap_insertName {α : Type} {f : String → List α} (silent : f name = []) :
    (insertName name names).flatMap f = names.flatMap f := by
  induction names with
  | nil => simp [insertName, silent]
  | cons head rest ih =>
    unfold insertName
    split
    · rw [List.flatMap_cons, silent, List.nil_append]
    · split
      · rfl
      · rw [List.flatMap_cons, List.flatMap_cons, ih]

theorem names_ascending (tree : FileTree) (around : Location) :
    (tree.names around).Pairwise (· < ·) := by
  have sorted (found : List String) : (found.foldr insertName []).Pairwise (· < ·) := by
    induction found with
    | nil => exact .nil
    | cons head rest ih => exact insertName_ascending ih
  exact sorted _

theorem nameIn?_eq_some_iff {location : Location} :
    nameIn? around location = some name ↔ location = around ++ [name] := by
  unfold nameIn?
  rcases List.eq_nil_or_concat' location with rfl | ⟨front, last, rfl⟩
  · simp
  · rw [List.dropLast_concat, List.getLast?_concat, ← List.concat_eq_append,
      ← List.concat_eq_append, List.concat_inj]
    simp

theorem mem_names : name ∈ tree.names around ↔ (tree.find? (around ++ [name])).isSome := by
  have listed (found : List String) : name ∈ found.foldr insertName [] ↔ name ∈ found := by
    induction found with
    | nil => simp
    | cons head rest ih => rw [List.foldr_cons, mem_insertName, List.mem_cons, ih]
  have below : around ++ [name] ≠ [] := by simp
  unfold names find?
  rw [listed, if_neg below, Option.isSome_map, List.find?_isSome]
  simp only [List.mem_filterMap, nameIn?_eq_some_iff, Location.same_iff]
  exact exists_congr fun held => and_congr_right fun _ => eq_comm

/-- Trees that agree on everything but what stands at a place and below it. -/
def AgreeBeside (place : Location) (tree other : FileTree) : Prop :=
  ∀ location : Location, ¬place <+: location → tree.find? location = other.find? location

theorem AgreeBeside.symm (agree : AgreeBeside place first second) :
    AgreeBeside place second first :=
  fun location outside => (agree location outside).symm

theorem AgreeBeside.trans (agree : AgreeBeside place first second)
    (further : AgreeBeside place second third) : AgreeBeside place first third :=
  fun location outside => (agree location outside).trans (further location outside)

/-- Whatever is put at a place, what stands at any other one stays. -/
theorem find?_put_of_ne {location : Location} (elsewhere : location ≠ place) (entry : Entry) :
    (tree.put place entry).find? location = tree.find? location := by
  have same_of_ne {here there : Location} (different : here ≠ there) : here.same there = false := by
    rwa [Bool.eq_false_iff, ne_eq, Location.same_iff]
  unfold find? put
  rw [List.find?_cons_of_neg (by simp [same_of_ne elsewhere]), List.find?_filter]
  congr 3
  funext ⟨other, held⟩
  -- An entry at the location is not at the place, and so is not dropped.
  by_cases here : location = other
  · subst here
    simp [same_of_ne elsewhere.symm]
  · simp [same_of_ne here]

theorem find?_put_self (below : place ≠ []) (entry : Entry) :
    (tree.put place entry).find? place = some entry := by
  unfold find? put
  rw [if_neg below, List.find?_cons_of_pos (by simp [Location.same_iff]), Option.map_some]

theorem put_agreeBeside (tree : FileTree) (place : Location) (entry : Entry) :
    AgreeBeside place (tree.put place entry) tree := by
  intro location outside
  refine find?_put_of_ne ?_ entry
  rintro rfl
  exact outside List.prefix_rfl

/-- The other names in a directory are not below one of them. -/
theorem AgreeBeside.find?_name (agree : AgreeBeside (around ++ [name]) first second)
    (different : other ≠ name) :
    first.find? (around ++ [other]) = second.find? (around ++ [other]) := by
  refine agree _ fun below => different ?_
  have same := below.eq_of_length (by simp)
  simpa using same.symm

/-- Once a name is listed in any case, trees that agree beside it list the same names. -/
theorem AgreeBeside.insertName_names (agree : AgreeBeside (around ++ [name]) first second) :
    insertName name (first.names around) = insertName name (second.names around) := by
  refine (insertName_ascending (first.names_ascending around)).eq_of_mem_iff
    (insertName_ascending (second.names_ascending around)) fun other => ?_
  rw [mem_insertName, mem_insertName, mem_names, mem_names]
  by_cases same : other = name
  · simp [same]
  · rw [agree.find?_name same]

theorem AgreeBeside.filter_names (agree : AgreeBeside (around ++ [name]) first second) :
    (first.names around).filter (· ≠ name) = (second.names around).filter (· ≠ name) := by
  refine ((first.names_ascending around).filter _).eq_of_mem_iff
    ((second.names_ascending around).filter _) fun other => ?_
  simp only [List.mem_filter, decide_eq_true_eq, mem_names]
  refine and_congr_left fun different => ?_
  rw [agree.find?_name different]

/-- Names that can be followed lead where they point to, whatever the tree. -/
theorem eq_of_follow {start reached : Location} (followed : tree.follow start names = .ok reached) :
    reached = names.foldl stepTo start := by
  induction names generalizing start with
  | nil => exact (Except.ok.inj followed).symm
  | cons name rest ih =>
    unfold follow at followed
    split at followed
    · split at followed
      · cases followed
      · exact ih followed
    · cases followed
    · cases followed

theorem follow_append (tree : FileTree) (start : Location) (names later : List String) :
    tree.follow start (names ++ later) =
      (tree.follow start names).bind fun reached => tree.follow reached later := by
  induction names generalizing start with
  | nil => rfl
  | cons name rest ih =>
    rw [List.cons_append, follow, follow]
    split
    · split
      · rfl
      · exact ih _
    · rfl
    · rfl

theorem destination_append (anchor : Anchor) (names : List String) (name : String) :
    destination ⟨anchor, names ++ [name]⟩ = stepTo (destination ⟨anchor, names⟩) name := by
  simp [destination, List.foldl_append]

theorem eq_destination_of_locate {location : Location} (located : tree.locate path = .ok location) :
    location = destination path := by
  unfold locate followText at located
  split at located
  · cases located
  · exact eq_of_follow located

theorem entry_ok_iff {entry : Entry} : tree.entry path = .ok entry ↔
    ∃ place, tree.locate path = .ok place ∧ tree.find? place = some entry := by
  unfold FileTree.entry
  cases located : tree.locate path with
  | error cause => simp [bind, Except.bind]
  | ok place =>
    cases found : tree.find? place with
    | none => simp [bind, Except.bind, found]
    | some held => simp [bind, Except.bind, found]

theorem isDirectory_iff : tree.isDirectory path = .ok true ↔ tree.entry path = .ok .directory := by
  unfold isDirectory inspect
  rcases tree.entry path with cause | content | _
  · cases cause <;> simp [FileCause.isAbsence, Except.map]
  · simp [Except.map]
  · simp [Except.map]

/-- A directory is found where its path points to. -/
theorem locate_of_isDirectory (reached : tree.isDirectory path = .ok true) :
    tree.locate path = .ok (destination path) ∧
      tree.find? (destination path) = some .directory := by
  obtain ⟨place, located, held⟩ := entry_ok_iff.mp (isDirectory_iff.mp reached)
  have arrived := eq_destination_of_locate located
  subst arrived
  exact ⟨located, held⟩

theorem list_of_isDirectory (reached : tree.isDirectory path = .ok true) :
    tree.list path = .ok (tree.names (destination path)) := by
  obtain ⟨located, held⟩ := locate_of_isDirectory reached
  unfold list
  simp only [located, held]

/-- Only a directory can be listed. -/
theorem isDirectory_of_list (listed : tree.list path = .ok names) :
    tree.isDirectory path = .ok true := by
  refine isDirectory_iff.mpr ?_
  unfold list at listed
  cases located : tree.locate path with
  | error cause => simp [located] at listed
  | ok location =>
    cases found : tree.find? location with
    | none => simp [located, found] at listed
    | some held =>
      cases held with
      | file content => simp [located, found] at listed
      | directory => exact entry_ok_iff.mpr ⟨location, located, found⟩

theorem contains_of_isDirectory (reached : tree.isDirectory path = .ok true) :
    tree.contains path = .ok true := by
  unfold contains inspect
  simp [isDirectory_iff.mp reached, Except.map]

/-- It is up to a name whether it can be located in a directory. -/
theorem locate_child (reached : tree.isDirectory directory = .ok true) (name : String) :
    tree.locate (directory.child name) =
      match textFault? (directory.child name).toString with
      | some cause => .error cause
      | none =>
        if longestName < name.utf8ByteSize then .error .nameTooLong
        else .ok (stepTo (destination directory) name) := by
  obtain ⟨located, held⟩ := locate_of_isDirectory reached
  have followed : tree.follow (start directory.anchor) directory.parts =
      .ok (destination directory) := by
    unfold locate followText at located
    split at located
    · cases located
    · exact located
  unfold locate followText
  cases textFault? (directory.child name).toString with
  | some cause => rfl
  | none =>
    have step : tree.follow (start (directory.child name).anchor) (directory.child name).parts =
        tree.follow (destination directory) [name] := by
      rw [Path.child, follow_append, followed]
      rfl
    simp only [step, follow, held]

/-- A name in a directory is refused, or leads to what stands at its location. -/
theorem entry_child (reached : tree.isDirectory directory = .ok true) (name : String) :
    tree.entry (directory.child name) =
      match textFault? (directory.child name).toString with
      | some cause => .error cause
      | none =>
        if longestName < name.utf8ByteSize then .error .nameTooLong
        else
          match tree.find? (stepTo (destination directory) name) with
          | some entry => .ok entry
          | none => .error .notFound := by
  unfold entry
  rw [locate_child reached]
  cases textFault? (directory.child name).toString with
  | some cause => rfl
  | none =>
    dsimp only
    split <;> rfl

theorem stepTo_of_ne (notHere : name ≠ ".") (notAbove : name ≠ "..") (around : Location) :
    stepTo around name = around ++ [name] := by
  unfold stepTo
  rw [if_neg notHere, if_neg notAbove]

/-- No name with this suffix is that of a directory itself or of the one around it. -/
theorem stepTo_of_suffix (suffixed : Path.suffix name = ".json") (around : Location) :
    stepTo around name = around ++ [name] := by
  have notHere : name ≠ "." := by
    rintro rfl
    revert suffixed
    decide
  have notAbove : name ≠ ".." := by
    rintro rfl
    revert suffixed
    decide
  exact stepTo_of_ne notHere notAbove around

/-- Nothing stands under a name that is not listed. -/
theorem entry_of_unlisted (reached : tree.isDirectory directory = .ok true)
    (step : stepTo (destination directory) name = destination directory ++ [name])
    (unlisted : name ∉ tree.names (destination directory)) (entry : Entry) :
    tree.entry (directory.child name) ≠ .ok entry := by
  have absent : tree.find? (destination directory ++ [name]) = none := by
    rwa [mem_names, Option.not_isSome_iff_eq_none] at unlisted
  rw [entry_child reached, step, absent]
  cases textFault? (directory.child name).toString with
  | some cause => nofun
  | none =>
    dsimp only
    split <;> nofun

/-- It is up to the name, and not to what stands there, whether it stays open if it is that of a
file. -/
theorem isFile_child_error_iff (reached : first.isDirectory directory = .ok true)
    (alsoReached : second.isDirectory directory = .ok true) {error : FileError} :
    first.isFile (directory.child name) = .error error ↔
      second.isFile (directory.child name) = .error error := by
  unfold isFile inspect
  rw [entry_child reached, entry_child alsoReached]
  cases textFault? (directory.child name).toString with
  | some cause => rfl
  | none =>
    by_cases long : longestName < name.utf8ByteSize
    · simp [long]
    · cases first.find? (stepTo (destination directory) name) <;>
        cases second.find? (stepTo (destination directory) name) <;>
        simp [long, FileCause.isAbsence, Except.map]

/-- Names that do not lead upwards lead from one location to one below it. -/
theorem prefix_foldl_stepTo (downward : ".." ∉ names) (around : Location) :
    around <+: names.foldl stepTo around := by
  induction names generalizing around with
  | nil => exact List.prefix_rfl
  | cons name rest ih =>
    rw [List.mem_cons, not_or] at downward
    refine List.IsPrefix.trans ?_ (ih downward.2 (stepTo around name))
    unfold stepTo
    split
    · exact List.prefix_rfl
    · rw [if_neg (Ne.symm downward.1)]
      exact List.prefix_append around [name]

/-- Names that do not lead upwards are followed alike in trees that agree on the way. -/
theorem AgreeBeside.follow (agree : AgreeBeside place first second) (downward : ".." ∉ names)
    (outside : ¬place <+: names.foldl stepTo around) :
    first.follow around names = second.follow around names := by
  induction names generalizing around with
  | nil => rfl
  | cons name rest ih =>
    have onWay : ¬place <+: around := fun below =>
      outside (below.trans (prefix_foldl_stepTo downward around))
    unfold FileTree.follow
    rw [agree around onWay, ih (List.not_mem_of_not_mem_cons downward) outside]

/-- Whether a path that does not lead upwards is one of a directory is not up to what stands
elsewhere. -/
theorem AgreeBeside.isDirectory (agree : AgreeBeside place first second)
    (downward : ".." ∉ path.parts) (outside : ¬place <+: destination path) :
    first.isDirectory path = second.isDirectory path := by
  have located : first.locate path = second.locate path := by
    unfold locate followText
    rw [agree.follow downward outside]
  have same : first.entry path = second.entry path := by
    unfold entry
    rw [located]
    cases found : second.locate path with
    | error cause => rfl
    | ok location =>
      obtain rfl := eq_destination_of_locate found
      simp only [bind, Except.bind, agree _ outside]
  unfold FileTree.isDirectory inspect
  rw [same]

/-- Trees in which the same stands at the location of a name tell the same of it. -/
theorem entry_child_congr (reached : first.isDirectory directory = .ok true)
    (alsoReached : second.isDirectory directory = .ok true)
    (same : first.find? (stepTo (destination directory) name) =
      second.find? (stepTo (destination directory) name)) :
    first.entry (directory.child name) = second.entry (directory.child name) := by
  rw [entry_child reached, entry_child alsoReached, same]

theorem isFile_congr (same : first.entry path = second.entry path) :
    first.isFile path = second.isFile path := by
  unfold isFile inspect
  rw [same]

variable [Platform]

theorem document_congr (same : first.entry path = second.entry path) :
    first.document path = second.document path := by
  unfold document read
  rw [same]

/-- Only a file can hold a document that is nested too deep. -/
theorem entry_of_nesting (deep : tree.document path = .error .nesting) :
    ∃ content, tree.entry path = .ok (.file content) := by
  unfold document read at deep
  rcases held : tree.entry path with cause | content | _
  · simp [held] at deep
  · exact ⟨content, rfl⟩
  · simp [held] at deep

/-- Only a file can hold a document. -/
theorem entry_of_document {document : Json} (held : tree.document path = .ok document) :
    ∃ content, tree.entry path = .ok (.file content) := by
  unfold FileTree.document read at held
  rcases found : tree.entry path with cause | content | _
  · simp [found] at held
  · exact ⟨content, rfl⟩
  · simp [found] at held

theorem isFile_of_nesting (deep : tree.document path = .error .nesting) :
    tree.isFile path = .ok true := by
  obtain ⟨content, held⟩ := entry_of_nesting deep
  unfold isFile inspect
  simp [held, Except.map]

end ThreatAnalysis.FileTree
