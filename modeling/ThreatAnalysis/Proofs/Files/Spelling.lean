import ThreatAnalysis.Files.Path

/-!
Spellings of a path. Reading a path drops what makes no difference, so that a path that was read and
is written out reads as itself (`ofString_toString_ofString`). What it drops are slashes and dots
(`mem_toString_ofString`). The suffix of a name is what stands behind something and starts with the
last dot (`suffix_eq_json_iff`).
-/
namespace ThreatAnalysis

namespace Text
variable {α : Type} [DecidableEq α]

theorem split_cons (mark c : α) (rest : List α) :
    split mark (c :: rest) =
      if c = mark then [] :: split mark rest else (split mark rest).modifyHead (c :: ·) := by
  unfold split splitWhere
  rw [splitFirst]
  by_cases same : c = mark <;> simp [same]

theorem split_eq_splitOn (mark : α) (list : List α) : split mark list = list.splitOn mark := by
  induction list with
  | nil => rfl
  | cons c rest ih =>
    rw [split_cons, ih, List.splitOn, List.splitOn, List.splitOnP_cons_eq_if_modifyHead]
    by_cases same : c = mark <;> simp [same]

/-- No part holds the mark. -/
theorem notMem_of_mem_split {mark : α} {list part : List α} (member : part ∈ split mark list) :
    mark ∉ part := by
  induction list generalizing part with
  | nil =>
    obtain rfl : part = [] := by simpa [split, splitWhere, splitFirst] using member
    exact List.not_mem_nil
  | cons c rest ih =>
    rw [split_cons] at member
    split at member
    · rcases List.mem_cons.mp member with rfl | member
      · exact List.not_mem_nil
      · exact ih member
    · rename_i different
      cases parts : split mark rest with
      | nil => simp [parts] at member
      | cons first later =>
        rw [parts, List.modifyHead_cons, List.mem_cons] at member
        rw [parts] at ih
        rcases member with rfl | member
        · rw [List.mem_cons, not_or]
          exact ⟨Ne.symm different, ih List.mem_cons_self⟩
        · exact ih (List.mem_cons_of_mem first member)

/-- What is not the mark stands in one of the parts. -/
theorem exists_mem_split {mark c : α} {list : List α} (member : c ∈ list) (different : c ≠ mark) :
    ∃ part ∈ split mark list, c ∈ part := by
  induction list with
  | nil => cases member
  | cons first rest ih =>
    rw [split_cons]
    split
    case isTrue same =>
      have later : c ∈ rest := (List.mem_cons.mp member).resolve_left (same ▸ different)
      obtain ⟨part, listed, within⟩ := ih later
      exact ⟨part, List.mem_cons_of_mem _ listed, within⟩
    case isFalse =>
      cases parts : split mark rest with
      | nil => exact absurd parts (by rw [split_eq_splitOn]; exact List.splitOn_ne_nil _ _)
      | cons front others =>
        rw [parts] at ih
        rw [List.modifyHead_cons]
        rcases List.mem_cons.mp member with rfl | later
        · exact ⟨_, List.mem_cons_self, List.mem_cons_self⟩
        · obtain ⟨part, listed, within⟩ := ih later
          rcases List.mem_cons.mp listed with rfl | listed
          · exact ⟨_, List.mem_cons_self, List.mem_cons_of_mem first within⟩
          · exact ⟨part, List.mem_cons_of_mem _ listed, within⟩

end Text

namespace Path
variable {path : Path} {name : String}

/-- A name as it stands in a path that was read. -/
structure KeptName (name : String) : Prop where
  notEmpty : name ≠ ""
  notHere : name ≠ "."
  noSlash : '/' ∉ name.toList

theorem keptName_of_ofString {text : String} (member : name ∈ (ofString text).parts) :
    KeptName name := by
  obtain ⟨stepped, different⟩ : name ∈ steps text ∧ name ≠ "." := by
    simpa [ofString] using member
  obtain ⟨segment, listed, rfl⟩ := List.mem_map.mp stepped
  cases segment with
  | nil => exact absurd rfl different
  | cons c rest =>
    have noSlash := Text.notMem_of_mem_split listed
    refine ⟨?_, different, ?_⟩
    · simp [String.ext_iff]
    · simpa using noSlash

theorem ofString_anchor (text : String) : (ofString text).anchor ≠ .bundled := by
  unfold ofString anchorOf
  dsimp only
  split <;> nofun

/-- The names of a path are its steps again. -/
theorem steps_joined {names : List String} (kept : ∀ name ∈ names, KeptName name)
    (given : names ≠ []) : steps ("/".intercalate names) = names := by
  have marked : ("/".intercalate names).toList = ['/'].intercalate (names.map String.toList) := by
    simp [String.toList_intercalate]
  have parts : Text.split '/' ("/".intercalate names).toList = names.map String.toList := by
    rw [Text.split_eq_splitOn, marked]
    refine List.splitOn_intercalate '/' ?_ (by simpa using given)
    intro part member
    obtain ⟨name, listed, rfl⟩ := List.mem_map.mp member
    exact (kept name listed).noSlash
  unfold steps
  rw [parts, List.map_map]
  refine (List.map_congr_left fun name listed => ?_).trans (List.map_id names)
  have notEmpty := (kept name listed).notEmpty
  simp [notEmpty]

theorem steps_slash (text : String) : steps ("/" ++ text) = "." :: steps text := by
  unfold steps
  rw [String.toList_append, show "/".toList = ['/'] from rfl, List.singleton_append,
    Text.split_cons, if_pos rfl]
  rfl

/-- Names that are joined start with a character of the first one. -/
theorem joined_front {names : List String} (kept : ∀ name ∈ names, KeptName name)
    (given : names ≠ []) :
    ∃ c rest, ("/".intercalate names).toList = c :: rest ∧ c ≠ '/' := by
  obtain ⟨name, later, rfl⟩ := List.exists_cons_of_ne_nil given
  have first := kept name List.mem_cons_self
  cases characters : name.toList with
  | nil => exact absurd (String.ext_iff.mpr characters) first.notEmpty
  | cons c rest =>
    have different : c ≠ '/' := by
      rintro rfl
      exact first.noSlash (characters ▸ List.mem_cons_self)
    cases later with
    | nil => exact ⟨c, rest, by simp [characters], different⟩
    | cons next later =>
      refine ⟨c, rest ++ '/' :: ("/".intercalate (next :: later)).toList, ?_, different⟩
      simp [String.toList_intercalate, characters]

section Slashes
variable {c : Char} (different : c ≠ '/') (rest : List Char)
include different

theorem anchorOf_here : anchorOf (c :: rest) = .here := by
  unfold anchorOf
  split <;> simp_all

theorem anchorOf_root : anchorOf ('/' :: c :: rest) = .root := by
  unfold anchorOf
  split <;> simp_all

theorem anchorOf_doubleRoot : anchorOf ('/' :: '/' :: c :: rest) = .doubleRoot := by
  unfold anchorOf
  split
  case h_1 third whole =>
    injection whole with _ whole
    injection whole with _ whole
    exact absurd (List.cons.inj whole).1 different
  case h_2 => rfl
  case h_3 single whole => exact absurd (List.cons.inj whole).2.symm (single _)
  case h_4 other => exact absurd rfl (other _)

end Slashes

theorem toString_here {names : List String} (given : names ≠ []) :
    toString ⟨.here, names⟩ = "/".intercalate names := by
  cases names with
  | nil => exact absurd rfl given
  | cons name later => rfl

theorem toString_root (names : List String) :
    toString ⟨.root, names⟩ = "/" ++ "/".intercalate names := rfl

theorem toString_doubleRoot (names : List String) :
    toString ⟨.doubleRoot, names⟩ = "/" ++ ("/" ++ "/".intercalate names) := by
  rw [← String.append_assoc]
  rfl

/-- A path that was read and is written out reads as itself. -/
theorem ofString_toString_ofString (text : String) :
    ofString (ofString text).toString = ofString text := by
  have kept : ∀ name ∈ (ofString text).parts, KeptName name := fun name => keptName_of_ofString
  have anchored := ofString_anchor text
  generalize ofString text = path at kept anchored
  obtain ⟨anchor, names⟩ := path
  dsimp only at kept anchored
  have filtered : names.filter (· ≠ ".") = names := by
    rw [List.filter_eq_self]
    intro name listed
    simpa using (kept name listed).notHere
  by_cases given : names = []
  · subst given
    cases anchor with
    | bundled => exact absurd rfl anchored
    | _ => rfl
  · obtain ⟨c, rest, front, different⟩ := joined_front kept given
    have joined := steps_joined kept given
    cases anchor with
    | here =>
      rw [toString_here given, ofString, joined, front, anchorOf_here different, filtered]
    | root =>
      rw [toString_root, ofString, steps_slash, joined, String.toList_append, front,
        List.filter_cons_of_neg (by simp), filtered]
      exact congrArg (Path.mk · names) (anchorOf_root different rest)
    | doubleRoot =>
      rw [toString_doubleRoot, ofString, steps_slash, steps_slash, joined, String.toList_append,
        String.toList_append, front, List.filter_cons_of_neg (by simp),
        List.filter_cons_of_neg (by simp), filtered]
      exact congrArg (Path.mk · names) (anchorOf_doubleRoot different rest)
    | bundled => exact absurd rfl anchored

theorem mem_intercalate_slash {names : List String} {c : Char} (listed : name ∈ names)
    (member : c ∈ name.toList) : c ∈ ("/".intercalate names).toList := by
  rw [String.toList_intercalate]
  induction names with
  | nil => cases listed
  | cons first rest ih =>
    cases rest with
    | nil =>
      obtain rfl := List.mem_singleton.mp listed
      simpa using member
    | cons next later =>
      rw [List.map_cons, List.map_cons, List.intercalate_cons_cons, List.mem_append]
      rcases List.mem_cons.mp listed with rfl | listed
      · exact .inl (List.mem_append_left _ member)
      · exact .inr (ih listed)

/-- Reading a path drops no characters but slashes and dots. -/
theorem mem_toString_ofString {text : String} {c : Char} (notSlash : c ≠ '/') (notDot : c ≠ '.')
    (member : c ∈ text.toList) : c ∈ (ofString text).toString.toList := by
  obtain ⟨segment, listed, within⟩ := Text.exists_mem_split member notSlash
  have given : segment ≠ [] := List.ne_nil_of_mem within
  have different : String.ofList segment ≠ "." := by
    intro same
    rw [← String.toList_ofList (l := segment), same] at within
    exact notDot (List.mem_singleton.mp within)
  have kept : String.ofList segment ∈ (ofString text).parts := by
    have stepped : String.ofList segment ∈ steps text :=
      List.mem_map.mpr ⟨segment, listed, by simp [given]⟩
    exact List.mem_filter.mpr ⟨stepped, by simpa using different⟩
  have joined := mem_intercalate_slash kept (c := c) (by simpa using within)
  have anchored := ofString_anchor text
  generalize ofString text = path at kept joined anchored
  obtain ⟨anchor, names⟩ := path
  cases anchor with
  | here => rwa [toString_here (List.ne_nil_of_mem kept)]
  | root =>
    rw [toString_root, String.toList_append]
    exact List.mem_append_right _ joined
  | doubleRoot =>
    rw [toString_doubleRoot, String.toList_append, String.toList_append]
    exact List.mem_append_right _ (List.mem_append_right _ joined)
  | bundled => exact absurd rfl anchored

/-! Suffixes. -/

section Suffix
variable {spelled front suffixed : List Char}

/-- A suffix is cut from a name, and something stands in front of it. -/
theorem cut?_eq_some (cut : cut? spelled = some (front, suffixed)) :
    spelled = front ++ suffixed ∧ front ≠ [] := by
  have whole :=
    List.takeWhile_append_dropWhile (p := fun c => decide (c ≠ '.')) (l := spelled.reverse)
  unfold cut? at cut
  generalize spelled.reverse.takeWhile (fun c => decide (c ≠ '.')) = behind at cut whole
  generalize spelled.reverse.dropWhile (fun c => decide (c ≠ '.')) = before at cut whole
  rcases before with _ | ⟨dot, before⟩
  · cases cut
  · simp only [Option.ite_none_left_eq_some, Option.some.injEq, Prod.mk.injEq, Bool.or_eq_true,
      not_or, List.isEmpty_iff] at cut
    obtain ⟨⟨given, -⟩, rfl, rfl⟩ := cut
    have turned := congrArg List.reverse whole
    rw [List.reverse_reverse] at turned
    exact ⟨by simp [← turned], by simpa using given⟩

theorem cut?_json (given : front ≠ []) :
    cut? (front ++ ".json".toList) = some (front, ".json".toList) := by
  have turned : (front ++ ".json".toList).reverse = "nosj".toList ++ '.' :: front.reverse := by
    rw [List.reverse_append]
    rfl
  have behind : ∀ c ∈ "nosj".toList, decide (c ≠ '.') = true := by simp
  unfold cut?
  rw [turned, List.takeWhile_append_of_pos behind, List.dropWhile_append_of_pos behind]
  simp [given]

/-- A name of something and the suffix of documents. -/
def IsDocumentName (name : String) : Prop :=
  ∃ stem, stem ≠ "" ∧ name = stem ++ ".json"

theorem suffix_eq_json_iff {name : String} : suffix name = ".json" ↔ IsDocumentName name := by
  constructor
  · intro suffixed
    unfold suffix at suffixed
    cases cut : cut? name.toList with
    | none => simp [cut] at suffixed
    | some parts =>
      obtain ⟨front, behind⟩ := parts
      obtain ⟨whole, given⟩ := cut?_eq_some cut
      have same : behind = ".json".toList := by
        simp only [cut] at suffixed
        rw [← suffixed, String.toList_ofList]
      have spelled : name.toList = (String.ofList front ++ ".json").toList := by
        simp [whole, same]
      exact ⟨String.ofList front, by simpa using given, String.toList_inj.mp spelled⟩
  · rintro ⟨stem, given, rfl⟩
    have nonempty : stem.toList ≠ [] := by simpa using given
    simp only [suffix, String.toList_append, cut?_json nonempty]
    rfl

theorem stem_json {stem : String} (given : stem ≠ "") : Path.stem (stem ++ ".json") = stem := by
  have nonempty : stem.toList ≠ [] := by simpa using given
  simp only [Path.stem, String.toList_append, cut?_json nonempty, String.ofList_toList]

end Suffix

end Path
end ThreatAnalysis
