import ThreatAnalysis.Diagram.Template
import ThreatAnalysis.Proofs.Catalog.Entries
import ThreatAnalysis.Proofs.Files.Spelling
import ThreatAnalysis.Proofs.Record.Fields

/-!
The templates of a directory. Each name in it is judged by itself: it gives a template exactly if it
has the suffix of a document and what it leads to is an object in which both sections say something
(`templateAt?_eq_some_iff`). So a listing is what the names of the directory give, in their order
(`list_eq`), and one entry has no say in the templates of the others (`list_beside`). What an entry
can do is to break the listing as a whole, by a text that is nested too deep (`list_succeeds_iff`).
-/
namespace ThreatAnalysis

namespace Template
open FileTree (destination AgreeBeside)
variable {tree other : FileTree} {directory : Path} {name changed : String} {template : Template}
  {templates : List Template}

/-- A value that says nothing: null, the empty text, or something equal to zero. -/
inductive SaysNothing : Json → Prop where
  | null : SaysNothing .null
  | empty : SaysNothing (.string "")
  | false : SaysNothing (.bool false)
  | zero : SaysNothing (.int 0)
  | zeroDouble (negative : Bool) (exponent : Int) :
      SaysNothing (.double (.finite negative 0 exponent))

/-- A document has a section under a key, which says something. -/
def Says (document : Fields) (key : String) : Prop :=
  ∃ value, document.get? key = some value ∧ ¬SaysNothing value

/-- A document is that of a template but for the two keys with which templates are tagged. -/
structure Tagged (template : Template) (written : Fields) : Prop where
  id : ∃ stem, template.fileName = stem ++ ".json" ∧ written.get? "id" = some (.string stem)
  fileName : written.get? "fileName" = some (.string template.fileName)
  others : ∀ key, key ≠ "id" → key ≠ "fileName" → written.get? key = template.document.get? key
  /-- Keys stay in their order, and a tag that is new comes behind them. -/
  keys : written.map Prod.fst = template.document.map Prod.fst ++
    ["id", "fileName"].filter (· ∉ template.document.map Prod.fst)

theorem isSection_iff {value : Json} : isSection value = true ↔ ¬SaysNothing value := by
  have silent : isSection value = false ↔ SaysNothing value := by
    constructor
    · intro unsaid
      unfold isSection at unsaid
      split at unsaid
      · exact .null
      · exact unsaid ▸ .false
      case h_3 value =>
        obtain rfl : value = 0 := by simpa using unsaid
        exact .zero
      case h_4 value =>
        have isZero : value.isZero = true := by simpa using unsaid
        unfold Double.isZero at isZero
        split at isZero
        · exact .zeroDouble _ _
        · cases isZero
      case h_5 value =>
        obtain rfl : value = "" := by simpa using unsaid
        exact .empty
      · cases unsaid
    · rintro (_ | _)
      all_goals rfl
  rw [← silent, Bool.not_eq_false]

theorem hasSection_iff {document : Fields} {key : String} :
    hasSection document key = true ↔ Says document key := by
  simp only [hasSection, Option.any_eq_true, isSection_iff, Says]

theorem ofDocument?_eq_some_iff {document : Json} : ofDocument? name document = some template ↔
    template.fileName = name ∧ document = .object template.document ∧
      Says template.document "summary" ∧ Says template.document "detail" := by
  obtain ⟨fileName, fields⟩ := template
  unfold ofDocument?
  split
  case h_1 held =>
    simp only [← hasSection_iff, Option.ite_none_right_eq_some, Bool.and_eq_true, Option.some.injEq,
      mk.injEq, Json.object.injEq]
    constructor
    · rintro ⟨sections, rfl, rfl⟩
      exact ⟨rfl, rfl, sections⟩
    · rintro ⟨rfl, rfl, sections⟩
      exact ⟨sections, rfl, rfl⟩
  case h_2 other =>
    refine ⟨nofun, ?_⟩
    rintro ⟨-, rfl, -⟩
    exact absurd rfl (other fields)

theorem id_eq {stem : String} (given : stem ≠ "") (named : template.fileName = stem ++ ".json") :
    template.id = stem := by
  rw [id, named, Path.stem_json given]

/-- Two templates with one identifier have one file name. -/
theorem fileName_eq_of_id_eq {first second : Template} (named : Path.IsDocumentName first.fileName)
    (alsoNamed : Path.IsDocumentName second.fileName) (same : first.id = second.id) :
    first.fileName = second.fileName := by
  obtain ⟨stem, given, spelled⟩ := named
  obtain ⟨otherStem, alsoGiven, alsoSpelled⟩ := alsoNamed
  rw [id_eq given spelled, id_eq alsoGiven alsoSpelled] at same
  rw [spelled, alsoSpelled, same]

/-- A template is written with its tags, and otherwise as it is. -/
theorem write_tagged (named : Path.IsDocumentName template.fileName) :
    ∃ written, template.write = .object written ∧ Tagged template written := by
  obtain ⟨stem, given, spelled⟩ := named
  refine ⟨_, rfl, ⟨stem, spelled, ?_⟩, Fields.get?_put_self, fun key notId notFileName => ?_, ?_⟩
  · rw [Fields.get?_put_of_ne (by decide), Fields.get?_put_self, id_eq given spelled]
  · rw [Fields.get?_put_of_ne notFileName, Fields.get?_put_of_ne notId]
  · rw [Fields.keys_put, Fields.keys_put]
    by_cases tagged : "id" ∈ template.document.map Prod.fst <;>
      by_cases placed : "fileName" ∈ template.document.map Prod.fst <;>
      simp [tagged, placed]

/-- One entry of a directory has no say in the path of the directory, unless that leads upwards. -/
theorem isDirectory_beside
    (agree : AgreeBeside (destination directory ++ [changed]) tree other)
    (upward : ".." ∈ directory.parts → other.isDirectory directory = tree.isDirectory directory) :
    other.isDirectory directory = tree.isDirectory directory := by
  by_cases leads : ".." ∈ directory.parts
  · exact upward leads
  · refine (agree.isDirectory leads fun below => ?_).symm
    have longer := below.length_le
    simp at longer

section
variable [Platform]

/-- A directory holds a template: under a name with the suffix of a document, it holds the document
of the template, in which both sections say something. -/
structure Held (tree : FileTree) (directory : Path) (template : Template) : Prop where
  named : Path.IsDocumentName template.fileName
  document : tree.document (directory.child template.fileName) = .ok (.object template.document)
  summary : Says template.document "summary"
  detail : Says template.document "detail"

/-- The template that a name in a directory gives. -/
def templateAt? (tree : FileTree) (directory : Path) (name : String) : Option Template :=
  if Path.suffix name = ".json" then
    match tree.document (directory.child name) with
    | .ok document => ofDocument? name document
    | .error _ => none
  else none

theorem templateAt?_eq_some_iff : templateAt? tree directory name = some template ↔
    template.fileName = name ∧ Held tree directory template := by
  unfold templateAt?
  constructor
  · intro given
    split at given
    case isTrue suffixed =>
      split at given
      case h_1 document held =>
        obtain ⟨rfl, rfl, summary, detail⟩ := ofDocument?_eq_some_iff.mp given
        exact ⟨rfl, Path.suffix_eq_json_iff.mp suffixed, held, summary, detail⟩
      case h_2 => cases given
    case isFalse => cases given
  · rintro ⟨rfl, holds⟩
    rw [if_pos (Path.suffix_eq_json_iff.mpr holds.named), holds.document]
    exact ofDocument?_eq_some_iff.mpr ⟨rfl, rfl, holds.summary, holds.detail⟩

/-- The template in a file is read unless its text is nested too deep. -/
theorem read_ok_iff (suffixed : Path.suffix name = ".json") {found : Option Template} :
    read tree directory name = .ok found ↔
      tree.document (directory.child name) ≠ .error .nesting ∧
        found = templateAt? tree directory name := by
  unfold read templateAt?
  rw [if_pos suffixed]
  rcases tree.document (directory.child name) with error | document
  · cases error <;> simp [eq_comm]
  · simp [eq_comm]

/-- What is left out because of its name gives no template anyway. -/
theorem filterMap_templateAt? (names : List String) :
    (names.filter (Path.suffix · == ".json")).filterMap (templateAt? tree directory) =
      names.filterMap (templateAt? tree directory) := by
  rw [List.filterMap_filter]
  congr 1
  funext name
  by_cases suffixed : Path.suffix name = ".json"
  · simp [suffixed]
  · simp [suffixed, templateAt?]

/-- The templates in files of a directory are what their names give. -/
theorem readAll_ok_iff {names : List String} : readAll tree directory names = .ok templates ↔
    (∀ name ∈ names, Path.suffix name = ".json" →
      tree.document (directory.child name) ≠ .error .nesting) ∧
    templates = names.filterMap (templateAt? tree directory) := by
  have passed (found : List (Option Template)) :
      (names.filter (Path.suffix · == ".json")).mapM (read tree directory) = .ok found ↔
        (∀ name ∈ names.filter (Path.suffix · == ".json"),
          tree.document (directory.child name) ≠ .error .nesting) ∧
        found = (names.filter (Path.suffix · == ".json")).map (templateAt? tree directory) :=
    mapM_ok_iff_map fun name member _ => read_ok_iff (eq_of_beq (List.mem_filter.mp member).2)
  have collected : readAll tree directory names = .ok templates ↔ ∃ found,
      (names.filter (Path.suffix · == ".json")).mapM (read tree directory) = .ok found ∧
        templates = found.filterMap fun given => given := by
    unfold readAll
    cases (names.filter (Path.suffix · == ".json")).mapM (read tree directory) with
    | error error => simp [bind, Except.bind]
    | ok found =>
      simp only [bind, Except.bind, pure, Except.pure, Except.ok.injEq, exists_eq_left']
      exact eq_comm
  simp only [collected, passed, List.mem_filter, beq_iff_eq, and_imp]
  constructor
  · rintro ⟨_, ⟨shallow, rfl⟩, rfl⟩
    exact ⟨shallow, by rw [List.filterMap_map, ← filterMap_templateAt? names]; rfl⟩
  · rintro ⟨shallow, rfl⟩
    exact ⟨_, ⟨shallow, rfl⟩, by rw [List.filterMap_map, ← filterMap_templateAt? names]; rfl⟩

/-- A directory is listed if none of its documents is nested too deep; the templates are then what
its names give. -/
theorem list_ok_iff (reached : tree.isDirectory directory = .ok true) :
    list tree directory = .ok templates ↔
      (∀ name, Path.suffix name = ".json" → ¬tree.HoldsDeepText (directory.child name)) ∧
      templates = (tree.names (destination directory)).filterMap (templateAt? tree directory) := by
  have read : list tree directory = readAll tree directory (tree.names (destination directory)) := by
    unfold list
    rw [reached, FileTree.list_of_isDirectory reached]
  rw [read, readAll_ok_iff]
  refine and_congr_left fun _ => ⟨fun shallow name suffixed deep => ?_, fun shallow name _ => ?_⟩
  · obtain ⟨written, held, nested⟩ := deep
    by_cases listed : name ∈ tree.names (destination directory)
    · exact shallow name listed suffixed (FileTree.document_nesting_iff.mpr ⟨written, held, nested⟩)
    · exact FileTree.entry_of_unlisted reached (FileTree.stepTo_of_suffix suffixed _) listed _ held
  · exact fun suffixed deep => shallow name suffixed (FileTree.document_nesting_iff.mp deep)

theorem list_of_noDirectory (lacking : tree.isDirectory directory = .ok false) :
    list tree directory = .ok [] := by
  unfold list
  rw [lacking]

/-- A listing succeeds where it is decided if the path is one of a directory, unless a document in
it is nested too deep. -/
theorem list_succeeds_iff : (∃ templates, list tree directory = .ok templates) ↔
    (∀ error, tree.isDirectory directory ≠ .error error) ∧
    (tree.isDirectory directory = .ok true → ∀ name, Path.IsDocumentName name →
      ¬tree.HoldsDeepText (directory.child name)) := by
  cases asked : tree.isDirectory directory with
  | error error =>
    have failed : list tree directory = .error (.file error) := by
      unfold list
      rw [asked]
    simp [failed]
  | ok answer =>
    cases answer with
    | false => simp [list_of_noDirectory asked]
    | true => simp [list_ok_iff asked, Path.suffix_eq_json_iff]

/-- The templates of a directory, each of which is there, in the order of their names. -/
structure Lists (tree : FileTree) (directory : Path) (templates : List Template) : Prop where
  ascending : (templates.map fileName).Pairwise (· < ·)
  members : ∀ template, template ∈ templates ↔
    tree.isDirectory directory = .ok true ∧ Held tree directory template
  ids : (templates.map id).Nodup
  tagged : ∀ template ∈ templates, ∃ written, template.write = .object written ∧
    Tagged template written

/-- What a directory holds is given by one of its names. -/
theorem mem_filterMap_templateAt? (reached : tree.isDirectory directory = .ok true) :
    template ∈ (tree.names (destination directory)).filterMap (templateAt? tree directory) ↔
      Held tree directory template := by
  simp only [List.mem_filterMap, templateAt?_eq_some_iff]
  constructor
  · rintro ⟨_, -, -, holds⟩
    exact holds
  · intro holds
    obtain ⟨content, stands⟩ := FileTree.entry_of_document holds.document
    have step := FileTree.stepTo_of_suffix (Path.suffix_eq_json_iff.mpr holds.named)
      (destination directory)
    by_cases listed : template.fileName ∈ tree.names (destination directory)
    · exact ⟨_, listed, rfl, holds⟩
    · exact absurd stands (FileTree.entry_of_unlisted reached step listed _)

theorem filterMap_templateAt?_ascending {names : List String}
    (ascending : names.Pairwise (· < ·)) :
    ((names.filterMap (templateAt? tree directory)).map fileName).Pairwise (· < ·) := by
  rw [List.pairwise_map, List.pairwise_filterMap]
  refine ascending.imp fun less first given second alsoGiven => ?_
  rw [(templateAt?_eq_some_iff.mp given).1, (templateAt?_eq_some_iff.mp alsoGiven).1]
  exact less

theorem lists_of_list (succeeded : list tree directory = .ok templates) :
    Lists tree directory templates := by
  obtain ⟨members, ascending⟩ : (∀ template, template ∈ templates ↔
      tree.isDirectory directory = .ok true ∧ Held tree directory template) ∧
      (templates.map fileName).Pairwise (· < ·) := by
    cases asked : tree.isDirectory directory with
    | error error => exact absurd asked ((list_succeeds_iff.mp ⟨templates, succeeded⟩).1 error)
    | ok answer =>
      cases answer with
      | false =>
        rw [list_of_noDirectory asked] at succeeded
        cases succeeded
        simp
      | true =>
        obtain ⟨-, rfl⟩ := (list_ok_iff asked).mp succeeded
        exact ⟨fun template => by rw [mem_filterMap_templateAt? asked]; simp,
          filterMap_templateAt?_ascending (tree.names_ascending _)⟩
  have named : ∀ template ∈ templates, Path.IsDocumentName template.fileName :=
    fun template member => ((members template).mp member).2.named
  refine ⟨ascending, members, ?_, fun template member => write_tagged (named template member)⟩
  rw [List.Nodup, List.pairwise_map] at *
  exact ascending.imp_of_mem fun member alsoMember less same =>
    ne_of_lt less (fileName_eq_of_id_eq (named _ member) (named _ alsoMember) same)

/-- What is left of a listing without one name. -/
theorem filter_filterMap_templateAt? (names : List String) :
    (names.filterMap (templateAt? tree directory)).filter (·.fileName ≠ changed) =
      (names.filter (· ≠ changed)).filterMap (templateAt? tree directory) := by
  rw [List.filter_filterMap, List.filterMap_filter]
  congr 1
  funext name
  cases given : templateAt? tree directory name with
  | none => simp
  | some template =>
    have named := (templateAt?_eq_some_iff.mp given).1
    by_cases same : name = changed <;> simp [named, same, Option.filter]

section Beside
variable {others : List Template}
  (agree : AgreeBeside (destination directory ++ [changed]) tree other)
include agree

theorem document_beside (reached : tree.isDirectory directory = .ok true)
    (alsoReached : other.isDirectory directory = .ok true) (different : name ≠ changed)
    (suffixed : Path.suffix name = ".json") :
    tree.document (directory.child name) = other.document (directory.child name) := by
  refine FileTree.document_congr (FileTree.entry_child_congr reached alsoReached ?_)
  rw [FileTree.stepTo_of_suffix suffixed]
  exact agree.find?_name different

/-- Every other name gives the same template. -/
theorem templateAt?_beside (reached : tree.isDirectory directory = .ok true)
    (alsoReached : other.isDirectory directory = .ok true) (different : name ≠ changed) :
    templateAt? tree directory name = templateAt? other directory name := by
  unfold templateAt?
  split
  case isTrue suffixed => rw [document_beside agree reached alsoReached different suffixed]
  case isFalse => rfl

/-- An entry can break a listing only by a document that is nested too deep. -/
theorem list_succeeds_beside
    (same : other.isDirectory directory = tree.isDirectory directory)
    (succeeded : list tree directory = .ok templates) :
    (∃ others, list other directory = .ok others) ↔
      (tree.isDirectory directory = .ok true → Path.IsDocumentName changed →
        ¬other.HoldsDeepText (directory.child changed)) := by
  obtain ⟨decided, shallow⟩ := list_succeeds_iff.mp ⟨templates, succeeded⟩
  rw [list_succeeds_iff, same, and_iff_right decided]
  refine forall_congr' fun reached => ⟨fun each => each changed, fun alone name named => ?_⟩
  by_cases here : name = changed
  · subst here
    exact alone named
  · have suffixed := Path.suffix_eq_json_iff.mpr named
    have document := document_beside agree reached (same.trans reached) here suffixed
    rw [← FileTree.document_nesting_iff, ← document, FileTree.document_nesting_iff]
    exact shallow reached name named

theorem list_beside (same : other.isDirectory directory = tree.isDirectory directory)
    (succeeded : list tree directory = .ok templates)
    (alsoSucceeded : list other directory = .ok others) :
    templates.filter (·.fileName ≠ changed) = others.filter (·.fileName ≠ changed) := by
  cases asked : tree.isDirectory directory with
  | error error => exact absurd asked ((list_succeeds_iff.mp ⟨templates, succeeded⟩).1 error)
  | ok answer =>
    rw [asked] at same
    cases answer with
    | false =>
      rw [list_of_noDirectory asked] at succeeded
      rw [list_of_noDirectory same] at alsoSucceeded
      cases succeeded
      cases alsoSucceeded
      rfl
    | true =>
      obtain ⟨-, rfl⟩ := (list_ok_iff asked).mp succeeded
      obtain ⟨-, rfl⟩ := (list_ok_iff same).mp alsoSucceeded
      rw [filter_filterMap_templateAt?, filter_filterMap_templateAt?, agree.filter_names]
      refine List.filterMap_congr fun name listed => ?_
      have different : name ≠ changed := by simpa using (List.mem_filter.mp listed).2
      exact templateAt?_beside agree asked same different

end Beside

/-- A directory is listed name by name: the templates are those that it holds, in the order of their
names and with an identifier of their own, each as its document but for the two tags. Any of its
entries can be changed, added or removed without a change to the templates of the others, unless it
breaks the listing, by a document that is nested too deep. -/
theorem listed_name_by_name (tree : FileTree) (directory : Path) :
    ((∃ templates, list tree directory = .ok templates) ↔
      (∀ error, tree.isDirectory directory ≠ .error error) ∧
      (tree.isDirectory directory = .ok true → ∀ name, Path.IsDocumentName name →
        ¬tree.HoldsDeepText (directory.child name))) ∧
    ∀ templates, list tree directory = .ok templates → Lists tree directory templates ∧
      ∀ other changed, AgreeBeside (destination directory ++ [changed]) tree other →
        (".." ∈ directory.parts → other.isDirectory directory = tree.isDirectory directory) →
        ((∃ others, list other directory = .ok others) ↔
          (tree.isDirectory directory = .ok true → Path.IsDocumentName changed →
            ¬other.HoldsDeepText (directory.child changed))) ∧
        ∀ others, list other directory = .ok others →
          templates.filter (·.fileName ≠ changed) = others.filter (·.fileName ≠ changed) := by
  refine ⟨list_succeeds_iff, fun templates succeeded => ⟨lists_of_list succeeded, ?_⟩⟩
  intro other changed agree upward
  have same := isDirectory_beside agree upward
  exact ⟨list_succeeds_beside agree same succeeded,
    fun others alsoSucceeded => list_beside agree same succeeded alsoSucceeded⟩

end

open scoped Platform

/-- A directory with two templates, one of them tagged already, and with four entries that are none:
a section that says nothing, an array, a directory, and a name without the suffix. -/
def folder : FileTree := ⟨[
  (["home"], .directory),
  (FileTree.workingDirectory, .directory),
  (FileTree.workingDirectory ++ ["t"], .directory),
  (FileTree.workingDirectory ++ ["t", "d.e.json"],
    .file (.text "\x7b\"summary\": \"S\", \"detail\": [], \"id\": 5\x7d")),
  (FileTree.workingDirectory ++ ["t", "a.json"],
    .file (.text "\x7b\"summary\": \x7b\x7d, \"detail\": true\x7d")),
  (FileTree.workingDirectory ++ ["t", "c.json"],
    .file (.text "\x7b\"summary\": -0.0, \"detail\": 1\x7d")),
  (FileTree.workingDirectory ++ ["t", "f.json"], .file (.text "[]")),
  (FileTree.workingDirectory ++ ["t", "g.json"], .directory),
  (FileTree.workingDirectory ++ ["t", "h.txt"],
    .file (.text "\x7b\"summary\": 1, \"detail\": 1\x7d"))]⟩

def folderPath : Path := ⟨.here, ["t"]⟩

/-- One more entry of the directory. -/
def folderWith (entry : Entry) : FileTree :=
  folder.put (destination folderPath ++ ["b.json"]) entry

theorem folderWith_agree (entry further : Entry) :
    AgreeBeside (destination folderPath ++ ["b.json"]) (folderWith entry) (folderWith further) :=
  (FileTree.put_agreeBeside folder _ entry).trans (FileTree.put_agreeBeside folder _ further).symm

theorem folderWith_listed (entry : Entry) {expected : List String}
    (computed : (list (folderWith entry) folderPath).toOption.map (·.map id) = some expected) :
    ∃ templates, list (folderWith entry) folderPath = .ok templates ∧
      templates.map id = expected := by
  cases listed : list (folderWith entry) folderPath with
  | error error => simp [listed, Except.toOption] at computed
  | ok templates => exact ⟨templates, rfl, by simpa [listed, Except.toOption] using computed⟩

/-- A text that is cut off, and a template in its place. -/
theorem folder_listed : ∃ templates others,
    AgreeBeside (destination folderPath ++ ["b.json"]) (folderWith (.file (.text "[")))
      (folderWith (.file (.text "\x7b\"summary\": 1, \"detail\": 1\x7d"))) ∧
    ".." ∉ folderPath.parts ∧
    list (folderWith (.file (.text "["))) folderPath = .ok templates ∧
    list (folderWith (.file (.text "\x7b\"summary\": 1, \"detail\": 1\x7d"))) folderPath =
      .ok others ∧
    templates.map id = ["a", "d.e"] ∧ others.map id = ["a", "b", "d.e"] ∧
    Lists (folderWith (.file (.text "["))) folderPath templates ∧
    templates.filter (·.fileName ≠ "b.json") = others.filter (·.fileName ≠ "b.json") := by
  have agree := folderWith_agree (.file (.text "["))
    (.file (.text "\x7b\"summary\": 1, \"detail\": 1\x7d"))
  have downward : ".." ∉ folderPath.parts := by decide
  obtain ⟨templates, succeeded, identifiers⟩ := folderWith_listed (.file (.text "["))
    (show _ = some ["a", "d.e"] by decide +kernel)
  obtain ⟨others, alsoSucceeded, otherIdentifiers⟩ :=
    folderWith_listed (.file (.text "\x7b\"summary\": 1, \"detail\": 1\x7d"))
      (show _ = some ["a", "b", "d.e"] by decide +kernel)
  obtain ⟨lists, beside⟩ := (listed_name_by_name _ folderPath).2 templates succeeded
  exact ⟨templates, others, agree, downward, succeeded, alsoSucceeded, identifiers,
    otherIdentifiers, lists,
    (beside _ _ agree fun upward => absurd upward downward).2 others alsoSucceeded⟩

/-- A document that is nested too deep takes all templates with it. -/
theorem deep_document_unlists :
    (∃ templates, list (folderWith (.file (.text "["))) folderPath = .ok templates ∧
      templates.map id = ["a", "d.e"]) ∧
    ¬∃ templates, list (folderWith (.file (.text Catalog.deepArray))) folderPath =
      .ok templates := by
  refine ⟨folderWith_listed _ (show _ = some ["a", "d.e"] by decide +kernel), fun succeeds => ?_⟩
  have deep := Json.Reader.readWithin_of_brackets Platform.deepestDocument
    (List.replicate (Platform.deepestDocument + 1) ']')
  have reached : (folderWith (.file (.text Catalog.deepArray))).isDirectory folderPath =
      .ok true := rfl
  exact (list_succeeds_iff.mp succeeds).2 reached "b.json" ⟨"b", by decide, rfl⟩
    ⟨Catalog.deepArray, rfl, deep⟩

end Template
end ThreatAnalysis
