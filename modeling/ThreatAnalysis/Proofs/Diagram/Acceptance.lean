import ThreatAnalysis.Proofs.Diagram.RoundTrip

/-!
Which payloads are accepted as diagrams, and what is reported of the others. The array of cells is
chosen twice: by the guard in front of reading, and by the schema with its two keys. Both choose the
same member (`Chosen`), whatever stands under the two keys. Behind the guard the entries are read
one by one: the issues of a payload are those of its title and then those of each entry as it is by
itself, moved to its place (`issues_eq`), so that no entry hides or shifts what is wrong with
another. From there each answer of reading has its one reason (`read_answers`); a value that is
nested too deep to be written as a text is the reason for none of the answers that are foreseen.
-/
namespace ThreatAnalysis

theorem Finding.isTooDeep_iff [Platform] {document : Json} : isTooDeep document = true ↔
    ∃ fields, document = .object fields ∧ ∃ field key value,
      schema.locate fields (.text field) = some (key, value) ∧ value.isTooDeep = true := by
  have listed (field : TextField) : field ∈ TextField.all := by cases field <;> decide
  cases document with
  | object fields => simp [isTooDeep, Option.any_eq_true, listed]
  | _ => simp [isTooDeep]

theorem Cell.isTooDeep_iff [Platform] {document : Json} : isTooDeep document = true ↔
    ∃ fields, document = .object fields ∧ ∃ key findings,
      schema.locate fields .threats = some (key, .array findings) ∧
        ∃ finding ∈ findings, Finding.isTooDeep finding = true := by
  cases document with
  | object fields =>
    rw [isTooDeep]
    split
    case h_1 key findings located => simp [located]
    case h_2 none =>
      refine ⟨fun impossible => absurd impossible Bool.false_ne_true, ?_⟩
      rintro ⟨_, ⟨⟩, key, findings, located, -⟩
      exact absurd located (none key findings)
  | _ => simp [isTooDeep]

namespace Diagram

/-- The member of a payload that has to be the array of cells: the one under `cells`, even if it is
null, and the one under `nodes` only if there is none. -/
inductive Chosen (payload : Json) : String → Json → Prop where
  | cells (value : Json) (present : payload.get? "cells" = some value) :
      Chosen payload "cells" value
  | nodes (value : Json) (absent : payload.get? "cells" = none)
      (present : payload.get? "nodes" = some value) : Chosen payload "nodes" value

/-- A payload has an array of cells. -/
def HasArray (payload : Json) : Prop := ∃ key entries, Chosen payload key (.array entries)

/-- What is wrong with the title of a payload. -/
def titleIssues (payload : Json) : List Issue :=
  match payload.get? "title" with
  | none => []
  | some (.string _) => []
  | some _ => [⟨[.key "title"], .notString⟩]

/-- What is wrong with the entries of an array of cells, each by itself, seen from the payload. -/
def entryIssues (key : String) (entries : List Json) : List Issue :=
  entries.zipIdx.flatMap fun (entry, index) => (Cell.read entry).issues.map fun issue =>
    ⟨.key key :: .index index :: issue.place, issue.kind⟩

/-- Reading a payload breaks down: in an entry of its array of cells there is a finding that gives
a value nested too deep for one of its texts. -/
inductive BreaksDown [Platform] (payload : Json) : Prop where
  | text (key : String) (entries : List Json) (chosen : Chosen payload key (.array entries))
      (cell : Fields) (entry : .object cell ∈ entries) (findingsKey : String)
      (findings : List Json)
      (threats : Cell.schema.locate cell .threats = some (findingsKey, .array findings))
      (finding : Fields) (listed : .object finding ∈ findings) (field : Finding.TextField)
      (textKey : String) (value : Json)
      (given : Finding.schema.locate finding (.text field) = some (textKey, value))
      (deep : value.isTooDeep = true)

/-- The answer to a payload. -/
inductive Answers [Platform] (payload : Json) : Except ReadError Diagram → Prop where
  | notObject (different : ∀ fields, payload ≠ .object fields) :
      Answers payload (.error (.format .notObject))
  | noCells (fields : Fields) (object : payload = .object fields) (none : ¬ HasArray payload) :
      Answers payload (.error (.format .noCells))
  | broken (breaks : BreaksDown payload) : Answers payload (.error .nesting)
  | refused (key : String) (entries : List Json) (chosen : Chosen payload key (.array entries))
      (shallow : ¬ BreaksDown payload)
      (wrong : titleIssues payload ++ entryIssues key entries ≠ []) :
      Answers payload (.error (.format (.invalid (titleIssues payload ++ entryIssues key entries))))
  | accepted (key : String) (entries : List Json) (diagram : Diagram)
      (chosen : Chosen payload key (.array entries)) (shallow : ¬ BreaksDown payload)
      (right : titleIssues payload ++ entryIssues key entries = [])
      (each : List.Forall₂ (fun entry cell => Cell.read entry = .ok cell) entries diagram.cells) :
      Answers payload (.ok diagram)

section Choice
variable {payload value other : Json} {fields : Fields} {key otherKey : String}

theorem Chosen.object (chosen : Chosen payload key value) : ∃ fields, payload = .object fields := by
  cases payload with
  | object fields => exact ⟨fields, rfl⟩
  | _ =>
    cases chosen with
    | cells _ present => cases present
    | nodes _ _ present => cases present

theorem Chosen.unique (first : Chosen payload key value) (second : Chosen payload otherKey other) :
    key = otherKey ∧ value = other := by
  cases first with
  | cells _ present =>
    cases second with
    | cells _ also => exact ⟨rfl, Option.some.inj (present.symm.trans also)⟩
    | nodes _ absent _ => exact nomatch present.symm.trans absent
  | nodes _ absent present =>
    cases second with
    | cells _ also => exact nomatch absent.symm.trans also
    | nodes _ _ also => exact ⟨rfl, Option.some.inj (present.symm.trans also)⟩

theorem Chosen.cellsOf (chosen : Chosen payload key value) : cellsOf payload = some value := by
  cases chosen with
  | cells _ present => rw [Diagram.cellsOf, present, Option.some_or]
  | nodes _ absent present => rw [Diagram.cellsOf, absent, present, Option.none_or]

theorem exists_chosen_of_cellsOf (found : cellsOf payload = some value) :
    ∃ key, Chosen payload key value := by
  unfold Diagram.cellsOf at found
  cases cells : payload.get? "cells" with
  | some known =>
    rw [cells, Option.some_or] at found
    cases found
    exact ⟨"cells", .cells value cells⟩
  | none =>
    rw [cells, Option.none_or] at found
    exact ⟨"nodes", .nodes value cells found⟩

theorem Chosen.locate (chosen : Chosen (.object fields) key value) :
    schema.locate fields .cells = some (key, value) := by
  unfold Schema.locate
  cases chosen with
  | cells _ present =>
    have there : fields.get? (schema.key .cells) = some value := present
    rw [there]
    rfl
  | nodes _ absent present =>
    have missing : fields.get? (schema.key .cells) = none := absent
    have there : fields.get? "nodes" = some value := present
    rw [missing]
    simp [schema, there]

theorem BreaksDown.hasArray [Platform] (breaks : BreaksDown payload) : HasArray payload := by
  obtain ⟨key, entries, chosen⟩ := breaks
  exact ⟨key, entries, chosen⟩

theorem breaksDown_iff [Platform] {entries : List Json}
    (chosen : Chosen payload key (.array entries)) :
    BreaksDown payload ↔ entries.any Cell.isTooDeep = true := by
  rw [List.any_eq_true]
  constructor
  · rintro ⟨_, _, also, cell, entry, findingsKey, findings, threats, finding, listed, field, textKey,
      value, given, deep⟩
    cases (chosen.unique also).2
    refine ⟨_, entry, Cell.isTooDeep_iff.mpr ⟨cell, rfl, findingsKey, findings, threats, _, listed, ?_⟩⟩
    exact Finding.isTooDeep_iff.mpr ⟨finding, rfl, field, textKey, value, given, deep⟩
  · rintro ⟨_, entry, tooDeep⟩
    obtain ⟨cell, rfl, findingsKey, findings, threats, _, listed, inner⟩ :=
      Cell.isTooDeep_iff.mp tooDeep
    obtain ⟨finding, rfl, field, textKey, value, given, deep⟩ := Finding.isTooDeep_iff.mp inner
    exact .text key entries chosen cell entry findingsKey findings threats finding listed field
      textKey value given deep

end Choice

/-- What is wrong with an object is what is wrong with its title, and then with its entries. -/
theorem issues_eq {fields : Fields} {key : String} {entries : List Json}
    (chosen : Chosen (.object fields) key (.array entries)) :
    schema.issues fields = titleIssues (.object fields) ++ entryIssues key entries := by
  have title : schema.issuesAt fields .title = titleIssues (.object fields) := by
    have located : schema.locate fields .title = (fields.get? "title").map ("title", ·) := by
      have key : schema.key .title = "title" := rfl
      have single : schema.otherKey .title = none := rfl
      unfold Schema.locate
      rw [key, single]
      cases fields.get? "title" <;> rfl
    unfold Schema.issuesAt titleIssues
    rw [located, Json.get?]
    cases fields.get? "title" with
    | none => rfl
    | some value => cases value <;> rfl
  have cells : schema.issuesAt fields .cells = entryIssues key entries := by
    have items : ((schema.read .cells (.array entries)).under (.key key)).issues =
        (Readers.items Cell.read 0 entries).issues.map (·.under (.key key)) :=
      Reading.issues_under _ _
    unfold Schema.issuesAt entryIssues
    rw [chosen.locate]
    dsimp only
    rw [items, Readers.issues_items, List.map_flatMap]
    simp only [List.map_map]
    rfl
  have both : schema.issues fields =
      schema.issuesAt fields .title ++ (schema.issuesAt fields .cells ++ []) := rfl
  rw [both, title, cells, List.append_nil]

theorem cells_accept {fields : Fields} {key : String} {entries : List Json}
    (chosen : Chosen (.object fields) key (.array entries)) (accepted : schema.issues fields = []) :
    List.Forall₂ (fun entry cell => Cell.read entry = .ok cell) entries
      (cells (schema.accept fields)) := by
  obtain ⟨known, read, given⟩ := Schema.given_of_locate lawful accepted chosen.locate
  have held : cells (schema.accept fields) = known := by
    unfold cells Record.get
    rw [given, Option.getD_some]
  rw [held]
  exact Readers.items_ok_iff.mp read

/-- Every payload is answered, and for its reason. -/
theorem read_answers [Platform] (payload : Json) : Answers payload (read payload) := by
  cases payload with
  | object fields =>
    by_cases array : HasArray (.object fields)
    · obtain ⟨key, entries, chosen⟩ := array
      have issues := issues_eq chosen
      have breaks := breaksDown_iff chosen
      unfold read
      rw [chosen.cellsOf]
      dsimp only
      cases deep : entries.any Cell.isTooDeep with
      | true =>
        rw [if_pos rfl]
        exact .broken (breaks.mpr deep)
      | false =>
        have shallow : ¬ BreaksDown (.object fields) := by rw [breaks, deep]; exact nofun
        rw [if_neg (by decide)]
        unfold Schema.decode
        dsimp only
        by_cases right : titleIssues (.object fields) ++ entryIssues key entries = []
        · have accepted := issues.trans right
          rw [accepted]
          exact .accepted key entries _ chosen shallow right (cells_accept chosen accepted)
        · cases found : schema.issues fields with
          | nil => exact absurd (issues.symm.trans found) right
          | cons issue rest =>
            have same := issues.symm.trans found
            have refused := Answers.refused key entries chosen shallow right
            rw [same] at refused
            exact refused
    · have refused : read (.object fields) = .error (.format .noCells) := by
        unfold read
        cases found : cellsOf (.object fields) with
        | none => rfl
        | some value =>
          obtain ⟨key, chosen⟩ := exists_chosen_of_cellsOf found
          cases value with
          | array entries => exact absurd ⟨key, entries, chosen⟩ array
          | _ => rfl
      rw [refused]
      exact .noCells fields rfl array
  | _ => exact .notObject nofun

theorem read_eq_nesting_iff [Platform] {payload : Json} :
    read payload = .error .nesting ↔ BreaksDown payload := by
  have answers := read_answers payload
  constructor
  · intro outcome
    rw [outcome] at answers
    cases answers with
    | broken breaks => exact breaks
  · intro breaks
    generalize read payload = outcome at answers ⊢
    cases answers with
    | notObject different =>
      obtain ⟨key, entries, chosen⟩ := breaks.hasArray
      obtain ⟨fields, object⟩ := chosen.object
      exact absurd object (different fields)
    | noCells _ _ none => exact absurd breaks.hasArray none
    | broken _ => rfl
    | refused _ _ _ shallow _ => exact absurd breaks shallow
    | accepted _ _ _ _ shallow _ _ => exact absurd breaks shallow

/-- What makes a payload unacceptable. -/
inductive Unacceptable (payload : Json) : Prop where
  | notObject (different : ∀ fields, payload ≠ .object fields)
  | noArray (none : ¬ HasArray payload)
  | title (value : Json) (given : payload.get? "title" = some value)
      (noText : ∀ text, value ≠ .string text)
  | entry (key : String) (entries : List Json) (chosen : Chosen payload key (.array entries))
      (entry : Json) (listed : entry ∈ entries) (invalid : ∀ cell, Cell.read entry ≠ .ok cell)

theorem titleIssues_eq_nil_iff {payload : Json} : titleIssues payload = [] ↔
    ∀ value, payload.get? "title" = some value → ∃ text, value = .string text := by
  unfold titleIssues
  cases payload.get? "title" with
  | none => simp
  | some value => cases value <;> simp

theorem entryIssues_eq_nil_iff {key : String} {entries : List Json} :
    entryIssues key entries = [] ↔ ∀ entry ∈ entries, ∃ cell, Cell.read entry = .ok cell := by
  have readable (entry : Json) :
      (Cell.read entry).issues = [] ↔ ∃ cell, Cell.read entry = .ok cell :=
    Reading.issues_eq_nil_iff (Schema.decode_explained entry)
  unfold entryIssues
  simp only [List.flatMap_eq_nil_iff, List.map_eq_nil_iff, readable]
  constructor
  · intro each entry member
    obtain ⟨index, found⟩ := List.mem_iff_getElem?.mp member
    exact each (entry, index) (List.mk_mem_zipIdx_iff_getElem?.mpr found)
  · intro each pair member
    exact each pair.1 (List.fst_mem_of_mem_zipIdx member)

/-- Nothing is ever wrong with the array itself. -/
theorem place_ne_array {payload : Json} {key : String} {entries : List Json}
    (chosen : Chosen payload key (.array entries)) :
    ∀ issue ∈ titleIssues payload ++ entryIssues key entries, issue.place ≠ [.key key] := by
  intro issue reported
  rcases List.mem_append.mp reported with ofTitle | ofEntry
  · have titled : issue.place = [.key "title"] := by
      unfold titleIssues at ofTitle
      split at ofTitle
      · cases ofTitle
      · cases ofTitle
      · rw [List.mem_singleton.mp ofTitle]
    rw [titled]
    cases chosen <;> decide
  · obtain ⟨⟨entry, index⟩, -, found⟩ := List.mem_flatMap.mp ofEntry
    obtain ⟨inner, -, rfl⟩ := List.mem_map.mp found
    simp

theorem unacceptable_iff {payload : Json} {key : String} {entries : List Json}
    (chosen : Chosen payload key (.array entries)) :
    Unacceptable payload ↔ titleIssues payload ++ entryIssues key entries ≠ [] := by
  rw [ne_eq, List.append_eq_nil_iff, titleIssues_eq_nil_iff, entryIssues_eq_nil_iff]
  constructor
  · rintro (different | none | ⟨value, given, noText⟩ | ⟨_, _, also, entry, listed, invalid⟩)
      ⟨title, each⟩
    · obtain ⟨fields, same⟩ := chosen.object
      exact different fields same
    · exact none ⟨key, entries, chosen⟩
    · obtain ⟨text, same⟩ := title value given
      exact noText text same
    · cases (chosen.unique also).2
      obtain ⟨cell, valid⟩ := each entry listed
      exact invalid cell valid
  · intro wrong
    by_contra acceptable
    apply wrong
    constructor
    · intro value given
      by_contra noText
      exact acceptable (.title value given fun text same => noText ⟨text, same⟩)
    · intro entry listed
      by_contra invalid
      exact acceptable (.entry key entries chosen entry listed fun cell valid => invalid ⟨cell, valid⟩)

/-- Reading a payload breaks down exactly if a finding in it gives a value nested too deep for a text.
Otherwise a payload is refused exactly if it is no object, has no array of cells, has a title that is
no text, or has an entry that is no cell by itself. The cells of a diagram that is read are the
entries as each is read by itself. With an array of cells the only error is the list of all issues:
that of the title, then those of the entries in order, each under the key of the array and its index,
and none at the array itself. -/
theorem accepted_entry_by_entry [Platform] (payload : Json) :
    (read payload = .error .nesting ↔ BreaksDown payload) ∧
    ((∃ error, read payload = .error (.format error)) ↔
      Unacceptable payload ∧ ¬ BreaksDown payload) ∧
    (∀ diagram, read payload = .ok diagram → ∃ key entries, Chosen payload key (.array entries) ∧
      List.Forall₂ (fun entry cell => Cell.read entry = .ok cell) entries diagram.cells) ∧
    ∀ key entries, Chosen payload key (.array entries) →
      ∀ error, read payload = .error (.format error) →
        error = .invalid (titleIssues payload ++ entryIssues key entries) ∧
          ∀ issue ∈ titleIssues payload ++ entryIssues key entries, issue.place ≠ [.key key] := by
  refine ⟨read_eq_nesting_iff, ?_⟩
  have answers := read_answers payload
  generalize read payload = outcome at answers ⊢
  cases answers with
  | notObject different =>
    have unchosen : ¬ HasArray payload := by
      rintro ⟨key, entries, chosen⟩
      obtain ⟨fields, object⟩ := chosen.object
      exact different fields object
    refine ⟨?_, nofun, fun key entries chosen => absurd ⟨key, entries, chosen⟩ unchosen⟩
    exact ⟨fun _ => ⟨.notObject different, fun breaks => unchosen breaks.hasArray⟩,
      fun _ => ⟨_, rfl⟩⟩
  | noCells fields object unchosen =>
    refine ⟨?_, nofun, fun key entries chosen => absurd ⟨key, entries, chosen⟩ unchosen⟩
    exact ⟨fun _ => ⟨.noArray unchosen, fun breaks => unchosen breaks.hasArray⟩,
      fun _ => ⟨_, rfl⟩⟩
  | broken breaks =>
    exact ⟨⟨nofun, fun refused => absurd breaks refused.2⟩, nofun, nofun⟩
  | refused key entries chosen shallow wrong =>
    have unacceptable := (unacceptable_iff chosen).mpr wrong
    refine ⟨⟨fun _ => ⟨unacceptable, shallow⟩, fun _ => ⟨_, rfl⟩⟩, nofun, ?_⟩
    intro other others also error same
    cases same
    obtain ⟨rfl, array⟩ := chosen.unique also
    cases array
    exact ⟨rfl, place_ne_array chosen⟩
  | accepted key entries diagram chosen shallow right each =>
    have acceptable : ¬ Unacceptable payload := by
      rw [unacceptable_iff chosen, not_not]
      exact right
    refine ⟨⟨nofun, fun refused => absurd refused.1 acceptable⟩, ?_, nofun⟩
    intro known same
    cases same
    exact ⟨key, entries, chosen, each⟩

open scoped Platform

/-- A number with too many digits has no text. -/
example : (Finding.read (.object [("title", .int (10 ^ 4300))])).issues =
    [⟨[.key "title"], .longInteger⟩] := by decide +kernel

/-- A title that is no text, and three entries of which the first has a finding that is none and the
last is wrong twice. The second array is not asked for. -/
def faultyPayload : Json :=
  .object [("title", .int 7), ("nodes", .array []), ("cells", .array [
    .object [("id", .string "a"), ("threats", .array [.object [], .int 3])],
    .object [("id", .string "b")],
    .object [("type", .null)]])]

theorem faulty_refused : Unacceptable faultyPayload ∧ ¬ BreaksDown faultyPayload ∧
    read faultyPayload = .error (.format (.invalid [⟨[.key "title"], .notString⟩,
      ⟨[.key "cells", .index 0, .key "threats", .index 1], .notObject⟩,
      ⟨[.key "cells", .index 2, .key "id"], .missing⟩,
      ⟨[.key "cells", .index 2, .key "type"], .notString⟩])) := by
  obtain ⟨-, refusal, -, reported⟩ := accepted_entry_by_entry faultyPayload
  have wrong : Unacceptable faultyPayload := .title (.int 7) rfl nofun
  have shallow : ¬ BreaksDown faultyPayload := by
    rw [breaksDown_iff (.cells _ rfl)]
    decide
  obtain ⟨error, refused⟩ := refusal.mpr ⟨wrong, shallow⟩
  obtain ⟨issues, -⟩ := reported "cells" _ (.cells _ rfl) error refused
  refine ⟨wrong, shallow, ?_⟩
  rw [refused, issues]
  rfl

/-- Lists within one another. -/
def nestedList : Nat → Json
  | 0 => .array []
  | height + 1 => .array [nestedList height]

theorem overflows_nestedList (less : room ≤ height) : (nestedList height).overflows room = true := by
  induction room generalizing height with
  | zero => rw [Json.overflows]
  | succ room ih =>
    cases height with
    | zero => omega
    | succ height =>
      rw [nestedList, Json.overflows, Json.overflowsItems, ih (by omega), Bool.true_or]

/-- A diagram with one cell, whose threat has a title two thousand lists deep. -/
def deepTitlePayload : Json :=
  .object [("cells", .array [.object [("id", .string "a"),
    ("threats", .array [.object [("title", nestedList 2000)]])]])]

/-- The payload neither gives a diagram nor is it refused. -/
theorem deep_title_breaks_down : read deepTitlePayload = .error .nesting ∧
    ¬ ((∃ diagram, read deepTitlePayload = .ok diagram) ∨
      ∃ error, read deepTitlePayload = .error (.format error)) := by
  have deep : (nestedList 2000).isTooDeep = true := overflows_nestedList (by decide)
  have breaks : BreaksDown deepTitlePayload :=
    .text "cells" _ (.cells _ rfl) _ List.mem_cons_self "threats" _ rfl _ List.mem_cons_self .title
      "title" _ rfl deep
  have broken := read_eq_nesting_iff.mpr breaks
  refine ⟨broken, ?_⟩
  rw [broken]
  rintro (⟨_, impossible⟩ | ⟨_, impossible⟩) <;> cases impossible

end Diagram
end ThreatAnalysis
