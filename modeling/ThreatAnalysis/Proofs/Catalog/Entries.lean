import ThreatAnalysis.Proofs.Catalog.Isolation

/-!
What a file of rules gives. Reading tells two kinds of faults apart. A fault of the document leaves
no rules at all; in a document that lists entries, each entry is judged by itself, so that an entry
which is no rule costs nothing but itself, wherever it stands (`ofEntries_insert`). The one fault
that is not told in the outcome is a document that is nested too deep (`read_eq_error_iff`).
-/
namespace ThreatAnalysis

section
variable [Platform]

/-- A file whose text is nested too deep for a document. -/
def FileTree.HoldsDeepText (tree : FileTree) (path : Path) : Prop :=
  ∃ written, tree.entry path = .ok (.file (.text written)) ∧
    Json.readWithin Platform.deepestDocument written = .error .nesting

theorem FileTree.document_nesting_iff {tree : FileTree} {path : Path} :
    tree.document path = .error .nesting ↔ tree.HoldsDeepText path := by
  constructor
  · intro deep
    obtain ⟨content, held⟩ := entry_of_nesting deep
    unfold document read at deep
    rw [held] at deep
    cases content with
    | binary bytes => cases deep
    | text written =>
      refine ⟨written, held, ?_⟩
      dsimp only [Content.document] at deep
      cases outcome : Json.readWithin Platform.deepestDocument written with
      | ok document => simp [outcome] at deep
      | error error => cases error <;> simp [outcome] at deep ⊢
  · rintro ⟨written, held, deep⟩
    unfold document read
    simp only [held, Content.document, deep]

end

namespace RuleFile
variable {tree : FileTree} {path : Path} {file : RuleFile} {document entry : Json}
  {entries : List Json}

/-- Whether an entry is a rule if it is read by itself. -/
def isRule (entry : Json) : Bool := (Rule.read entry).toOption.isSome

/-- A document is an object with an array of entries. -/
def Lists (document : Json) (entries : List Json) : Prop :=
  ∃ fields, document = .object fields ∧ Fields.get? fields "rules" = some (.array entries)

theorem isRule_iff : isRule entry = true ↔ ∃ rule, Rule.read entry = .ok rule := by
  unfold isRule
  cases Rule.read entry with
  | ok rule => simp [Except.toOption]
  | error issues => simp [Except.toOption]

theorem entries?_eq_some_iff : entries? document = some entries ↔ Lists document entries := by
  unfold entries? Lists
  cases document with
  | object fields =>
    simp only [Json.get?, Json.object.injEq, exists_eq_left']
    cases Fields.get? fields "rules" with
    | none => simp
    | some value => cases value <;> simp
  | _ => simp [Json.get?]

/-- An entry that is a rule comes in front of the rules behind it. -/
theorem ofEntries_rule (path : Path) (rest : List Json) {rule : Rule}
    (read : Rule.read entry = .ok rule) : ofEntries path (entry :: rest) =
      { ofEntries path rest with rules := rule :: (ofEntries path rest).rules } := by
  simp [ofEntries, read, Except.toOption]

/-- Any other entry is only counted. -/
theorem ofEntries_refused (path : Path) (rest : List Json)
    (refused : ∀ rule, Rule.read entry ≠ .ok rule) : ofEntries path (entry :: rest) =
      { ofEntries path rest with skipped := (ofEntries path rest).skipped + 1 } := by
  cases read : Rule.read entry with
  | ok rule => exact absurd read (refused rule)
  | error issues => simp [ofEntries, read, Except.toOption]

theorem rules_ofEntries (path : Path) (entries : List Json) :
    List.Forall₂ (fun entry rule => Rule.read entry = .ok rule) (entries.filter isRule)
      (ofEntries path entries).rules := by
  induction entries with
  | nil => exact .nil
  | cons entry rest ih =>
    by_cases accepted : ∃ rule, Rule.read entry = .ok rule
    · obtain ⟨rule, read⟩ := accepted
      rw [ofEntries_rule path rest read, List.filter_cons_of_pos (isRule_iff.mpr ⟨rule, read⟩)]
      exact .cons read ih
    · rw [ofEntries_refused path rest (not_exists.mp accepted),
        List.filter_cons_of_neg (mt isRule_iff.mp accepted)]
      exact ih

/-- Every entry is a rule or is left out. -/
theorem length_ofEntries (path : Path) (entries : List Json) :
    (ofEntries path entries).rules.length + (ofEntries path entries).skipped = entries.length := by
  induction entries with
  | nil => rfl
  | cons entry rest ih =>
    rw [List.length_cons]
    by_cases accepted : ∃ rule, Rule.read entry = .ok rule
    · obtain ⟨rule, read⟩ := accepted
      rw [ofEntries_rule path rest read, List.length_cons]
      dsimp only
      omega
    · rw [ofEntries_refused path rest (not_exists.mp accepted)]
      dsimp only
      omega

/-- An entry that is no rule is counted and changes nothing else, whatever stands before it. -/
theorem ofEntries_insert (path : Path) (front back : List Json)
    (refused : ∀ rule, Rule.read entry ≠ .ok rule) : ofEntries path (front ++ entry :: back) =
      { ofEntries path (front ++ back) with
        skipped := (ofEntries path (front ++ back)).skipped + 1 } := by
  induction front with
  | nil => exact ofEntries_refused path back refused
  | cons head rest ih =>
    rw [List.cons_append, List.cons_append]
    by_cases accepted : ∃ rule, Rule.read head = .ok rule
    · obtain ⟨rule, read⟩ := accepted
      rw [ofEntries_rule path _ read, ofEntries_rule path _ read, ih]
    · rw [ofEntries_refused path _ (not_exists.mp accepted),
        ofEntries_refused path _ (not_exists.mp accepted), ih]

section
variable [Platform]

/-- A file holds a document with these entries. -/
def Holds (tree : FileTree) (path : Path) (entries : List Json) : Prop :=
  ∃ document, tree.document path = .ok document ∧ Lists document entries

/-- What is wrong with a file as a whole: it holds no document, or one that lists no entries. -/
inductive Faulty (tree : FileTree) (path : Path) : RuleFileProblem → Prop where
  | unread (error : DocumentError) (failed : tree.document path = .error error) :
      Faulty tree path (.document error)
  | unlisted (document : Json) (held : tree.document path = .ok document)
      (none : ∀ entries, ¬ Lists document entries) : Faulty tree path .noEntries

/-- The outcome of reading a file accounts for what the file holds. -/
structure Accounts (tree : FileTree) (path : Path) (file : RuleFile) : Prop where
  located : file.path = path
  /-- If there is a problem, it is what is wrong with the file, and there is nothing else. -/
  failed : ∀ problem, file.problem = some problem →
    Faulty tree path problem ∧ file.rules = [] ∧ file.skipped = 0
  /-- If there is none, the rules are the entries that are rules by themselves, in their order, and
  every other entry is counted. -/
  sound : file.problem = none → ∃ entries, Holds tree path entries ∧
    List.Forall₂ (fun entry rule => Rule.read entry = .ok rule) (entries.filter isRule) file.rules ∧
    file.rules.length + file.skipped = entries.length

/-- Where there are entries, they are what is read. -/
theorem read_of_holds (holds : Holds tree path entries) :
    read tree path = .ok (ofEntries path entries) := by
  obtain ⟨document, held, lists⟩ := holds
  unfold read ofDocument
  simp only [held, entries?_eq_some_iff.mpr lists]

theorem accounts_ofEntries (holds : Holds tree path entries) :
    Accounts tree path (ofEntries path entries) where
  located := rfl
  failed _ same := nomatch same
  sound _ := ⟨entries, holds, rules_ofEntries path entries, length_ofEntries path entries⟩

theorem accounts_failed {problem : RuleFileProblem} (faulty : Faulty tree path problem) :
    Accounts tree path (failed path problem) where
  located := rfl
  failed known same := by
    cases same
    exact ⟨faulty, rfl, rfl⟩
  sound same := nomatch same

theorem accounts_of_read (succeeded : read tree path = .ok file) : Accounts tree path file := by
  unfold read at succeeded
  cases held : tree.document path with
  | error error =>
    have faulty := Faulty.unread error held
    rw [held] at succeeded
    cases error <;> cases succeeded <;> exact accounts_failed faulty
  | ok document =>
    rw [held] at succeeded
    cases succeeded
    unfold ofDocument
    cases listed : entries? document with
    | some entries => exact accounts_ofEntries ⟨document, held, entries?_eq_some_iff.mp listed⟩
    | none =>
      refine accounts_failed (.unlisted document held fun entries lists => ?_)
      rw [entries?_eq_some_iff.mpr lists] at listed
      cases listed

/-- Reading breaks down at documents that are nested too deep, and nowhere else. -/
theorem read_eq_error_iff {breakdown : Breakdown} :
    read tree path = .error breakdown ↔ breakdown = .nesting ∧ tree.HoldsDeepText path := by
  rw [← FileTree.document_nesting_iff]
  unfold read
  cases tree.document path with
  | ok document => simp
  | error error => cases error <;> simp [eq_comm]

/-- Reading a file accounts for its entries one by one, unless its text is nested too deep. An entry
more that is no rule, at any place, is one more left out and nothing else. -/
theorem read_accounts_for_entries (tree : FileTree) (path : Path) :
    (∀ file, read tree path = .ok file → Accounts tree path file) ∧
    (∀ breakdown, read tree path = .error breakdown ↔
      breakdown = .nesting ∧ tree.HoldsDeepText path) ∧
    ∀ (other : FileTree) (front back : List Json) (entry : Json),
      Holds tree path (front ++ back) → Holds other path (front ++ entry :: back) →
      (∀ rule, Rule.read entry ≠ .ok rule) →
      ∃ file, read tree path = .ok file ∧ file.problem = none ∧
        read other path = .ok { file with skipped := file.skipped + 1 } := by
  refine ⟨fun file succeeded => accounts_of_read succeeded, fun _ => read_eq_error_iff, ?_⟩
  intro other front back entry holds also refused
  refine ⟨ofEntries path (front ++ back), read_of_holds holds, rfl, ?_⟩
  rw [read_of_holds also, ofEntries_insert path front back refused]

end

open scoped Platform

/-- A working directory with one file of rules. -/
def holding (written : String) : FileTree := ⟨[
  (["home"], .directory),
  (FileTree.workingDirectory, .directory),
  (FileTree.workingDirectory ++ ["rules.json"], .file (.text written))]⟩

def heldPath : Path := ⟨.here, ["rules.json"]⟩

theorem holding_entry (written : String) :
    (holding written).entry heldPath = .ok (.file (.text written)) := by
  rfl

theorem holds_holding {written : String}
    (read : Json.readWithin Platform.deepestDocument written = .ok (.object [("rules", .array entries)])) :
    Holds (holding written) heldPath entries := by
  refine ⟨.object [("rules", .array entries)], ?_, _, rfl, rfl⟩
  unfold FileTree.document FileTree.read
  simp only [holding_entry, Content.document, read]

/-- Two rules, the second of which has null for its expressions. -/
def rulesText : String :=
  "\x7b\"rules\": [\x7b\"rule\": \"A\"\x7d, \x7b\"matches\": null\x7d]\x7d"

/-- The same rules around an entry that has an empty text for its expressions. -/
def mixedText : String :=
  "\x7b\"rules\": [\x7b\"rule\": \"A\"\x7d, \x7b\"matches\": \"\"\x7d, \x7b\"matches\": null\x7d]\x7d"

theorem mixed_accounted : ∃ front entry back,
    Holds (holding rulesText) heldPath (front ++ back) ∧
    Holds (holding mixedText) heldPath (front ++ entry :: back) ∧
    (∀ rule, Rule.read entry ≠ .ok rule) ∧ front.length = 1 ∧ back.length = 1 ∧
    ∃ file, read (holding rulesText) heldPath = .ok file ∧ file.problem = none ∧
      file.rules.map Rule.name = [some "A", none] ∧
      read (holding mixedText) heldPath = .ok { file with skipped := 1 } := by
  let front : List Json := [.object [("rule", .string "A")]]
  let entry : Json := .object [("matches", .string "")]
  let back : List Json := [.object [("matches", .null)]]
  have holds : Holds (holding rulesText) heldPath (front ++ back) := holds_holding (by cbv)
  have also : Holds (holding mixedText) heldPath (front ++ entry :: back) := holds_holding (by cbv)
  have refused (rule : Rule) : Rule.read entry ≠ .ok rule := by
    intro same
    cases same
  obtain ⟨file, read, fine, inserted⟩ := (read_accounts_for_entries (holding rulesText) heldPath).2.2
    (holding mixedText) front back entry holds also refused
  cases (read_of_holds holds).symm.trans read
  exact ⟨front, entry, back, holds, also, refused, rfl, rfl, _, read, fine, rfl, inserted⟩

/-- Of a document that is nested too deep no outcome tells. -/
theorem deep_document_untold :
    read (holding Catalog.deepArray) heldPath = .error .nesting ∧
    ¬∃ file, read (holding Catalog.deepArray) heldPath = .ok file := by
  have deep := Json.Reader.readWithin_of_brackets Platform.deepestDocument
    (List.replicate (Platform.deepestDocument + 1) ']')
  have broken : read (holding Catalog.deepArray) heldPath = .error .nesting :=
    read_eq_error_iff.mpr ⟨rfl, Catalog.deepArray, holding_entry _, deep⟩
  refine ⟨broken, ?_⟩
  rintro ⟨file, succeeded⟩
  rw [broken] at succeeded
  cases succeeded

end RuleFile
end ThreatAnalysis
