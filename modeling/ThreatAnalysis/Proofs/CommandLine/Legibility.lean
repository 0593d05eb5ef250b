import ThreatAnalysis.Proofs.Analysis.SeverityCounts
import ThreatAnalysis.Proofs.CommandLine.Showing

/-!
Texts that can be written. Half a pair in a text is no character, so that a line with it has markup
like any other but cannot be written to a terminal. What the program itself puts into a line can
always be written, and so can what escapes a text (`isWritable_escape`) and what replaces a part of
it (`Written.shownText`). So it depends on the texts of a diagram and of its findings whether a
report is shown as a whole (`report_failure_eq_none_iff`).
-/
namespace ThreatAnalysis

namespace Text
variable {part? : List Char → Option (Nat × List Char)} {text : List Char} {c : Char}

/-- What a text holds after replacing was there before or is put in place of a part. -/
theorem mem_replaceBehind {skip : Nat} (member : c ∈ replaceBehind part? skip text) :
    c ∈ text ∨ ∃ back behind replacement, back <:+ text ∧
      part? back = some (behind, replacement) ∧ c ∈ replacement := by
  induction text generalizing skip with
  | nil => cases member
  | cons first rest ih =>
    have later : ∀ {skip}, c ∈ replaceBehind part? skip rest →
        c ∈ first :: rest ∨ ∃ back behind replacement, back <:+ first :: rest ∧
          part? back = some (behind, replacement) ∧ c ∈ replacement := by
      intro skip within
      rcases ih within with kept | ⟨back, behind, replacement, ending, found, put⟩
      · exact .inl (List.mem_cons_of_mem _ kept)
      · exact .inr ⟨back, behind, replacement, ending.trans (List.suffix_cons _ _), found, put⟩
    cases skip with
    | succ skip => exact later member
    | zero =>
      rw [replaceBehind] at member
      split at member
      · rcases List.mem_cons.mp member with rfl | within
        · exact .inl List.mem_cons_self
        · exact later within
      · rcases List.mem_append.mp member with put | within
        · exact .inr ⟨_, _, _, List.suffix_rfl, ‹_›, put⟩
        · exact later within

theorem mem_replaceParts (member : c ∈ replaceParts part? text) :
    c ∈ text ∨ ∃ back behind replacement, back <:+ text ∧
      part? back = some (behind, replacement) ∧ c ∈ replacement :=
  mem_replaceBehind member

end Text

namespace Markup
variable {test : Char → Bool}

theorem all_doubleLast (passes : test '\\' = true) (text : List Char) :
    (doubleLast text).all test = text.all test := by
  rcases doubleLast_cases text with same | longer
  · rw [same]
  · simp [longer, passes]

/-- Escaping puts nothing but backslashes into a text. -/
theorem all_escapeTags (passes : test '\\' = true) (text : List Char) :
    (escapeTags text).all test = text.all test := by
  induction text with
  | nil => rfl
  | cons c rest ih =>
    rw [escapeTags]
    split
    · rw [List.all_cons, List.all_cons, List.all_cons, passes, ih, Bool.true_and]
    · rw [List.all_cons, List.all_cons, ih]

end Markup

namespace Terminal
variable [Platform] {text : String} {texts : List String}

/-- Every character of a text can be written. -/
def Written (text : List Char) : Prop := ∀ c ∈ text, Platform.unit? c = none

theorem isWritable_iff : isWritable text = true ↔ Written text.toList := by
  simp [isWritable, Written]

theorem isWritable_of_own (own : text.toList.all isOwnCharacter = true) : isWritable text = true :=
  isWritable_iff.mpr fun c member => Platform.unit?_own c (List.all_eq_true.mp own c member)

@[simp]
theorem isWritable_append (front back : String) :
    isWritable (front ++ back) = (isWritable front && isWritable back) := by
  simp [isWritable]

@[simp]
theorem isWritable_escape (text : String) : isWritable (Markup.escape text) = isWritable text := by
  have passes : (Platform.unit? '\\').isNone = true := by
    rw [Platform.unit?_own '\\' (by decide)]
    rfl
  unfold isWritable Markup.escape
  rw [String.toList_ofList, Markup.all_doubleLast passes, Markup.all_escapeTags passes]

/-- Texts that can be written can be written with such a text between them. -/
theorem isWritable_intercalate {between : String} (own : isWritable between = true)
    (each : ∀ text ∈ texts, isWritable text = true) :
    isWritable (between.intercalate texts) = true := by
  induction texts with
  | nil => rfl
  | cons text rest ih =>
    obtain ⟨first, others⟩ := List.forall_mem_cons.mp each
    cases rest with
    | nil => simpa using first
    | cons next rest =>
      rw [String.intercalate_cons_cons, isWritable_append, isWritable_append, first, own, ih others]
      rfl

/-! What is shown of a text. -/

variable {characters : List Char}

/-- A bracket behind a backslash can be written. -/
theorem Written.escaped (written : Written characters) :
    Written (Text.replaceParts Markup.escapedBracket? characters) := by
  intro c member
  rcases Text.mem_replaceParts member with kept | ⟨back, _, _, -, found, put⟩
  · exact written c kept
  · unfold Markup.escapedBracket? at found
    split at found
    · cases found
      obtain rfl := List.mem_singleton.mp put
      exact Platform.unit?_own '[' (by decide)
    · cases found

theorem written_form (name : List Char) : Written (Emoji.divide name).2 := by
  have own : ∀ form ∈ Emoji.forms, form.2.all isOwnCharacter = true := by decide
  intro c member
  unfold Emoji.divide at member
  split at member
  · rename_i mark form found
    have forms := own (mark, form) (List.mem_of_find?_eq_some found)
    exact Platform.unit?_own c (List.all_eq_true.mp forms c member)
  · cases member

/-- An emoji can be written in each of its forms. -/
theorem written_emoji {name shown : List Char} (found : Emoji.shown? name = some shown) :
    Written shown := by
  obtain ⟨emoji, named, rfl⟩ := Option.map_eq_some_iff.mp found
  intro c member
  rcases List.mem_append.mp member with drawn | form
  · exact Platform.unit?_emoji _ _ named c drawn
  · exact written_form name c form

theorem Written.replaced (written : Written characters) : Written (Emoji.replace characters) := by
  intro c member
  rcases Text.mem_replaceParts member with kept | ⟨back, _, _, ending, found, put⟩
  · exact written c kept
  · unfold Emoji.code? at found
    split at found
    case h_2 => cases found
    case h_1 rest =>
      dsimp only at found
      split at found
      case h_2 => cases found
      case h_1 =>
        cases found
        cases drawn : Emoji.shown? (rest.takeWhile fun c => c ≠ ':' && !Text.isBlank c) with
        | some shown =>
          rw [drawn, Option.getD_some] at put
          exact written_emoji drawn c put
        | none =>
          rw [drawn, Option.getD_none] at put
          rcases List.mem_append.mp put with named | colon
          · rcases List.mem_cons.mp named with rfl | within
            · exact Platform.unit?_own ':' (by decide)
            · exact written c (ending.mem (List.mem_cons_of_mem _
                ((List.takeWhile_prefix _).mem within)))
          · obtain rfl := List.mem_singleton.mp colon
            exact Platform.unit?_own ':' (by decide)

/-- What is shown of a text that can be written can be written. -/
theorem Written.shownText (written : Written characters) : Written (Markup.shownText characters) :=
  fun c member => written.escaped.replaced c (List.mem_filter.mp member).1

/-! Texts below one another. -/

/-- Texts with correct markup are shown, one below the other, if all of them can be written. -/
theorem stack_eq_none_iff (each : ∀ text ∈ texts, ∃ shown, Markup.shown text = .ok shown) :
    (stack texts).2 = none ↔ ∀ text ∈ texts, isWritable text = true := by
  induction texts with
  | nil => simp [stack]
  | cons text rest ih =>
    obtain ⟨⟨line, read⟩, others⟩ := List.forall_mem_cons.mp each
    cases writable : isWritable text with
    | true => simpa [stack, shown, read, writable] using ih others
    | false => simp [stack, shown, read, writable]

end Terminal

namespace CommandLine
open Terminal
variable [Platform] {files : FileTree} {texts : List String} {report : Report}

theorem shown_failure_eq_none_iff (files : FileTree)
    (each : ∀ text ∈ texts, ∃ shown, Markup.shown text = .ok shown) :
    (RunOutcome.shown files texts).failure = none ↔ ∀ text ∈ texts, isWritable text = true := by
  rw [← stack_eq_none_iff each]
  unfold RunOutcome.shown
  rcases stack texts with ⟨lines, failed⟩
  exact Option.map_eq_none_iff

/-- The digits of a number can be written. -/
theorem isWritable_digits (count : Nat) : isWritable count.repr = true := by
  refine isWritable_of_own (List.all_eq_true.mpr fun c member => ?_)
  rw [Nat.repr, String.toList_ofList] at member
  have digit := Nat.isDigit_of_mem_toDigits (by decide) (by decide) member
  have most : c.val ≤ 57 := by
    unfold Char.isDigit at digit
    simpa using (Bool.and_eq_true_iff.mp digit).2
  have ascii : c.toNat < 0x80 := Nat.lt_of_le_of_lt (UInt32.le_iff_toNat_le.mp most) (by decide)
  rw [isOwnCharacter, decide_eq_true ascii, Bool.true_or]

theorem isWritable_colorOf (severity : String) : isWritable (colorOf severity) = true := by
  have own : ∀ style ∈ Markup.ownStyles, style.toList.all isOwnCharacter = true := by decide
  exact isWritable_of_own (own _ (colorOf_own severity))

theorem isWritable_describe (info : EngineInfo) : isWritable info.describe = true := by
  unfold EngineInfo.describe
  split <;> simp (disch := decide) [isWritable_digits, isWritable_of_own]

/-- A text that is shown as it stands: no tag starts in it, and all of it can be written. -/
structure Plain (text : String) : Prop where
  tagless : Markup.Tagless text.toList
  writable : isWritable text = true

/-- The heading of an analysis is shown. -/
theorem heading_failure {name : String} (plain : Plain name) (files : FileTree) :
    (RunOutcome.shown files ["\n[bold]Threat Map[/bold] v" ++ version ++ "\n",
      "Analyzing: [cyan]" ++ name ++ "[/cyan]\n"]).failure = none := by
  rw [shown_failure_eq_none_iff files (shown_heading plain.tagless)]
  simp (disch := decide) [plain.writable, version, isWritable_of_own]

/-- The line for a report that was written is shown. -/
theorem saved_failure {name : String} (plain : Plain name) (files : FileTree) :
    (RunOutcome.shown files ["\n[green]Report saved to:[/green] " ++ name]).failure = none := by
  rw [shown_failure_eq_none_iff files (shown_saved plain.tagless)]
  simp (disch := decide) [plain.writable, isWritable_of_own]

/-- The texts of a finding that are shown, with the name of its cell. -/
def shownTexts (cell : Cell) (finding : Finding) : List String :=
  [finding.severity, finding.title, cell.nameOr cell.id, finding.category, finding.mitigation]

/-- Every text of a report that is shown can be written. -/
structure Legible (report : Report) : Prop where
  title : isWritable report.diagram.displayTitle = true
  findings : ∀ cell finding, (cell, finding) ∈ report.findings →
    ∀ text ∈ shownTexts cell finding, isWritable text = true

theorem findingMarkup_writable_iff {cell : Cell} {finding : Finding} :
    (∀ text ∈ findingMarkup cell finding, isWritable text = true) ↔
      ∀ text ∈ shownTexts cell finding, isWritable text = true := by
  unfold findingMarkup shownTexts
  by_cases none : finding.mitigation.isEmpty
  · have blank : finding.mitigation = "" := by simpa using none
    simp (disch := decide) [blank, isWritable_colorOf, isWritable_of_own, and_assoc]
  · simp (disch := decide) [none, isWritable_colorOf, isWritable_of_own, and_assoc]

theorem summary_writable_iff :
    isWritable (summaryMarkup report) = isWritable report.diagram.displayTitle := by
  have written : summaryMarkup report = "Summary\nDiagram: " ++ report.diagram.displayTitle ++
      "\nCells: " ++ toString report.diagram.cells.length ++ "\nRules: " ++
      report.engine.describe := by
    apply String.ext
    simp [summaryMarkup]
  rw [written]
  simp (disch := decide) [isWritable_digits, isWritable_describe, isWritable_of_own]

theorem threats_writable_iff : (∀ text ∈ threatMarkup report, isWritable text = true) ↔
    ∀ cell finding, (cell, finding) ∈ report.findings →
      ∀ text ∈ shownTexts cell finding, isWritable text = true := by
  have ranking : ∀ found, found ∈ report.ranked ↔ found ∈ report.findings :=
    fun found => report.ranked_perm.mem_iff
  unfold threatMarkup
  by_cases none : report.diagram.threatCount = 0
  · have empty : report.findings = [] := by
      rw [← report.length_ranked, report.ranked_perm.length_eq, List.length_eq_zero_iff] at none
      exact none
    simp (disch := decide) [none, empty, isWritable_of_own]
  · rw [if_neg none, List.forall_mem_append, List.forall_mem_singleton, List.forall_mem_flatMap]
    simp (disch := decide) [ranking, findingMarkup_writable_iff, isWritable_digits,
      isWritable_of_own]

/-- A report without tags is shown if the texts of its diagram and its findings can be written. -/
theorem report_failure_eq_none_iff (unmarked : Unmarked report) (files : FileTree) :
    (RunOutcome.shown files (summaryMarkup report :: threatMarkup report)).failure = none ↔
      Legible report := by
  rw [shown_failure_eq_none_iff files (shown_report unmarked), List.forall_mem_cons,
    summary_writable_iff, threats_writable_iff]
  exact ⟨fun both => ⟨both.1, both.2⟩, fun legible => ⟨legible.title, legible.findings⟩⟩

end CommandLine
end ThreatAnalysis
