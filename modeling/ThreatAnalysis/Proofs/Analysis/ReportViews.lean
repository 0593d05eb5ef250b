import Mathlib.Algebra.GroupWithZero.Nat
import ThreatAnalysis.Proofs.Analysis.Frame
import ThreatAnalysis.Proofs.Analysis.SeverityCounts

/-!
The views of a report. The number of findings, the counts by severity, the ranking, the listing of
the summary and the written diagram are five passes over the same cells, and each of them sees every
finding exactly once (`views_agree`).

1. The counts are a tally: whatever was counted before, one more text adds one to its own count and
   no key comes to stand twice (`Tally.step`).
2. The ranking is stable: the findings at one place of the order of severity are a sublist of all
   findings, and stay one (`Severity.sortBy_stable`).
3. Only fields that were given are written. A cell whose findings were never given has none, so
   that nothing is missing where no threats are written (`entriesUnder_threats`).
-/
namespace ThreatAnalysis

namespace Severity
variable {α : Type} (severity : α → String) (items : List α)

private theorem notBehind_trans (first second third : α)
    (front : decide (rank (severity first) ≤ rank (severity second)) = true)
    (back : decide (rank (severity second) ≤ rank (severity third)) = true) :
    decide (rank (severity first) ≤ rank (severity third)) = true := by
  simp only [decide_eq_true_eq] at front back ⊢
  omega

private theorem notBehind_total (first second : α) :
    (decide (rank (severity first) ≤ rank (severity second)) ||
      decide (rank (severity second) ≤ rank (severity first))) = true := by
  simp only [Bool.or_eq_true, decide_eq_true_eq]
  omega

/-- In a ranking nothing stands behind what is less severe. -/
theorem sortBy_pairwise : (sortBy severity items).Pairwise
    fun first second => rank (severity first) ≤ rank (severity second) := by
  have sorted := List.pairwise_mergeSort (notBehind_trans severity) (notBehind_total severity) items
  simpa only [sortBy, decide_eq_true_eq] using sorted

/-- Items with one place in the order of severity keep their order. -/
theorem sortBy_stable (place : Nat) :
    (sortBy severity items).filter (fun item => rank (severity item) == place) =
      items.filter (fun item => rank (severity item) == place) := by
  have level : (items.filter fun item => rank (severity item) == place).Pairwise
      fun first second => decide (rank (severity first) ≤ rank (severity second)) = true := by
    apply List.pairwise_of_forall_mem_list
    intro first listed second alsoListed
    have here := (List.mem_filter.mp listed).2
    have there := (List.mem_filter.mp alsoListed).2
    simp only [beq_iff_eq] at here there
    simp [here, there]
  have kept : (items.filter fun item => rank (severity item) == place).Sublist
      (sortBy severity items) :=
    List.sublist_mergeSort (notBehind_trans severity) (notBehind_total severity) level
      List.filter_sublist
  -- The sublist lies at one place, so that filtering the ranking again loses none of it.
  have whole := kept.filter fun item => rank (severity item) == place
  simp only [List.filter_filter, Bool.and_self] at whole
  apply Eq.symm
  apply whole.eq_of_length
  exact ((List.mergeSort_perm items _).filter _).length_eq.symm

end Severity

namespace Report
open Severity

/-- Counts by text for a list of texts: every text that occurs has one entry, and the counts add up
to the number of texts. -/
structure Tally (texts : List String) (counts : List (String × Nat)) : Prop where
  once : (counts.map Prod.fst).Nodup
  keys : ∀ text, text ∈ counts.map Prod.fst ↔ text ∈ texts
  total : (counts.map Prod.snd).sum = texts.length

theorem mem_keys_countText (text key : String) (counts : List (String × Nat)) :
    key ∈ (countText text counts).map Prod.fst ↔ key = text ∨ key ∈ counts.map Prod.fst := by
  induction counts with
  | nil => simp [countText]
  | cons entry rest ih =>
    obtain ⟨known, count⟩ := entry
    rw [countText]
    by_cases same : known = text
    · simp [same]
    · rw [if_neg same, List.map_cons, List.mem_cons, ih, List.map_cons, List.mem_cons]
      exact or_left_comm

theorem nodup_countText (text : String) {counts : List (String × Nat)}
    (once : (counts.map Prod.fst).Nodup) : ((countText text counts).map Prod.fst).Nodup := by
  induction counts with
  | nil => simp [countText]
  | cons entry rest ih =>
    obtain ⟨known, count⟩ := entry
    obtain ⟨fresh, later⟩ := List.nodup_cons.mp once
    rw [countText]
    by_cases same : known = text
    · rw [if_pos same]
      exact once
    · rw [if_neg same]
      apply List.nodup_cons.mpr
      refine ⟨?_, ih later⟩
      intro counted
      rcases (mem_keys_countText text known rest).mp counted with equal | before
      · exact same equal
      · exact fresh before

theorem sum_countText (text : String) (counts : List (String × Nat)) :
    ((countText text counts).map Prod.snd).sum = (counts.map Prod.snd).sum + 1 := by
  induction counts with
  | nil => simp [countText]
  | cons entry rest ih =>
    obtain ⟨known, count⟩ := entry
    rw [countText]
    by_cases same : known = text
    · simp only [if_pos same, List.map_cons, List.sum_cons]
      omega
    · simp only [if_neg same, List.map_cons, List.sum_cons, ih]
      omega

/-- Counting one more text. -/
theorem Tally.step {texts : List String} {counts : List (String × Nat)}
    (tally : Tally texts counts) (text : String) :
    Tally (texts ++ [text]) (countText text counts) where
  once := nodup_countText text tally.once
  keys key := by
    rw [mem_keys_countText, tally.keys, List.mem_append, List.mem_singleton]
    exact or_comm
  total := by rw [sum_countText, tally.total, List.length_append, List.length_singleton]

theorem Tally.run {texts : List String} {counts : List (String × Nat)}
    (tally : Tally texts counts) (findings : List (Cell × Finding)) :
    Tally (texts ++ findings.map fun (_, finding) => finding.severity)
      (findings.foldl (fun counts (_, finding) => countText finding.severity counts) counts) := by
  induction findings generalizing texts counts with
  | nil => simpa using tally
  | cons entry rest ih =>
    have more := ih (tally.step entry.2.severity)
    rw [List.append_assoc] at more
    exact more

theorem lookup_of_mem {counts : List (String × Nat)} (once : (counts.map Prod.fst).Nodup)
    {text : String} {count : Nat} (listed : (text, count) ∈ counts) :
    counts.lookup text = some count := by
  induction counts with
  | nil => cases listed
  | cons entry rest ih =>
    obtain ⟨known, number⟩ := entry
    obtain ⟨fresh, later⟩ := List.nodup_cons.mp once
    rcases List.mem_cons.mp listed with first | behind
    · cases first
      exact List.lookup_cons_self
    · have different : text ≠ known := by
        rintro rfl
        exact fresh (List.mem_map.mpr ⟨_, behind, rfl⟩)
      rw [List.lookup_cons, beq_false_of_ne different]
      exact ih later behind

theorem tally_countBySeverity (report : Report) :
    Tally (report.findings.map fun (_, finding) => finding.severity) report.countBySeverity := by
  have start : Tally [] [] := ⟨List.nodup_nil, fun _ => Iff.rfl, rfl⟩
  exact start.run report.findings

/-- The counts list every text that occurs with the number of its occurrences, and no other. -/
theorem mem_countBySeverity (report : Report) (text : String) (count : Nat) :
    (text, count) ∈ report.countBySeverity ↔ 0 < count ∧
      count = report.findings.countP fun (_, finding) => finding.severity == text := by
  have tally := report.tally_countBySeverity
  have counted : report.countOf text =
      report.findings.countP fun (_, finding) => finding.severity == text := by
    rw [countOf_eq_count, report.severities_perm.count_eq, List.count, List.countP_map]
    rfl
  have found (number : Nat) (listed : (text, number) ∈ report.countBySeverity) :
      number = report.countOf text := by
    rw [countOf, lookup_of_mem tally.once listed, Option.getD_some]
  have occurs : text ∈ report.countBySeverity.map Prod.fst ↔ 0 < report.countOf text := by
    rw [tally.keys, counted, List.countP_pos_iff]
    simp
  rw [← counted]
  constructor
  · intro listed
    have exact := found count listed
    refine ⟨?_, exact⟩
    rw [exact]
    exact occurs.mp (List.mem_map_of_mem listed)
  · rintro ⟨positive, rfl⟩
    obtain ⟨⟨key, number⟩, listed, rfl⟩ := List.mem_map.mp (occurs.mpr positive)
    rw [← found number listed]
    exact listed

/-- The number of entries of the array under a key; there are none if there is no such array. -/
def entriesUnder (key : String) (document : Json) : Nat :=
  match document.get? key with
  | some (.array entries) => entries.length
  | _ => 0

/-- As many threats are written for a cell as it has findings, whether they were given or not. -/
theorem entriesUnder_threats {cell : Cell} (faithful : cell.Faithful) :
    entriesUnder "threats" (cell.encode .given) = cell.findings.length := by
  have written : (cell.encode .given).get? "threats" =
      (cell.given .threats).map (Cell.schema.write .given .threats) :=
    faithful.get?_key Cell.lawful .threats
  unfold entriesUnder Cell.findings Record.get
  rw [written]
  cases cell.given .threats with
  | none => rfl
  | some findings => exact List.length_map _

/-- The lines of an entry in the listing of a summary: how severe the finding is and what it says,
the cell it is on, the beginning of the mitigation if there is one, and an empty line. -/
inductive Entry : Cell × Finding → List String → Prop where
  | bare (cell : Cell) (finding : Finding) (unmitigated : finding.mitigation = "") :
      Entry (cell, finding) ["  [" ++ finding.severity ++ "] " ++ finding.title,
        "    Cell: " ++ cell.nameOr cell.id ++ " (" ++ finding.category ++ ")", ""]
  | mitigated (cell : Cell) (finding : Finding) (given : finding.mitigation ≠ "") :
      Entry (cell, finding) ["  [" ++ finding.severity ++ "] " ++ finding.title,
        "    Cell: " ++ cell.nameOr cell.id ++ " (" ++ finding.category ++ ")",
        "    Mitigation: " ++ String.ofList (finding.mitigation.toList.take shownMitigation), ""]

theorem entry_findingLines (cell : Cell) (finding : Finding) :
    Entry (cell, finding) (findingLines cell finding) := by
  unfold findingLines
  by_cases none : finding.mitigation = ""
  · simpa [none] using Entry.bare cell finding none
  · simpa [none] using Entry.mitigated cell finding none

/-- The line of a summary with the number of findings of exactly this severity. -/
def levelLine (report : Report) (severity : String) : String :=
  "  " ++ severity ++ ": " ++
    toString (report.findings.countP fun pair => pair.2.severity == severity)

/-- The lines of a summary in front of its listing. -/
def generalLines (report : Report) : List String :=
  ["Threat Map Analysis: " ++ report.source,
    "==================================================",
    "",
    "Diagram: " ++ (if report.diagram.title = "" then "Untitled" else report.diagram.title),
    "Cells: " ++ toString report.diagram.cells.length,
    "Rules: " ++ toString report.engine.baselineRules ++ " baseline, " ++
      toString report.engine.supplementalRules ++ " supplemental (" ++
      (if report.engine.supplementalEnabled then "enabled" else "disabled") ++ ")",
    "",
    "Threats: " ++ toString report.diagram.threatCount ++ " total",
    report.levelLine "Critical", report.levelLine "High", report.levelLine "Medium",
    report.levelLine "Low",
    ""]

theorem countOf_eq_countP (report : Report) (text : String) :
    report.countOf text = report.findings.countP fun pair => pair.2.severity == text := by
  rw [countOf_eq_count, report.severities_perm.count_eq, List.count, List.countP_map]
  rfl

theorem summaryLines_eq (report : Report) :
    report.summaryLines = report.generalLines ++ report.topLines := by
  have underline : "".pushn '=' 50 = "==================================================" := by
    decide +kernel
  have levels (level : Severity) : "  " ++ level.name ++ ": " ++
      toString (report.countOf level.name) = report.levelLine level.name := by
    rw [countOf_eq_countP, levelLine]
  simp only [summaryLines, Severity.all, List.map_cons, List.map_nil, levels, underline]
  simp [generalLines, Severity.name, EngineInfo.describe, Diagram.displayTitle, String.append_assoc]

/-- What a summary lists: behind its general lines there is one entry for each of some findings with
their cells, in order, under a heading, and nothing at all if there are none. -/
def Lists (report : Report) (listed : List (Cell × Finding)) : Prop :=
  ∃ entries, List.Forall₂ Entry listed entries ∧
    report.summary = "\n".intercalate (report.generalLines ++
      (if listed.isEmpty then [] else ["Top Threats:", "".pushn '-' 30]) ++ entries.flatten)

theorem lists_ranked (report : Report) :
    report.Lists (report.ranked.take (min 10 report.diagram.threatCount)) := by
  have first : report.ranked.take (min 10 report.diagram.threatCount) =
      report.ranked.take shownFindings := by
    rw [← report.length_ranked, ← List.take_eq_take_min]
    rfl
  have empty : (report.ranked.take shownFindings).isEmpty = true ↔
      report.diagram.threatCount = 0 := by
    rw [← report.length_ranked]
    simp [shownFindings]
  rw [first]
  refine ⟨(report.ranked.take shownFindings).map fun (cell, finding) => findingLines cell finding,
    ?_, ?_⟩
  · rw [List.forall₂_map_right_iff, List.forall₂_same]
    rintro ⟨cell, finding⟩ -
    exact entry_findingLines cell finding
  · have top : report.topLines = (if (report.ranked.take shownFindings).isEmpty then []
        else ["Top Threats:", "".pushn '-' 30]) ++
          (report.ranked.take shownFindings).flatMap fun (cell, finding) =>
            findingLines cell finding := by
      unfold topLines
      by_cases none : report.diagram.threatCount = 0
      · have silent := List.isEmpty_iff.mp (empty.mpr none)
        simp [none, silent]
      · simp [none, empty]
    rw [summary, ← List.flatMap_def, List.append_assoc, ← top, ← summaryLines_eq]

section Views
variable [Platform]

/-- How the views of a report agree. -/
structure Agreeing (report : Report) : Prop where
  ranked : report.ranked.length = report.diagram.threatCount
  counted : (report.countBySeverity.map Prod.snd).sum = report.diagram.threatCount
  /-- The document of the report holds the same counts. -/
  summary : ∃ document, report.write.get? "summary" = some document ∧
    document.get? "threat_count" = some (.int report.diagram.threatCount) ∧
    document.get? "by_severity" =
      some (.object (report.countBySeverity.map fun (text, count) => (text, .int count)))
  written : ∃ document cells, report.write.get? "diagram" = some document ∧
    document.get? "cells" = some (.array cells) ∧
    (cells.map (entriesUnder "threats")).sum = report.diagram.threatCount
  permuted : report.ranked.Perm report.findings
  descending : report.ranked.Pairwise
    fun first second => rank first.2.severity ≤ rank second.2.severity
  stable : ∀ place, report.ranked.filter (fun pair => rank pair.2.severity == place) =
    report.findings.filter fun pair => rank pair.2.severity == place
  /-- Each text that occurs is counted once, with all its occurrences. -/
  counts : (report.countBySeverity.map Prod.fst).Nodup ∧
    ∀ text count, (text, count) ∈ report.countBySeverity ↔
      0 < count ∧ count = report.findings.countP fun pair => pair.2.severity == text
  listed : report.Lists (report.ranked.take (min 10 report.diagram.threatCount))

/-- Whatever diagram a report is on, read or analyzed any number of times, its views agree. -/
theorem views_agree (report : Report) (held : Diagram.Held report.diagram) : report.Agreeing where
  ranked := report.length_ranked
  counted := by
    rw [report.tally_countBySeverity.total, List.length_map, ← report.length_ranked]
    exact report.ranked_perm.length_eq.symm
  summary := ⟨_, rfl, rfl, rfl⟩
  written := by
    have faithful : ∀ cell ∈ report.diagram.cells, cell.Faithful := by
      intro cell member
      exact Schema.faithful_of_decode Cell.lawful (Diagram.cells_reread held.faithful member)
    refine ⟨_, _, rfl, Analysis.get?_cells held.faithful, ?_⟩
    have each : (report.diagram.cells.map (·.encode .given)).map (entriesUnder "threats") =
        report.diagram.cells.map fun cell => cell.findings.length := by
      rw [List.map_map]
      apply List.map_congr_left
      intro cell member
      exact entriesUnder_threats (faithful cell member)
    rw [each, Diagram.threatCount, List.length_flatMap]
  permuted := report.ranked_perm
  descending := sortBy_pairwise _ report.findings
  stable := sortBy_stable _ report.findings
  counts := ⟨report.tally_countBySeverity.once, report.mem_countBySeverity⟩
  listed := report.lists_ranked

end Views

open scoped Platform

/-- Two cells out of scope, one of them without threats, and a cell in scope with a finding written
by hand; some severities are of one level in two spellings, some of none. -/
def mixedScopePayload : Json :=
  .object [("nodes", .array [
    .object [("id", .string "a"), ("outOfScope", .bool true), ("findings", .array [
      .object [("severity", .string "Odd")], .object [("severity", .string " critical ")]])],
    .object [("id", .string "b"), ("outOfScope", .bool true)],
    .object [("id", .string "c"), ("type", .string "tm.Actor"), ("threats", .array [
      .object [("severity", .string "Critical"), ("mitigation", .string "Look again")]])]])]

def mixedScopeDiagram : Diagram := (Diagram.read mixedScopePayload).toOption.getD Record.empty

def actorCatalog : Catalog := ⟨[(Record.empty : Rule).set .expressions ["isActor"]], [], []⟩

def mixedScopeReport : Report := .ofRun "<payload>" mixedScopeDiagram actorCatalog true none

theorem mixedScope_views_agree : Diagram.Held mixedScopeReport.diagram ∧
    mixedScopeReport.diagram.threatCount = 4 ∧ mixedScopeReport.Agreeing := by
  have held : Diagram.Held mixedScopeReport.diagram :=
    .analyze (some actorCatalog) true ⟨[]⟩ none mixedScopeDiagram _ (.read mixedScopePayload _ rfl) rfl
  exact ⟨held, rfl, views_agree mixedScopeReport held⟩

end Report
end ThreatAnalysis
