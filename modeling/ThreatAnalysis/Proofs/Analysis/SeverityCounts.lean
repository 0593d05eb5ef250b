import ThreatAnalysis.Analysis.Report

/-!
The counts of a summary against the ranking of its findings. A severity text is ranked by the
level that it names, in any letter case and with blanks around it; but it counts for a level only
if it is the name of that level as it is written. So the number that a summary prints for a level
lacks exactly the findings that are ranked there in another spelling (`count_add_countRespelled`),
and the printed numbers add up to the printed total only if there are none
(`summary_counts_exact_names`).
-/
namespace ThreatAnalysis

namespace Severity

theorem ofText?_name (level : Severity) : ofText? level.name = some level := by
  cases level <;> decide

theorem place_lt (level : Severity) : level.place < all.length := by
  cases level <;> decide

theorem place_injective {first second : Severity} (same : first.place = second.place) :
    first = second := by
  cases first <;> cases second <;> first | rfl | cases same

theorem rank_eq_place_iff {text : String} {level : Severity} :
    rank text = level.place ↔ ofText? text = some level := by
  unfold rank
  cases named : ofText? text with
  | none =>
    have behind := level.place_lt
    simp only [reduceCtorEq, iff_false]
    omega
  | some other =>
    simp only [Option.some.injEq]
    exact ⟨place_injective, congrArg place⟩

/-- A text that names a level is spelled as the name of it is. -/
def Spelled (text : String) : Prop :=
  ∀ level, ofText? text = some level → text = level.name

/-- The sum of a number for each level. -/
def sum (count : Severity → Nat) : Nat :=
  all.foldr (fun level rest => count level + rest) 0

theorem sum_add (first second : Severity → Nat) :
    sum (fun level => first level + second level) = sum first + sum second := by
  simp only [sum, all, List.foldr_cons, List.foldr_nil]
  omega

theorem sum_eq_zero_iff {count : Severity → Nat} : sum count = 0 ↔ ∀ level, count level = 0 := by
  constructor
  · intro none level
    simp only [sum, all, List.foldr_cons, List.foldr_nil] at none
    cases level <;> omega
  · intro each
    simp [sum, all, each]

section Texts
variable (texts : List String)

/-- How many of the texts have a place in the order of severity. -/
def countAt (place : Nat) : Nat :=
  texts.countP fun text => rank text == place

/-- How many of the texts name a level in another spelling. -/
def countRespelled (level : Severity) : Nat :=
  texts.countP fun text => rank text == level.place && text != level.name

/-- Among the texts at the place of a level are all that are its name. -/
theorem count_add_countRespelled (level : Severity) :
    texts.count level.name + countRespelled texts level = countAt texts level.place := by
  have exact (text : String) (_ : text ∈ texts) :
      (rank text == level.place && text == level.name) = true ↔ (text == level.name) = true := by
    simp only [Bool.and_eq_true, beq_iff_eq, and_iff_right_iff_imp]
    rintro rfl
    exact rank_eq_place_iff.mpr level.ofText?_name
  rw [countAt, List.countP_eq_countP_filter_add texts _ (· == level.name), List.countP_filter,
    List.countP_filter, List.countP_congr exact]
  rfl

theorem countRespelled_eq_zero_iff (level : Severity) : countRespelled texts level = 0 ↔
    ∀ text ∈ texts, ofText? text = some level → text = level.name := by
  simp [countRespelled, List.countP_eq_zero, rank_eq_place_iff]

/-- Every text has the place of one level, or the place behind all of them. -/
theorem one_place (text : String) :
    sum (fun level => if rank text == level.place then 1 else 0) +
      (if rank text == all.length then 1 else 0) = 1 := by
  cases named : ofText? text with
  | none => simp [sum, rank, named, all, place]
  | some level => cases level <;> simp [sum, rank, named, all, place]

theorem sum_countAt :
    sum (fun level => countAt texts level.place) + countAt texts all.length = texts.length := by
  induction texts with
  | nil => rfl
  | cons text rest ih =>
    have one := one_place text
    simp only [countAt, List.countP_cons, sum_add, List.length_cons] at ih ⊢
    omega

/-- What the counts of the names lack, they lack because of other spellings. -/
theorem sum_count_eq_length_iff :
    sum (fun level => texts.count level.name) + countAt texts all.length = texts.length ↔
      ∀ text ∈ texts, Spelled text := by
  have lacking : sum (fun level => texts.count level.name) + sum (countRespelled texts) =
      sum fun level => countAt texts level.place := by
    rw [← sum_add]
    simp only [count_add_countRespelled]
  have none : sum (countRespelled texts) = 0 ↔ ∀ text ∈ texts, Spelled text := by
    simp only [sum_eq_zero_iff, countRespelled_eq_zero_iff, Spelled]
    constructor
    · intro each text member level
      exact each level text member
    · intro each level text member
      exact each text member level
  have whole := sum_countAt texts
  rw [← none]
  omega

end Texts
end Severity

namespace Report
open Severity

/-- The severity texts of the findings, in the order of their ranking. -/
def severities (report : Report) : List String :=
  report.ranked.map fun (_, finding) => finding.severity

/-- The summary gives the number of all findings, and a number for each level. -/
structure Prints (report : Report) (total : Nat) (counts : Severity → Nat) : Prop where
  total : report.summaryLines[7]? = some ("Threats: " ++ toString total ++ " total")
  levels : ∀ level, report.summaryLines[8 + level.place]? =
    some ("  " ++ level.name ++ ": " ++ toString (counts level))

/-- The ranking neither adds nor drops a finding. -/
theorem ranked_perm (report : Report) : report.ranked.Perm report.findings :=
  List.mergeSort_perm _ _

theorem length_ranked (report : Report) : report.ranked.length = report.diagram.threatCount := by
  rw [report.ranked_perm.length_eq]
  simp [findings, Diagram.threatCount, List.length_flatMap]

theorem lookup_countText (text key : String) (counts : List (String × Nat)) :
    ((countText text counts).lookup key).getD 0 =
      (counts.lookup key).getD 0 + if text = key then 1 else 0 := by
  induction counts with
  | nil =>
    by_cases same : text = key
    · simp [countText, same]
    · have other : (key == text) = false := by simpa using fun equal => same equal.symm
      simp [countText, List.lookup_cons, other, same]
  | cons entry rest ih =>
    obtain ⟨known, count⟩ := entry
    by_cases found : key = known
    · subst found
      by_cases same : key = text
      · simp [countText, same]
      · have other : ¬ text = key := fun equal => same equal.symm
        simp [countText, same, other]
    · have passed : (key == known) = false := by simpa using found
      by_cases same : known = text
      · subst same
        have other : ¬ known = key := fun equal => found equal.symm
        simp [countText, List.lookup_cons, passed, other]
      · simpa [countText, same, List.lookup_cons, passed] using ih

/-- Whatever was counted before, each finding adds one to the count of its own text. -/
theorem lookup_counts (findings : List (Cell × Finding)) (counts : List (String × Nat))
    (key : String) :
    ((findings.foldl (fun counts (_, finding) => countText finding.severity counts) counts).lookup
        key).getD 0 =
      (counts.lookup key).getD 0 +
        (findings.map fun (_, finding) => finding.severity).count key := by
  induction findings generalizing counts with
  | nil => rfl
  | cons entry rest ih =>
    obtain ⟨cell, finding⟩ := entry
    rw [List.foldl_cons, ih, lookup_countText, List.map_cons, List.count_cons]
    simp only [beq_iff_eq]
    omega

theorem severities_perm (report : Report) :
    report.severities.Perm (report.findings.map fun (_, finding) => finding.severity) :=
  report.ranked_perm.map _

theorem countOf_eq_count (report : Report) (text : String) :
    report.countOf text = report.severities.count text := by
  rw [report.severities_perm.count_eq, countOf, countBySeverity, lookup_counts]
  simp

theorem prints_counts (report : Report) :
    report.Prints report.ranked.length fun level => report.severities.count level.name where
  total := by
    rw [length_ranked]
    rfl
  levels level := by
    rw [← countOf_eq_count]
    cases level <;> rfl

/-- The number printed for a level lacks exactly the findings that are ranked there with a text
other than the name of the level. So it is the number of findings that are ranked there exactly if
all of them have that text, and the printed numbers and the findings of unknown severity add up to
the printed total exactly if this is so of every level. -/
theorem summary_counts_exact_names (report : Report) : ∃ printed : Severity → Nat,
    report.Prints report.ranked.length printed ∧
    (∀ level, printed level + countRespelled report.severities level =
      countAt report.severities level.place) ∧
    (∀ level, printed level = countAt report.severities level.place ↔
      ∀ text ∈ report.severities, ofText? text = some level → text = level.name) ∧
    (sum printed + countAt report.severities all.length = report.ranked.length ↔
      ∀ text ∈ report.severities, Spelled text) := by
  have lacks := count_add_countRespelled report.severities
  refine ⟨_, report.prints_counts, lacks, ?_, ?_⟩
  · intro level
    have lack := lacks level
    rw [← countRespelled_eq_zero_iff]
    omega
  · have total := sum_count_eq_length_iff report.severities
    rwa [severities, List.length_map] at total

open scoped Platform

/-- A diagram with a finding whose severity is written in small letters. -/
def smallPayload : Json :=
  .object [("cells", .array [.object [("id", .string "a"), ("threats", .array [
    .object [("title", .string "T"), ("severity", .string "high")]])]])]

def smallReport : Report :=
  .ofRun "<payload>" ((Diagram.read smallPayload).toOption.getD Record.empty) .empty true none

/-- The finding is ranked as a high one, but the summary counts none. -/
theorem small_letters_uncounted : smallReport.Prints 1 (fun _ => 0) ∧
    countAt smallReport.severities Severity.high.place = 1 ∧
    countAt smallReport.severities all.length = 0 := by
  have texts : smallReport.severities = ["high"] :=
    List.perm_singleton.mp smallReport.severities_perm
  refine ⟨⟨rfl, ?_⟩, ?_, ?_⟩
  · intro level
    cases level <;> rfl
  · rw [texts]
    decide
  · rw [texts]
    decide

end Report
end ThreatAnalysis
