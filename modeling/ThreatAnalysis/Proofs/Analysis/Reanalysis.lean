import ThreatAnalysis.Proofs.Analysis.Copying
import ThreatAnalysis.Proofs.Analysis.InputAlone

/-!
Analyzing an analyzed diagram. The second run starts from the same findings written by hand, but
its cells carry the marks of the first one: that they have findings or none, and what the findings
are. A rule that tests a mark can therefore fire in one run and not in the other: one that asks for
cells without open threats fires on an empty cell the first time only. The numbers of findings stay
if and only if as many rules fire on each cell as before; they do if rules test the marks at most
for the findings of the cell itself, and then the second run changes nothing at all. Both runs are
on one platform, so this is up to the identifiers of generated findings, which are new each time.
-/
namespace ThreatAnalysis.Analysis

section Again
variable [Platform] {rules : List Rule} {before after again done rest those : Cells} {cell : Cell}

/-- The findings that an analysis keeps on a cell. -/
def kept (cell : Cell) : List Finding :=
  if cell.has .outOfScope then cell.findings else manual cell

/-- The rules that fire on a cell that stands between others; none if it is out of scope. -/
def firedOn (rules : List Rule) (before after : Cells) (cell : Cell) : List Rule :=
  if cell.has .outOfScope then [] else firing before after (dropGenerated cell) rules

/-- The rules that fire during a run, cell by cell. -/
def firings (rules : List Rule) (done : Cells) : Cells → List (List Rule)
  | [] => []
  | cell :: rest =>
    firedOn rules done rest cell :: firings rules (done ++ [analyzeCell rules done rest cell]) rest

/-- The number of findings on each cell. -/
def counts (cells : Cells) : List Nat := cells.map fun cell => cell.findings.length

theorem findings_analyzeCell (rules : List Rule) (before after : Cells) (cell : Cell) :
    (analyzeCell rules before after cell).findings =
      kept cell ++ generatedOn cell (firedOn rules before after cell) := by
  unfold kept firedOn
  cases scope : cell.has .outOfScope with
  | true => exact (congrArg _ (analyzeCell_outOfScope scope)).trans (List.append_nil _).symm
  | false =>
    rw [analyzeCell_inScope scope, findings_marked]
    rfl

theorem manual_marked (cell : Cell) (fired : List Rule) :
    manual (marked cell (manual cell ++ generatedOn cell fired)) = manual cell := by
  have generated : (generatedOn cell fired).filter (fun finding => !finding.isGenerated) = [] := by
    refine List.filter_eq_nil_iff.mpr fun finding member => ?_
    obtain ⟨rule, _, rfl⟩ := List.mem_map.mp member
    rw [isGenerated_findingOn]
    decide
  unfold manual
  rw [findings_marked, List.filter_append, generated, List.append_nil, List.filter_filter]
  simp only [Bool.and_self]

/-- What a second analysis keeps is what the first one kept. -/
theorem kept_analyzeCell (rules : List Rule) (before after : Cells) (cell : Cell) :
    kept (analyzeCell rules before after cell) = kept cell := by
  unfold kept
  rw [(analyzeCell_sameInput rules before after cell).has .outOfScope (by decide)]
  cases scope : cell.has .outOfScope with
  | true => rw [analyzeCell_outOfScope scope]
  | false =>
    rw [analyzeCell_inScope scope]
    exact manual_marked cell _

theorem counts_again_iff (rules : List Rule) (done again rest : Cells) :
    counts (analyzed rules again (analyzed rules done rest)) = counts (analyzed rules done rest) ↔
      (firings rules again (analyzed rules done rest)).map List.length =
        (firings rules done rest).map List.length := by
  induction rest generalizing done again with
  | nil => exact Iff.rfl
  | cons cell rest ih =>
    have head : ∀ others, (analyzeCell rules again others
          (analyzeCell rules done rest cell)).findings.length =
        (analyzeCell rules done rest cell).findings.length ↔
        (firedOn rules again others (analyzeCell rules done rest cell)).length =
          (firedOn rules done rest cell).length := by
      intro others
      rw [findings_analyzeCell, kept_analyzeCell, findings_analyzeCell rules done rest cell]
      simp only [List.length_append, generatedOn, List.length_map]
      exact Nat.add_left_cancel_iff
    unfold counts at ih ⊢
    simp only [analyzed, firings, List.map_cons, List.cons.injEq]
    exact and_congr (head _) (ih _ _)

/-- Rules that test the marks of an analysis at most for the findings of the cell itself. -/
def IgnoreMarks (rules : List Rule) : Prop :=
  ∀ rule ∈ rules, ∀ test ∈ rule.tests,
    test.key ∉ Cell.openKeys ∧ (test.far = true → test.key ∉ Cell.writtenKeys)

theorem firing_ignores_marks (ignore : IgnoreMarks rules) (same : Cell.SameInput a b)
    (threats : a.given .threats = b.given .threats) (front : Cells.SameInput before again)
    (back : Cells.SameInput after rest) :
    firing before after a rules = firing again rest b rules := by
  induction rules generalizing a b with
  | nil => rfl
  | cons rule others ih =>
    have later : IgnoreMarks others := fun other member =>
      ignore other (List.mem_cons_of_mem _ member)
    have agree : ∀ test ∈ rule.tests, test.Agrees a b := by
      intro test tested
      obtain ⟨unmarked, beyond⟩ := ignore rule List.mem_cons_self test tested
      cases reach : test.far with
      | true => exact .inl (beyond reach)
      | false => exact .inr ⟨reach, same.attribute?_of_threats threats unmarked⟩
    have verdict : fires before after a rule = fires again rest b rule :=
      rule.evaluateAny_sameInput (sameInput_between front same back) same agree
    have findings : a.findings = b.findings :=
      congrArg (fun given : Option (List Finding) => given.getD []) threats
    have added : Cell.SameInput (addFinding a (rule.findingOn a))
        (addFinding b (rule.findingOn b)) :=
      ((addFinding_sameInput a _).trans same).trans (addFinding_sameInput b _).symm
    have alike : (addFinding a (rule.findingOn a)).given .threats =
        (addFinding b (rule.findingOn b)).given .threats := by
      rw [addFinding, addFinding, given_withFindings, given_withFindings, findings,
        findingOn_sameInput rule same]
    rw [firing, firing, verdict, ih later added alike, ih later same threats]

/-- Once the generated findings are dropped, only the mark of the first analysis is left. -/
theorem dropGenerated_marked (cell : Cell) (fired : List Rule) :
    Cell.SameInput (dropGenerated (marked cell (manual cell ++ generatedOn cell fired)))
        (dropGenerated cell) ∧
      (dropGenerated (marked cell (manual cell ++ generatedOn cell fired))).given .threats =
        (dropGenerated cell).given .threats := by
  constructor
  · exact ((dropGenerated_sameInput _).trans (marked_sameInput cell _)).trans
      (dropGenerated_sameInput cell).symm
  · rw [dropGenerated, dropGenerated, given_withFindings, given_withFindings]
    exact congrArg some (manual_marked cell fired)

/-- A second analysis does not change a cell on which its rules do not see the first one. -/
theorem analyzeCell_again (ignore : IgnoreMarks rules) (front : Cells.SameInput again before)
    (back : Cells.SameInput rest after) :
    analyzeCell rules again rest (analyzeCell rules before after cell) =
      analyzeCell rules before after cell := by
  have same := analyzeCell_sameInput rules before after cell
  cases scope : cell.has .outOfScope with
  | true => rw [analyzeCell_outOfScope scope, analyzeCell_outOfScope scope]
  | false =>
    rw [analyzeCell_inScope scope] at same ⊢
    have inScope := same.has .outOfScope (by decide)
    rw [scope] at inScope
    obtain ⟨dropped, threats⟩ :=
      dropGenerated_marked cell (firing before after (dropGenerated cell) rules)
    rw [analyzeCell_inScope inScope, manual_marked, generatedOn_sameInput _ same,
      firing_ignores_marks ignore dropped threats front back, marked_marked]

theorem analyzed_again (ignore : IgnoreMarks rules) (front : Cells.SameInput again done) :
    analyzed rules again (analyzed rules done rest) = analyzed rules done rest := by
  induction rest generalizing done again with
  | nil => rfl
  | cons cell rest ih =>
    have back := analyzed_sameInput rules (done ++ [analyzeCell rules done rest cell]) rest
    have head : analyzeCell rules again _ (analyzeCell rules done rest cell) =
        analyzeCell rules done rest cell := analyzeCell_again ignore front back
    have nextFront : Cells.SameInput (again ++ [analyzeCell rules done rest cell])
        (done ++ [analyzeCell rules done rest cell]) :=
      sameInput_between front (.refl _) .nil
    rw [analyzed, analyzed, head, ih nextFront]

/-- A diagram that was analyzed can be analyzed again. Every cell keeps its number of findings if
and only if as many rules fire on it as in the first run; and if no rule that applies tests a mark
other than the findings of the cell itself, the second run changes nothing. -/
theorem reanalysis_keeps_counts_iff {source : DiagramSource} {tree : FileTree}
    {diagram first : Diagram} (reads : source.read tree = .ok diagram) {catalog : Catalog}
    {enabled : Bool} {override : Option Bool}
    (ran : Engine.analyze (some catalog) enabled source tree override = .ok first) :
    ∃ second, Engine.analyze (some catalog) enabled (.diagram first) tree override = .ok second ∧
      (counts second.cells = counts first.cells ↔
        (firings (rulesOf catalog (override.getD enabled)) [] first.cells).map List.length =
          (firings (rulesOf catalog (override.getD enabled)) [] diagram.cells).map List.length) ∧
      (IgnoreMarks (rulesOf catalog (override.getD enabled)) → second = first) := by
  rcases Engine.analyze_of_read reads catalog enabled override with ⟨copyable, outcome⟩ | failed
  · rw [ran, Except.ok.injEq] at outcome
    subst outcome
    have copyableAgain := copyable.analyze catalog (override.getD enabled)
    refine ⟨_, ((Engine.analyze_of_read rfl catalog enabled override).resolve_right
      fun failed => failed.1 copyableAgain).2, ?_, fun ignore => ?_⟩
    · rw [Diagram.cells_analyze, Diagram.cells_analyze]
      exact counts_again_iff _ [] [] diagram.cells
    · unfold Diagram.analyze
      rw [Diagram.cells_withCells, analyzeCells_eq, analyzeCells_eq, List.nil_append,
        List.nil_append, analyzed_again ignore .nil]
      exact Record.set_set diagram .cells _ _
  · rw [failed.2] at ran
    cases ran

end Again

open scoped Platform

theorem relay_reanalyzed : DiagramSource.read ⟨[]⟩ (.payload relayPayload) = .ok relayDiagram ∧
    ∃ first, Engine.analyze (some relayCatalog) true (.payload relayPayload) ⟨[]⟩ none = .ok first ∧
      Engine.analyze (some relayCatalog) true (.diagram first) ⟨[]⟩ none = .ok first := by
  have reads : DiagramSource.read ⟨[]⟩ (.payload relayPayload) = .ok relayDiagram := rfl
  have ran : Engine.analyze (some relayCatalog) true (.payload relayPayload) ⟨[]⟩ none =
      .ok (relayDiagram.analyze relayCatalog true) := rfl
  have ignore : IgnoreMarks (rulesOf relayCatalog true) := by
    unfold IgnoreMarks
    decide
  obtain ⟨second, again, _, stable⟩ := reanalysis_keeps_counts_iff reads ran
  rw [stable ignore] at again
  exact ⟨reads, _, ran, again⟩

/-- A cell on which nothing was found yet. -/
def unmarkedPayload : Json := .object [("cells", .array [.object [("id", .string "a")]])]

def unmarkedCatalog : Catalog := ⟨[ruleOf "not(hasProperty(hasOpenThreats))"], [], []⟩

/-- The rule fires on the cell as it was read, and no longer once the cell is marked. -/
theorem marks_change_counts : ∃ first second,
    Engine.analyze (some unmarkedCatalog) true (.payload unmarkedPayload) ⟨[]⟩ none = .ok first ∧
      Engine.analyze (some unmarkedCatalog) true (.diagram first) ⟨[]⟩ none = .ok second ∧
      counts first.cells = [1] ∧ counts second.cells = [0] :=
  ⟨_, _, rfl, rfl, by decide, by decide⟩

end ThreatAnalysis.Analysis
