import ThreatAnalysis.Proofs.Analysis.Run

/-!
Rules that test input alone. Rules are evaluated among cells that the run has changed already, but
as long as no expression tests an attribute that an analysis writes, every cell gets the findings
of the rules that match it in the diagram as it was read. The induction over the cells carries that
those before have the input they came with (`Cells.SameInput`).
-/
namespace ThreatAnalysis.Analysis

section Matching
variable [Platform] {rules : List Rule} {before after done rest those cells : Cells} {cell : Cell}

/-- No expression of the rules tests an attribute that an analysis writes, at any depth. -/
def TestInputAlone (rules : List Rule) : Prop :=
  ∀ rule ∈ rules, ∀ test ∈ rule.tests, test.key ∉ Cell.writtenKeys

/-- The rules of which some expression holds of a cell among cells. -/
def matching (cells : Cells) (cell : Cell) (rules : List Rule) : List Rule :=
  rules.filter fun rule => ∃ text ∈ rule.expressions, Expression.evaluate cells cell text = true

theorem firing_eq_matching (input : TestInputAlone rules) (same : Cell.SameInput a cell)
    (around : ∀ b, Cell.SameInput b cell → Cells.SameInput (before ++ b :: after) cells) :
    firing before after a rules = matching cells cell rules := by
  induction rules generalizing a with
  | nil => rfl
  | cons rule rest ih =>
    have later : TestInputAlone rest := fun other member =>
      input other (List.mem_cons_of_mem _ member)
    have verdict : fires before after a rule =
        decide (∃ text ∈ rule.expressions, Expression.evaluate cells cell text = true) := by
      have alike := rule.evaluateAny_sameInput (around a same) same fun test tested =>
        .inl (input rule List.mem_cons_self test tested)
      rw [fires, alike, Bool.eq_iff_iff, decide_eq_true_iff]
      exact List.any_eq_true
    have added : Cell.SameInput (addFinding a (rule.findingOn a)) cell :=
      (addFinding_sameInput a _).trans same
    unfold matching at ih ⊢
    rw [firing, List.filter_cons, verdict, ih later added, ih later same]

/-- What becomes of a cell under rules that test input alone. -/
def Explained (cells : Cells) (rules : List Rule) (cell result : Cell) : Prop :=
  Cell.SameInput result cell ∧
    (result.has .outOfScope = false →
      result.findings = manual cell ++ generatedOn cell (matching cells cell rules))

theorem analyzeCell_explained (input : TestInputAlone rules)
    (front : Cells.SameInput before those) :
    Explained (those ++ cell :: after) rules cell (analyzeCell rules before after cell) := by
  have same := analyzeCell_sameInput rules before after cell
  refine ⟨same, fun inScope => ?_⟩
  rw [same.has .outOfScope (by decide)] at inScope
  have around : ∀ b, Cell.SameInput b cell →
      Cells.SameInput (before ++ b :: after) (those ++ cell :: after) :=
    fun b inner => sameInput_between front inner (.refl after)
  rw [analyzeCell_inScope inScope, findings_marked,
    firing_eq_matching input (dropGenerated_sameInput cell) around]

theorem analyzed_explained (input : TestInputAlone rules) (front : Cells.SameInput done those) :
    List.Forall₂ (Explained (those ++ rest) rules) rest (analyzed rules done rest) := by
  induction rest generalizing done those with
  | nil => exact .nil
  | cons cell rest ih =>
    have head : Explained (those ++ cell :: rest) rules cell (analyzeCell rules done rest cell) :=
      analyzeCell_explained input front
    have nextFront : Cells.SameInput (done ++ [analyzeCell rules done rest cell])
        (those ++ [cell]) :=
      sameInput_between front head.1 .nil
    have tail := ih nextFront
    rw [List.append_assoc, List.singleton_append] at tail
    exact .cons head tail

/-- The findings an analysis owes to a cell of its input: those written by hand, those of the
baseline rules that match the cell, and those of the supplemental rules if they are included. -/
def findingsOwed (cells : Cells) (catalog : Catalog) (supplemental : Bool) (cell : Cell) :
    List Finding :=
  manual cell ++ generatedOn cell (matching cells cell catalog.baseline) ++
    if supplemental then generatedOn cell (matching cells cell catalog.supplemental) else []

theorem findingsOwed_eq (cells : Cells) (catalog : Catalog) (supplemental : Bool) (cell : Cell) :
    manual cell ++ generatedOn cell (matching cells cell (rulesOf catalog supplemental)) =
      findingsOwed cells catalog supplemental cell := by
  unfold findingsOwed generatedOn matching rulesOf
  rw [List.filter_append, List.map_append, List.append_assoc]
  cases supplemental <;> rfl

/-- If no rule that applies tests an attribute that the analysis writes, every cell in scope ends
with the findings owed to it among the cells of the input. -/
theorem findings_depend_on_input {source : DiagramSource} {tree : FileTree} {diagram : Diagram}
    (reads : source.read tree = .ok diagram) {catalog : Catalog} {enabled : Bool}
    {override : Option Bool} (input : TestInputAlone (rulesOf catalog (override.getD enabled))) :
    (¬Engine.Copyable diagram ∧
      Engine.analyze (some catalog) enabled source tree override = .error (.copy .nesting)) ∨
    ∃ result, Engine.analyze (some catalog) enabled source tree override = .ok result ∧
      List.Forall₂ (fun cell resulting => Cell.SameInput resulting cell ∧
        (resulting.has .outOfScope = false → resulting.findings =
          findingsOwed diagram.cells catalog (override.getD enabled) cell))
        diagram.cells result.cells := by
  rcases Engine.analyze_of_read reads catalog enabled override with ⟨_, ran⟩ | failed
  · refine .inr ⟨_, ran, ?_⟩
    rw [Diagram.cells_analyze]
    refine (analyzed_explained input .nil).imp fun cell result explained => ?_
    refine ⟨explained.1, fun inScope => ?_⟩
    rw [explained.2 inScope, List.nil_append, findingsOwed_eq]
  · exact .inl failed

end Matching

open scoped Platform

/-- A flow between two cells behind it, with a finding of each kind. -/
def relayPayload : Json :=
  .object [("cells", .array [
    .object [("id", .string "f"), ("type", .string "tm.Flow"), ("source", .string "a"),
      ("target", .string "b"), ("isPublicNetwork", .bool true),
      ("threats", .array [.object [("title", .string "By hand")],
        .object [("title", .string "Old"), ("isGenerated", .bool true)]])],
    .object [("id", .string "a"), ("type", .string "tm.Actor")],
    .object [("id", .string "b"), ("zone", .string "dmz")]])]

def relayDiagram : Diagram := (Diagram.read relayPayload).toOption.getD Record.empty

/-- The rule of one expression. -/
def ruleOf (text : String) : Rule := (Record.empty : Rule).set .expressions [text]

def relayCatalog : Catalog where
  baseline := [ruleOf "connects(isActor, hasProperty(zone, dmz))"]
  supplemental := [ruleOf "isPublicFacing"]
  files := []

/-- The baseline rule fires on the flow, and the supplemental one on its target. -/
theorem findings_on_relay : TestInputAlone (rulesOf relayCatalog true) ∧
    relayDiagram.cells.map (fun cell =>
      (matching relayDiagram.cells cell (rulesOf relayCatalog true)).map Rule.expressions) =
        [[["connects(isActor, hasProperty(zone, dmz))"]], [], [["isPublicFacing"]]] ∧
    ∃ result, Engine.analyze (some relayCatalog) false (.payload relayPayload) ⟨[]⟩ (some true) =
      .ok result ∧
      List.Forall₂ (fun cell resulting => Cell.SameInput resulting cell ∧
        (resulting.has .outOfScope = false →
          resulting.findings = findingsOwed relayDiagram.cells relayCatalog true cell))
        relayDiagram.cells result.cells := by
  have input : TestInputAlone (rulesOf relayCatalog true) := by
    unfold TestInputAlone
    decide
  have reads : DiagramSource.read ⟨[]⟩ (.payload relayPayload) = .ok relayDiagram := rfl
  have copyable : Engine.Copyable relayDiagram := by
    unfold Engine.Copyable
    decide
  exact ⟨input, by decide +kernel, (findings_depend_on_input reads input).resolve_left
    fun failed => failed.1 copyable⟩

end ThreatAnalysis.Analysis
