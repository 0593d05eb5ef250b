import ThreatAnalysis.Analysis.Engine
import ThreatAnalysis.Proofs.Analysis.Firing

/-! A run over the cells of a diagram. The cells before the current one are analyzed already, those
behind it are still input, and all of them have the input they came with. -/
namespace ThreatAnalysis
namespace Analysis
variable [Platform] {rules : List Rule} {done rest : Cells}

/-- What the cells behind those that are analyzed already become. -/
def analyzed (rules : List Rule) (done : Cells) : Cells → Cells
  | [] => []
  | cell :: rest =>
    analyzeCell rules done rest cell ::
      analyzed rules (done ++ [analyzeCell rules done rest cell]) rest

theorem analyzeCells_eq (rules : List Rule) (done rest : Cells) :
    analyzeCells rules done rest = done ++ analyzed rules done rest := by
  induction rest generalizing done with
  | nil => rw [analyzeCells, analyzed, List.append_nil]
  | cons cell rest ih =>
    rw [analyzeCells, analyzed, ih, List.append_assoc]
    rfl

/-- What holds between every cell and what becomes of it, whatever stands around it, holds through
a whole run. -/
theorem analyzed_forall₂ {relation : Cell → Cell → Prop}
    (each : ∀ before after cell, relation cell (analyzeCell rules before after cell))
    (done rest : Cells) : List.Forall₂ relation rest (analyzed rules done rest) := by
  induction rest generalizing done with
  | nil => exact .nil
  | cons cell rest ih => exact .cons (each done rest cell) (ih _)

/-- A run keeps the input of every cell. -/
theorem analyzed_sameInput (rules : List Rule) (done rest : Cells) :
    Cells.SameInput (analyzed rules done rest) rest :=
  List.Forall₂.flip (analyzed_forall₂ (analyzeCell_sameInput rules) done rest)

end Analysis

theorem Diagram.cells_withCells (diagram : Diagram) (cells : List Cell) :
    (diagram.withCells cells).cells = cells :=
  Record.get_set_self diagram .cells cells

theorem Diagram.cells_analyze [Platform] (diagram : Diagram) (catalog : Catalog) (supplemental : Bool) :
    (diagram.analyze catalog supplemental).cells =
      Analysis.analyzed (Analysis.rulesOf catalog supplemental) [] diagram.cells := by
  rw [Diagram.analyze, Diagram.cells_withCells, Analysis.analyzeCells_eq, List.nil_append]

namespace Engine
variable [Platform] {source : DiagramSource} {tree : FileTree} {diagram : Diagram}

/-- Whether the engine can copy a diagram. -/
def Copyable (diagram : Diagram) : Prop := (diagram.encode .given).depth ≤ Platform.deepestDiagram

/-- An analysis of a diagram that was read can only fail because the diagram cannot be copied. -/
theorem analyze_of_read (reads : source.read tree = .ok diagram) (catalog : Catalog)
    (enabled : Bool) (override : Option Bool) :
    (Copyable diagram ∧ analyze (some catalog) enabled source tree override =
        .ok (diagram.analyze catalog (override.getD enabled))) ∨
      (¬Copyable diagram ∧
        analyze (some catalog) enabled source tree override = .error (.copy .nesting)) := by
  unfold analyze Copyable copy
  simp only [reads, Except.mapError, bind, Except.bind]
  by_cases shallow : (diagram.encode .given).depth ≤ Platform.deepestDiagram
  · exact .inl ⟨shallow, by rw [if_pos shallow]; rfl⟩
  · exact .inr ⟨shallow, by rw [if_neg shallow]⟩

end Engine
end ThreatAnalysis
