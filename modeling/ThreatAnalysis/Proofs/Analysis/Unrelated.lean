import ThreatAnalysis.Proofs.Analysis.Copying
import ThreatAnalysis.Proofs.Analysis.Supplement
import ThreatAnalysis.Proofs.Expression.Surroundings

/-!
Cells that have nothing to do with a diagram. What an expression observes, it reaches from the cell
it is evaluated for through the ends of flows, which lead to the first cell with an identifier; and
by the flows over public networks, wherever they are. Further cells behind a diagram are therefore
not observed by its cells if none of them is such a flow, and none has an identifier that an end of
a flow refers to in vain (`Unrelated`). The induction over a run carries that the cells as they are
at that moment have the input they came with, so that the further cells stay unrelated. The cells
of the two runs are the same up to the identifiers of generated findings: the platform gives those.
-/
namespace ThreatAnalysis

/-- Further cells that no flow among the cells leads to and that make none of them public facing. An
identifier that one of the cells has already stays with the first of them. -/
structure Cells.Unrelated (cells further : Cells) : Prop where
  notPublic : ∀ cell ∈ further, ¬(cell.isFlow = true ∧ cell.has .publicNetwork = true)
  ids : ∀ cell ∈ further, (∃ known ∈ cells, known.id = cell.id) ∨
    ∀ flow ∈ cells, flow.isFlow = true → ∀ side, flow.endpoint side ≠ some cell.id

/-- What holds at both ends of a flow holds at every end. -/
instance (holds : Cell.End → Prop) [DecidablePred holds] : Decidable (∀ side, holds side) :=
  decidable_of_iff (holds .source ∧ holds .target)
    ⟨fun both side => match side with
      | .source => both.1
      | .target => both.2, fun every => ⟨every .source, every .target⟩⟩

namespace Cells
variable {cells others further : Cells}

theorem Unrelated.of_sameInput (unrelated : Unrelated cells further)
    (same : Cells.SameInput others cells) : Unrelated others further where
  notPublic := unrelated.notPublic
  ids cell member := by
    rcases unrelated.ids cell member with ⟨known, listed, sameId⟩ | unreached
    · obtain ⟨other, present, alike⟩ := same.symm.exists_mem listed
      exact .inl ⟨other, present, alike.id.symm.trans sameId⟩
    · refine .inr fun flow listed isFlow side leads => ?_
      obtain ⟨known, present, alike⟩ := same.exists_mem listed
      rw [Cell.isFlow, alike.isOf .flow] at isFlow
      rw [alike.endpoint side] at leads
      exact unreached known present isFlow side leads

/-- No end of a flow among the cells finds one of the further cells. -/
theorem Unrelated.find?_endpoint (unrelated : Unrelated cells further) {flow : Cell}
    (member : flow ∈ cells) (isFlow : flow.isFlow = true) {side : Cell.End} {id : String}
    (leads : flow.endpoint side = some id) :
    Cells.find? (cells ++ further) id = Cells.find? cells id := by
  unfold Cells.find?
  rw [List.find?_append]
  cases found : List.find? (fun cell : Cell => cell.id == id) cells with
  | some cell => rfl
  | none =>
    have unfound := List.find?_eq_none.mp found
    rw [Option.none_or, List.find?_eq_none]
    intro cell listed same
    rw [beq_iff_eq] at same
    rcases unrelated.ids cell listed with ⟨known, present, sameId⟩ | unreached
    · exact unfound known present (beq_iff_eq.mpr (sameId.trans same))
    · exact unreached flow member isFlow side (leads.trans (congrArg some same.symm))

theorem Unrelated.atEnd? (unrelated : Unrelated cells further) {flow : Cell}
    (member : flow ∈ cells) (isFlow : flow.isFlow = true) (side : Cell.End) :
    Cells.atEnd? (cells ++ further) flow side = cells.atEnd? flow side := by
  unfold Cells.atEnd?
  cases leads : flow.endpoint side with
  | none => rfl
  | some id => exact unrelated.find?_endpoint member isFlow leads

theorem Unrelated.hasPublicFlowTo (unrelated : Unrelated cells further) (id : String) :
    Cells.hasPublicFlowTo (cells ++ further) id = cells.hasPublicFlowTo id := by
  unfold Cells.hasPublicFlowTo
  have none : further.any (fun cell =>
      cell.isFlow && cell.has .publicNetwork && cell.endpoint .target == some id) = false := by
    rw [List.any_eq_false]
    intro cell member leads
    rw [Bool.and_eq_true, Bool.and_eq_true] at leads
    exact unrelated.notPublic cell member leads.1
  rw [List.any_append, none, Bool.or_false]

theorem mem_of_atEnd? {cell found : Cell} {side : Cell.End}
    (leads : cells.atEnd? cell side = some found) : found ∈ cells := by
  obtain ⟨id, _, first⟩ := Option.bind_eq_some_iff.mp leads
  exact List.mem_of_find?_eq_some first

/-- From the cells of a diagram, unrelated cells behind it cannot be seen. -/
theorem Unrelated.sameView (unrelated : cells.Unrelated further) :
    Cells.SameView (cells ++ further) cells (· ∈ cells) where
  publicFlows := unrelated.hasPublicFlowTo
  ends _ member isFlow := unrelated.atEnd? member isFlow
  closed _ _ _ _ leads := mem_of_atEnd? leads

end Cells

theorem Expression.evaluateAny_unrelated [Platform] {cells further : Cells}
    (unrelated : cells.Unrelated further) (texts : List String) {cell : Cell}
    (member : cell ∈ cells) :
    evaluateAny (cells ++ further) cell texts = evaluateAny cells cell texts := by
  have each : evaluate (cells ++ further) cell = evaluate cells cell := by
    funext text
    exact evaluate_sameView unrelated.sameView member text
  rw [evaluateAny, evaluateAny, each]

namespace Analysis

section Run
variable [Platform] {rules : List Rule} {before after done rest further : Cells} {cell : Cell}

theorem firing_unrelated (unrelated : Cells.Unrelated (before ++ cell :: after) further) :
    firing before (after ++ further) cell rules = firing before after cell rules := by
  induction rules generalizing cell with
  | nil => rfl
  | cons rule rest ih =>
    have verdict : fires before (after ++ further) cell rule = fires before after cell rule := by
      have member : cell ∈ before ++ cell :: after := List.mem_append_right _ List.mem_cons_self
      have evaluated := Expression.evaluateAny_unrelated unrelated rule.expressions member
      rw [List.append_assoc, List.cons_append] at evaluated
      exact evaluated
    have added : Cells.Unrelated
        (before ++ addFinding cell (rule.findingOn cell) :: after) further :=
      unrelated.of_sameInput
        (sameInput_between (.refl before) (addFinding_sameInput cell _) (.refl after))
    rw [firing, firing, verdict, ih added, ih unrelated]

theorem analyzeCell_unrelated (unrelated : Cells.Unrelated (before ++ cell :: after) further) :
    analyzeCell rules before (after ++ further) cell = analyzeCell rules before after cell := by
  cases scope : cell.has .outOfScope with
  | true => rw [analyzeCell_outOfScope scope, analyzeCell_outOfScope scope]
  | false =>
    have dropped : Cells.Unrelated (before ++ dropGenerated cell :: after) further :=
      unrelated.of_sameInput
        (sameInput_between (.refl before) (dropGenerated_sameInput cell) (.refl after))
    rw [analyzeCell_inScope scope, analyzeCell_inScope scope, firing_unrelated dropped]

/-- A run over further cells behind others first does to these what it does without them. -/
theorem analyzed_unrelated (unrelated : Cells.Unrelated (done ++ rest) further) :
    analyzed rules done (rest ++ further) =
      analyzed rules done rest ++ analyzed rules (done ++ analyzed rules done rest) further := by
  induction rest generalizing done with
  | nil => rw [analyzed, List.nil_append, List.nil_append, List.append_nil]
  | cons cell rest ih =>
    have head : analyzeCell rules done (rest ++ further) cell = analyzeCell rules done rest cell :=
      analyzeCell_unrelated unrelated
    have next : Cells.Unrelated (done ++ [analyzeCell rules done rest cell] ++ rest) further := by
      rw [List.append_assoc]
      exact unrelated.of_sameInput
        (sameInput_between (.refl done) (analyzeCell_sameInput rules done rest cell) (.refl rest))
    rw [List.cons_append, analyzed, head, ih next, analyzed, List.cons_append, List.append_assoc]
    rfl

/-- A diagram can be copied if it can be with further cells. -/
theorem copyable_of_further {diagram : Diagram}
    (copyable : Engine.Copyable (diagram.withCells (diagram.cells ++ further))) :
    Engine.Copyable diagram := by
  obtain ⟨bound, deepest⟩ := Nat.exists_eq_add_of_le' Platform.five_le_deepestDiagram
  rw [Engine.Copyable, deepest] at copyable ⊢
  obtain ⟨fields, extras⟩ := (Record.depth_encode_le_iff Diagram.lawful).mp copyable
  refine (Record.depth_encode_le_iff Diagram.lawful).mpr ⟨fun field value given => ?_, extras⟩
  cases field with
  | title => exact Nat.zero_le _
  | cells =>
    have whole := Json.depth_array_le_iff.mp
      (fields .cells _ (Record.given_set_self diagram .cells (diagram.cells ++ further)))
    have cells : diagram.cells = value :=
      congrArg (fun known : Option (List Cell) => known.getD []) given
    rw [cells] at whole
    exact Json.depth_array_le_iff.mpr fun cell member => whole cell (List.mem_append_left _ member)

/-- Whatever the rules test, the cells of a diagram become the same if unrelated cells stand behind
them; the further cells matter only in that they may be nested too deep to be copied. -/
theorem unrelated_cells_change_nothing {source extended : DiagramSource} {tree : FileTree}
    {diagram : Diagram} (reads : source.read tree = .ok diagram)
    (readsWhole : extended.read tree = .ok (diagram.withCells (diagram.cells ++ further)))
    (unrelated : Cells.Unrelated diagram.cells further) (catalog : Catalog) (enabled : Bool)
    (override : Option Bool) :
    (¬Engine.Copyable (diagram.withCells (diagram.cells ++ further)) ∧
      Engine.analyze (some catalog) enabled extended tree override = .error (.copy .nesting)) ∨
    ∃ result whole, Engine.analyze (some catalog) enabled source tree override = .ok result ∧
      Engine.analyze (some catalog) enabled extended tree override = .ok whole ∧
      whole.cells.take diagram.cells.length = result.cells := by
  rcases Engine.analyze_of_read readsWhole catalog enabled override with ⟨copyable, ran⟩ | failed
  · have plain := ((Engine.analyze_of_read reads catalog enabled override).resolve_right
      fun failed => failed.1 (copyable_of_further copyable)).2
    refine .inr ⟨_, _, plain, ran, ?_⟩
    rw [Diagram.cells_analyze, Diagram.cells_analyze, Diagram.cells_withCells,
      analyzed_unrelated unrelated, List.take_left' (analyzed_sameInput _ [] _).length_eq]
  · exact .inl failed

end Run

open scoped Platform

/-- A flow whose other end leads nowhere. -/
def strayPayload : Json :=
  .object [("cells", .array [.object [("id", .string "f"), ("type", .string "tm.Flow"),
      ("source", .string "a"), ("target", .string "nowhere")],
    .object [("id", .string "a"), ("type", .string "tm.Actor")]])]

def strayDiagram : Diagram := (Diagram.read strayPayload).toOption.getD Record.empty

/-- A second cell with a known identifier, and a flow to the first one. -/
def strayCells : Cells :=
  [.object [("id", .string "a"), ("type", .string "tm.Store"), ("isPublicNetwork", .bool true)],
    .object [("id", .string "g"), ("type", .string "tm.Flow"), ("target", .string "a")]].filterMap
      fun document => (Cell.read document).toOption

/-- Rules that look at the ends of flows, and at what was found there. -/
def endsCatalog : Catalog where
  baseline := [namedRule "Left" "connects(isActor, isStore)",
    namedRule "Reached" "source(not(hasProperty(hasOpenThreats, true)))"]
  supplemental := [namedRule "Open" "isPublicFacing"]
  files := []

theorem stray_changes_nothing :
    DiagramSource.read ⟨[]⟩ (.payload strayPayload) = .ok strayDiagram ∧
    Cells.Unrelated strayDiagram.cells strayCells ∧
    ∃ result whole,
      Engine.analyze (some endsCatalog) true (.payload strayPayload) ⟨[]⟩ none = .ok result ∧
      Engine.analyze (some endsCatalog) true
        (.diagram (strayDiagram.withCells (strayDiagram.cells ++ strayCells))) ⟨[]⟩ none =
          .ok whole ∧
      whole.cells.take strayDiagram.cells.length = result.cells := by
  have reads : DiagramSource.read ⟨[]⟩ (.payload strayPayload) = .ok strayDiagram := rfl
  have unrelated : Cells.Unrelated strayDiagram.cells strayCells := ⟨by decide, by decide⟩
  have copyable : Engine.Copyable (strayDiagram.withCells (strayDiagram.cells ++ strayCells)) := by
    unfold Engine.Copyable
    decide
  exact ⟨reads, unrelated,
    (unrelated_cells_change_nothing reads rfl unrelated endsCatalog true none).resolve_left
      fun failed => failed.1 copyable⟩

end Analysis
end ThreatAnalysis
