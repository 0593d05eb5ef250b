import Mathlib.Data.List.Nodup
import ThreatAnalysis.Proofs.Expression.Composition
import ThreatAnalysis.Proofs.Expression.Surroundings

/-!
The order of the cells. A flow over a public network makes the cell it leads to public facing
wherever it stands in the list, and an identifier stands for the first cell that has it. So the
order of the cells shows only among cells that share an identifier: as long as these keep theirs,
every reordering of a diagram finds the same cells (`find?_of_sameOrder`, `hasPublicFlowTo_perm`),
and every expression holds of the same ones (`order_of_cells_unobserved`).
-/
namespace ThreatAnalysis
variable {cells others : Cells}

namespace Cells

/-- The cells with an identifier, in their order. -/
def withId (cells : Cells) (id : String) : Cells :=
  cells.filter fun cell => cell.id == id

/-- Cells that share an identifier come in the same order in both lists. -/
def SameOrder (cells others : Cells) : Prop :=
  ∀ id, cells.withId id = others.withId id

theorem head?_withId (cells : Cells) (id : String) : (cells.withId id).head? = cells.find? id :=
  List.head?_filter

theorem find?_of_sameOrder (order : cells.SameOrder others) (id : String) :
    cells.find? id = others.find? id := by
  rw [← head?_withId, ← head?_withId, order id]

theorem hasPublicFlowTo_perm (perm : cells.Perm others) (id : String) :
    cells.hasPublicFlowTo id = others.hasPublicFlowTo id :=
  perm.any_eq

/-- Where identifiers are distinct, at most one cell has any of them. -/
theorem length_withId_le_one (distinct : (cells.map Cell.id).Nodup) (id : String) :
    (cells.withId id).length ≤ 1 := by
  have once := List.nodup_iff_count_le_one.mp distinct id
  rw [List.count_eq_countP, List.countP_map] at once
  rw [withId, ← List.countP_eq_length_filter]
  exact once

/-- No order is to be kept among cells with distinct identifiers. -/
theorem sameOrder_of_nodup (perm : cells.Perm others) (distinct : (cells.map Cell.id).Nodup) :
    cells.SameOrder others := by
  intro id
  have some := length_withId_le_one distinct id
  have same : (cells.withId id).Perm (others.withId id) := perm.filter _
  generalize cells.withId id = found at some same
  match found with
  | [] => exact (List.nil_perm.mp same).symm
  | [cell] => exact (List.perm_singleton.mp same.symm).symm
  | _ :: _ :: _ => simp at some

/-- A reordering that keeps the order of cells with one identifier cannot be seen from any cell. -/
theorem sameView_of_sameOrder (perm : cells.Perm others) (order : cells.SameOrder others) :
    cells.SameView others fun _ => True where
  publicFlows := hasPublicFlowTo_perm perm
  ends flow _ _ side := by
    have found : cells.find? = others.find? := funext (find?_of_sameOrder order)
    rw [atEnd?, atEnd?, found]
  closed _ _ _ _ _ := trivial

end Cells

namespace Expression

/-- Reordering the cells of a diagram changes neither which cell an identifier stands for, nor
which cells flows over public networks lead to, nor of which cells an expression holds, as long as
cells that share an identifier keep their order; with distinct identifiers every reordering is one
of these. -/
theorem order_of_cells_unobserved [Platform] (perm : cells.Perm others)
    (order : cells.SameOrder others ∨ (cells.map Cell.id).Nodup) :
    (∀ id, cells.find? id = others.find? id) ∧
    (∀ id, cells.hasPublicFlowTo id = others.hasPublicFlowTo id) ∧
    ∀ text cell, evaluate cells cell text = evaluate others cell text := by
  have kept : cells.SameOrder others := by
    rcases order with kept | distinct
    · exact kept
    · exact Cells.sameOrder_of_nodup perm distinct
  refine ⟨Cells.find?_of_sameOrder kept, Cells.hasPublicFlowTo_perm perm, ?_⟩
  intro text cell
  exact evaluate_sameView (Cells.sameView_of_sameOrder perm kept) trivial text

open scoped Platform

/-- A store that has the identifier of the sender. -/
def twin : Cell := ((Record.empty : Cell).set .id "a").set .type "tm.Store"

/-- The flow moves in front of the sender and its twin, which keep their order; and two cells with
distinct identifiers change places. -/
theorem moved_flow_unobserved :
    ([sender, twin, sending].Perm [sending, sender, twin] ∧
      Cells.SameOrder [sender, twin, sending] [sending, sender, twin] ∧
      evaluate [sender, twin, sending] sending "source(isActor)" =
        evaluate [sending, sender, twin] sending "source(isActor)") ∧
    (sent.Perm [sending, sender] ∧ (sent.map Cell.id).Nodup ∧
      evaluate sent sending "source(isActor)" =
        evaluate [sending, sender] sending "source(isActor)") := by
  have moved : [sender, twin, sending].Perm [sending, sender, twin] :=
    (List.perm_append_comm : ([sender, twin] ++ [sending]).Perm _)
  have kept : Cells.SameOrder [sender, twin, sending] [sending, sender, twin] := by
    intro id
    by_cases ofFlow : id = "f"
    · subst ofFlow
      rfl
    · have other : (sending.id == id) = false := by simpa using fun same => ofFlow same.symm
      simp [Cells.withId, List.filter_cons, other]
  have swapped : sent.Perm [sending, sender] := .swap sending sender []
  have distinct : (sent.map Cell.id).Nodup := by decide
  refine ⟨⟨moved, kept, ?_⟩, swapped, distinct, ?_⟩
  · exact (order_of_cells_unobserved moved (.inl kept)).2.2 _ sending
  · exact (order_of_cells_unobserved swapped (.inr distinct)).2.2 _ sending

/-- Where cells that share an identifier change places, the flow starts from another one. -/
example : evaluate [sender, twin, sending] sending "source(isActor)" = true ∧
    evaluate [twin, sender, sending] sending "source(isActor)" = false := by decide

end Expression
end ThreatAnalysis
