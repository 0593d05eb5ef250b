import ThreatAnalysis.Proofs.Analysis.Held
import ThreatAnalysis.Proofs.Analysis.Outcome

/-!
What an analysis leaves alone, seen in what is written for a diagram. Only fields that were given
are written, so that every field an analysis gives shows. Between the documents of a diagram and of
the analyzed diagram there is no difference but in the findings of cells in scope and in whether
they have any (`DiagramFrame`); a cell that is out of scope is written as before, with whatever an
earlier analysis left on it.
-/
namespace ThreatAnalysis

/-- Two objects with the same members in the same order, except under some keys. -/
def Json.AgreeBeyond (keys : List String) : Json → Json → Prop
  | .object fields, .object others =>
    fields.filter (fun member => member.1 ∉ keys) = others.filter (fun member => member.1 ∉ keys)
  | _, _ => False

/-- Records that differ at most in fields with some keys are written alike beyond these keys. -/
theorem Record.agreeBeyond {schema : Schema} {record other : Record schema} {keys : List String}
    (given : ∀ field, schema.key field ∉ keys → record.given field = other.given field)
    (extras : record.extras = other.extras) :
    Json.AgreeBeyond keys (record.encode .given) (other.encode .given) := by
  have members : record.members.filter (fun member => member.1 ∉ keys) =
      other.members.filter (fun member => member.1 ∉ keys) := by
    unfold Record.members
    rw [List.filter_filterMap, List.filter_filterMap]
    refine List.filterMap_congr fun field _ => ?_
    by_cases hidden : schema.key field ∈ keys
    · have dropped : ∀ known : Record schema,
          (known.member .given field).filter (fun member => member.1 ∉ keys) = none := by
        intro known
        unfold Record.member
        cases known.given field <;> simp [hidden]
      rw [dropped record, dropped other]
    · have same : record.member .given field = other.member .given field := by
        unfold Record.member
        simp only [given field hidden]
      rw [same]
  unfold Record.encode Json.AgreeBeyond
  simp only [Record.fields_given, List.filter_append, members, extras]

namespace Analysis

/-- The keys under which an analysis writes. -/
def outputKeys : List String := ["threats", "hasOpenThreats"]

/-- How the document of a cell and that of the analyzed cell may differ. -/
structure CellFrame (before after : Json) : Prop where
  outOfScope : before.get? "outOfScope" = some (.bool true) → after = before
  beyondOutput : Json.AgreeBeyond outputKeys after before

/-- How the document of a diagram and that of the analyzed diagram may differ. -/
structure DiagramFrame (before after : Json) : Prop where
  beyondCells : Json.AgreeBeyond ["cells"] after before
  cells : ∃ documents results, before.get? "cells" = some (.array documents) ∧
    after.get? "cells" = some (.array results) ∧ List.Forall₂ CellFrame documents results

/-- A field that is not written under an output key is input. -/
theorem isWritten_of_key {field : Cell.Field} (beyond : field.key ∉ outputKeys) :
    field.isWritten = false := by
  match field with
  | .threats => exact absurd (by decide) beyond
  | .flag .openThreats => exact absurd (by decide) beyond
  | .flag .encrypted | .flag .publicNetwork | .flag .publicFacing | .flag .outOfScope => rfl
  | .id | .type | .name | .description | .endpoint _ => rfl

theorem agreeBeyond_of_sameInput {cell other : Cell} (same : Cell.SameInput cell other) :
    Json.AgreeBeyond outputKeys (cell.encode .given) (other.encode .given) :=
  Record.agreeBeyond (fun field beyond => same.given field (isWritten_of_key beyond)) same.extras

/-- A faithful cell is out of scope if what is written for it says so. -/
theorem outOfScope_of_written {cell : Cell} (faithful : cell.Faithful)
    (written : (cell.encode .given).get? "outOfScope" = some (.bool true)) :
    cell.has .outOfScope = true := by
  have found := (faithful.get?_key Cell.lawful (.flag .outOfScope)).symm.trans written
  obtain ⟨flag, given, stated⟩ := Option.map_eq_some_iff.mp found
  have held : cell.flag .outOfScope = flag :=
    congrArg (fun known : Option (Option Bool) => known.getD (some false)) given
  unfold Cell.has
  rw [held]
  cases flag with
  | none => cases stated
  | some flag =>
    cases stated
    rfl

/-- A diagram is written with its cells in an array. -/
theorem get?_cells {diagram : Diagram} (faithful : diagram.Faithful) :
    (diagram.encode .given).get? "cells" = some (.array (diagram.cells.map (·.encode .given))) := by
  have found := faithful.get?_key Diagram.lawful .cells
  rw [Diagram.given_cells faithful] at found
  exact found

section Run
variable [Platform]

theorem analyzeCell_frame {cell : Cell} (faithful : cell.Faithful) (rules : List Rule)
    (before after : Cells) :
    CellFrame (cell.encode .given) ((analyzeCell rules before after cell).encode .given) where
  outOfScope written := by
    rw [analyzeCell_outOfScope (outOfScope_of_written faithful written)]
  beyondOutput := agreeBeyond_of_sameInput (analyzeCell_sameInput rules before after cell)

theorem analyzed_frame {rest : Cells} (faithful : ∀ cell ∈ rest, cell.Faithful)
    (rules : List Rule) (done : Cells) :
    List.Forall₂ CellFrame (rest.map (·.encode .given))
      ((analyzed rules done rest).map (·.encode .given)) := by
  induction rest generalizing done with
  | nil => exact .nil
  | cons cell rest ih =>
    rw [List.forall_mem_cons] at faithful
    exact .cons (analyzeCell_frame faithful.1 rules done rest) (ih faithful.2 _)

theorem analyze_frame {diagram : Diagram} (faithful : diagram.Faithful) (catalog : Catalog)
    (supplemental : Bool) :
    DiagramFrame (diagram.encode .given)
      ((diagram.analyze catalog supplemental).encode .given) where
  beyondCells := by
    refine Record.agreeBeyond (fun field beyond => ?_) rfl
    cases field with
    | title => rfl
    | cells => exact absurd List.mem_cons_self beyond
  cells := by
    have each : ∀ cell ∈ diagram.cells, cell.Faithful := fun cell member =>
      Schema.faithful_of_decode Cell.lawful (Diagram.cells_reread faithful member)
    refine ⟨_, _, get?_cells faithful,
      get?_cells (Diagram.faithful_analyze faithful catalog supplemental), ?_⟩
    rw [Diagram.cells_analyze]
    exact analyzed_frame each _ []

/-- Whatever the rules test, an analysis of a diagram that was read, or analyzed before, leaves
everything that is written for it as it was, but the findings of the cells in scope and whether
they have any. -/
theorem analysis_keeps_frame {source : DiagramSource} {tree : FileTree} {diagram : Diagram}
    (held : Diagram.Held diagram) (reads : source.read tree = .ok diagram) (catalog : Catalog)
    (enabled : Bool) (override : Option Bool) :
    (¬Engine.Copyable diagram ∧
      Engine.analyze (some catalog) enabled source tree override = .error (.copy .nesting)) ∨
    ∃ result, Engine.analyze (some catalog) enabled source tree override = .ok result ∧
      DiagramFrame (diagram.encode .given) (result.encode .given) := by
  rcases Engine.analyze_of_read reads catalog enabled override with ⟨_, ran⟩ | failed
  · exact .inr ⟨_, ran, analyze_frame held.faithful catalog _⟩
  · exact .inl failed

end Run

open scoped Platform

/-- Two cells with one identifier, the first out of scope and with marks of an earlier run. -/
def settledPayload : Json :=
  .object [("title", .string "t"), ("owner", .null), ("cells", .array [
    .object [("id", .string "a"), ("outOfScope", .bool true), ("hasOpenThreats", .null),
      ("threats", .array [.object [("title", .string "Old"), ("isGenerated", .bool true)]])],
    .object [("id", .string "a"), ("type", .string "tm.Flow"), ("isEncrypted", .null),
      ("source", .object [("cell", .string "a"), ("port", .int 1)])]])]

def settledDiagram : Diagram := (Diagram.read settledPayload).toOption.getD Record.empty

theorem settled_keeps_frame :
    Diagram.Held settledDiagram ∧
    DiagramSource.read ⟨[]⟩ (.payload settledPayload) = .ok settledDiagram ∧
    ∃ result, Engine.analyze (some markTestingCatalog) true (.payload settledPayload) ⟨[]⟩ none =
      .ok result ∧ DiagramFrame (settledDiagram.encode .given) (result.encode .given) := by
  have held : Diagram.Held settledDiagram := .read settledPayload _ rfl
  have reads : DiagramSource.read ⟨[]⟩ (.payload settledPayload) = .ok settledDiagram := rfl
  have copyable : Engine.Copyable settledDiagram := by
    unfold Engine.Copyable
    decide
  exact ⟨held, reads, (analysis_keeps_frame held reads markTestingCatalog true none).resolve_left
    fun failed => failed.1 copyable⟩

end Analysis
end ThreatAnalysis
