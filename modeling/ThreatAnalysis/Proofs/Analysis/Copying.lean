import ThreatAnalysis.Proofs.Analysis.Run
import ThreatAnalysis.Proofs.Diagram.RoundTrip

/-! How deep diagrams are nested. What an analysis writes is flat, so that a diagram that could be
copied can be copied again after it was analyzed. -/
namespace ThreatAnalysis

namespace Json
variable {bound : Nat}

theorem depthItems_le_iff {items : List Json} :
    depthItems items ≤ bound ↔ ∀ item ∈ items, item.depth ≤ bound := by
  induction items with
  | nil => simp only [depthItems, Nat.zero_le, List.not_mem_nil, false_imp_iff, implies_true]
  | cons item rest ih => rw [depthItems, Nat.max_le, ih, List.forall_mem_cons]

theorem depthFields_le_iff {fields : Fields} :
    depthFields fields ≤ bound ↔ ∀ member ∈ fields, member.2.depth ≤ bound := by
  induction fields with
  | nil => simp only [depthFields, Nat.zero_le, List.not_mem_nil, false_imp_iff, implies_true]
  | cons member rest ih => rw [depthFields, Nat.max_le, ih, List.forall_mem_cons]

theorem depth_array_le_iff {write : α → Json} {values : List α} :
    (Json.array (values.map write)).depth ≤ bound + 1 ↔
      ∀ value ∈ values, (write value).depth ≤ bound := by
  rw [depth, Nat.add_le_add_iff_right, depthItems_le_iff, List.forall_mem_map]

end Json

/-- A record is nested one level deeper than the values of its fields and its extras. -/
theorem Record.depth_encode_le_iff {schema : Schema} {record : Record schema}
    (lawful : schema.Lawful) {bound : Nat} :
    (record.encode .given).depth ≤ bound + 1 ↔
      (∀ field value, record.given field = some value →
        (schema.write .given field value).depth ≤ bound) ∧
      ∀ member ∈ record.extras, member.2.depth ≤ bound := by
  rw [Record.encode, Json.depth, Nat.add_le_add_iff_right, Json.depthFields_le_iff,
    fields_given, List.forall_mem_append]
  refine and_congr ⟨fun each field value given => ?_, fun each member listed => ?_⟩ Iff.rfl
  · exact each _ ((mem_members lawful).mpr ⟨field, value, given, rfl⟩)
  · obtain ⟨field, value, given, rfl⟩ := (mem_members lawful).mp listed
    exact each field value given

namespace Analysis
variable {cell : Cell} {rules : List Rule} {before after done rest : Cells} {bound : Nat}

theorem depth_finding_le (shallow : (cell.encode .given).depth ≤ bound + 3) {finding : Finding}
    (member : finding ∈ cell.findings) : (finding.encode .given).depth ≤ bound + 1 := by
  rcases cell.get_cases .threats with absent | given
  · rw [Cell.findings, absent] at member
    cases member
  · have list := ((Record.depth_encode_le_iff Cell.lawful).mp shallow).1 .threats _ given
    exact Json.depth_array_le_iff.mp list finding member

/-- The mark of an analysis is flat, and the findings it leaves are no deeper than others. -/
theorem depth_marked_le (shallow : (cell.encode .given).depth ≤ bound + 3)
    {findings : List Finding}
    (each : ∀ finding ∈ findings, (finding.encode .given).depth ≤ bound + 1) :
    ((marked cell findings).encode .given).depth ≤ bound + 3 := by
  obtain ⟨fields, extras⟩ := (Record.depth_encode_le_iff Cell.lawful).mp shallow
  refine (Record.depth_encode_le_iff Cell.lawful).mpr ⟨fun field value given => ?_, extras⟩
  cases written : field.isWritten with
  | false =>
    rw [(marked_sameInput cell findings).given field written] at given
    exact fields field value given
  | true =>
    match field with
    | .threats =>
      cases given
      exact Json.depth_array_le_iff.mpr each
    | .flag .openThreats =>
      cases given
      exact Nat.zero_le _

variable [Platform]

theorem depth_findingOn (rule : Rule) (cell : Cell) :
    ((rule.findingOn cell).encode .given).depth ≤ bound + 1 := by
  refine (Record.depth_encode_le_iff Finding.lawful).mpr ⟨fun field value _ => ?_, ?_⟩
  · cases field <;> exact Nat.zero_le bound
  · exact fun _ listed => nomatch listed

theorem depth_analyzeCell_le (shallow : (cell.encode .given).depth ≤ bound + 3) :
    ((analyzeCell rules before after cell).encode .given).depth ≤ bound + 3 := by
  cases scope : cell.has .outOfScope with
  | true =>
    rw [analyzeCell_outOfScope scope]
    exact shallow
  | false =>
    rw [analyzeCell_inScope scope]
    refine depth_marked_le shallow fun finding member => ?_
    rcases List.mem_append.mp member with manual | generated
    · exact depth_finding_le shallow (List.mem_filter.mp manual).1
    · obtain ⟨rule, _, rfl⟩ := List.mem_map.mp generated
      exact depth_findingOn rule cell

theorem depth_analyzed_le (shallow : ∀ cell ∈ rest, (cell.encode .given).depth ≤ bound + 3) :
    ∀ cell ∈ analyzed rules done rest, (cell.encode .given).depth ≤ bound + 3 := by
  induction rest generalizing done with
  | nil => exact fun _ listed => nomatch listed
  | cons cell rest ih =>
    rw [List.forall_mem_cons] at shallow
    rw [analyzed, List.forall_mem_cons]
    exact ⟨depth_analyzeCell_le shallow.1, ih shallow.2⟩

end Analysis

/-- A diagram that was analyzed can be copied if it could be before. -/
theorem Engine.Copyable.analyze [Platform] {diagram : Diagram} (copyable : Copyable diagram)
    (catalog : Catalog) (supplemental : Bool) :
    Copyable (diagram.analyze catalog supplemental) := by
  obtain ⟨bound, deepest⟩ := Nat.exists_eq_add_of_le' Platform.five_le_deepestDiagram
  rw [Copyable, deepest] at copyable ⊢
  obtain ⟨fields, extras⟩ := (Record.depth_encode_le_iff Diagram.lawful).mp copyable
  refine (Record.depth_encode_le_iff Diagram.lawful).mpr ⟨fun field value given => ?_, extras⟩
  cases field with
  | title => exact Nat.zero_le _
  | cells =>
    have cells : ∀ cell ∈ diagram.cells, (cell.encode .given).depth ≤ bound + 3 := by
      rcases diagram.get_cases .cells with absent | given
      · rw [Diagram.cells, absent]
        exact fun _ listed => nomatch listed
      · exact Json.depth_array_le_iff.mp (fields .cells _ given)
    cases given
    rw [Analysis.analyzeCells_eq, List.nil_append]
    exact Json.depth_array_le_iff.mpr (Analysis.depth_analyzed_le cells)

end ThreatAnalysis
