import ThreatAnalysis.Proofs.Analysis.Run
import ThreatAnalysis.Proofs.Record.RoundTrip

/-!
What an analysis can leave on a cell, whatever its rules test. A rule may look at the very findings
that are being added, so which rules fire is not known; but each position of the catalog is asked
once and in order, so those that fire are a sublist of the active rules, the baseline first
(`firing_append`, `firing_sublist`). The findings written by hand stand in front of theirs.
-/
namespace ThreatAnalysis

namespace Finding

/-- Whether the document of a finding says that it was generated. Only the value true says so, and
the key `synthetic` counts only where `isGenerated` is absent. -/
def SaysGenerated (document : Json) : Prop :=
  (document.get? "isGenerated").or (document.get? "synthetic") = some (.bool true)

theorem isGenerated_iff {document : Json} {finding : Finding}
    (read : Finding.read document = .ok finding) :
    finding.isGenerated = true ↔ SaysGenerated document := by
  obtain ⟨fields, rfl, _, rfl⟩ := Schema.of_decode read
  have located := schema.locate_value fields .generated
  have given := schema.given_accept fields .generated
  rw [located] at given
  have flagged : isGenerated (schema.accept fields) = true ↔
      Option.getD ((schema.accept fields).given .generated) false = true := Iff.rfl
  rw [flagged, given]
  show (Option.bind ((fields.get? "isGenerated").or (fields.get? "synthetic")) _).getD _ = _ ↔
    (fields.get? "isGenerated").or (fields.get? "synthetic") = _
  cases (fields.get? "isGenerated").or (fields.get? "synthetic") with
  | none => exact ⟨nofun, nofun⟩
  | some value =>
    cases value with
    | bool flag =>
      cases flag with
      | false => exact ⟨nofun, nofun⟩
      | true => exact ⟨fun _ => rfl, fun _ => rfl⟩
    | _ => exact ⟨nofun, nofun⟩

end Finding

namespace Analysis

theorem has_openThreats_marked (cell : Cell) (findings : List Finding) :
    (marked cell findings).has .openThreats = true ↔ findings ≠ [] := by
  have flag : (marked cell findings).flag .openThreats = some !findings.isEmpty := by
    rw [← findings_withFindings cell findings]
    exact Record.get_set_self (cell.withFindings findings) (Cell.Field.flag .openThreats) _
  rw [Cell.has, flag]
  cases findings <;> simp

variable [Platform] {before after : Cells} {cell : Cell}

theorem isActive_of_fires {rule : Rule} (fired : fires before after cell rule = true) :
    rule.isActive = true := by
  unfold Rule.isActive
  cases texts : rule.expressions with
  | nil =>
    rw [fires, texts] at fired
    cases fired
  | cons text texts => rfl

/-- Each position of a list of rules fires at most once, in order, and only if it is active. -/
theorem firing_sublist (before after : Cells) (cell : Cell) (rules : List Rule) :
    (firing before after cell rules).Sublist (rules.filter Rule.isActive) := by
  induction rules generalizing cell with
  | nil => exact .slnil
  | cons rule rest ih =>
    rw [firing]
    cases fired : fires before after cell rule with
    | true =>
      rw [if_pos rfl, List.filter_cons_of_pos (isActive_of_fires fired)]
      exact (ih _).cons_cons rule
    | false =>
      rw [if_neg (by decide)]
      exact (ih cell).trans ((List.sublist_cons_self rule rest).filter _)

/-- Rules behind others are asked about the cell as the others leave it. -/
theorem firing_append (before after : Cells) (cell : Cell) (first second : List Rule) :
    firing before after cell (first ++ second) = firing before after cell first ++
      firing before after (applyRules before after first cell) second := by
  induction first generalizing cell with
  | nil => rfl
  | cons rule rest ih =>
    have applied : applyRules before after (rule :: rest) cell =
        applyRules before after rest (applyRule before after cell rule) := rfl
    rw [List.cons_append, firing, firing, applied, applyRule_eq]
    cases fires before after cell rule with
    | true =>
      rw [if_pos rfl, if_pos rfl, if_pos rfl, ih]
      rfl
    | false => exact ih cell

/-- The active rules among the supplemental ones, if those are included. -/
def supplementalOf (catalog : Catalog) (included : Bool) : List Rule :=
  if included then catalog.supplemental.filter Rule.isActive else []

/-- What a run leaves on a cell in scope if the rules `fired` of the baseline and the supplemental
rules `further` fired on it. -/
structure Outcome (catalog : Catalog) (included : Bool) (cell result : Cell)
    (fired further : List Rule) : Prop where
  baseline : fired.Sublist (catalog.baseline.filter Rule.isActive)
  supplemental : further.Sublist (supplementalOf catalog included)
  findings : result.findings = manual cell ++ generatedOn cell fired ++ generatedOn cell further
  recorded : result.has .openThreats = true ↔ result.findings ≠ []

theorem analyzeCell_outcome (catalog : Catalog) (included : Bool) (before after : Cells)
    (inScope : cell.has .outOfScope = false) : ∃ fired further,
      Outcome catalog included cell (analyzeCell (rulesOf catalog included) before after cell)
        fired further := by
  have active : (if included then catalog.supplemental else []).filter Rule.isActive =
      supplementalOf catalog included := by
    cases included <;> rfl
  have supplemental := firing_sublist before after
    (applyRules before after catalog.baseline (dropGenerated cell))
    (if included then catalog.supplemental else [])
  rw [active] at supplemental
  refine ⟨_, _, firing_sublist before after (dropGenerated cell) _, supplemental, ?_, ?_⟩
  · rw [analyzeCell_inScope inScope, findings_marked, rulesOf, firing_append, List.append_assoc]
    exact congrArg _ List.map_append
  · rw [analyzeCell_inScope inScope, findings_marked]
    exact has_openThreats_marked cell _

/-- Whatever its rules test, an analysis leaves on every cell in scope the findings that were not
said to be generated, as they were, then one finding for each of some active rules of the baseline,
then one for each of some active supplemental rules if those are included; and it records whether
there are any. -/
theorem outcome_of_any_catalog {source : DiagramSource} {tree : FileTree} {diagram : Diagram}
    (reads : source.read tree = .ok diagram) (catalog : Catalog) (enabled : Bool)
    (override : Option Bool) :
    (∀ document finding, Finding.read document = .ok finding →
      (finding.isGenerated = true ↔ Finding.SaysGenerated document)) ∧
    ((¬Engine.Copyable diagram ∧
      Engine.analyze (some catalog) enabled source tree override = .error (.copy .nesting)) ∨
    ∃ result, Engine.analyze (some catalog) enabled source tree override = .ok result ∧
      List.Forall₂ (fun cell resulting => cell.has .outOfScope = false →
        ∃ fired further, Outcome catalog (override.getD enabled) cell resulting fired further)
        diagram.cells result.cells) := by
  refine ⟨fun document finding => Finding.isGenerated_iff, ?_⟩
  rcases Engine.analyze_of_read reads catalog enabled override with ⟨_, ran⟩ | failed
  · refine .inr ⟨_, ran, ?_⟩
    rw [Diagram.cells_analyze]
    exact analyzed_forall₂ (fun before after cell inScope =>
      analyzeCell_outcome catalog _ before after inScope) [] diagram.cells
  · exact .inl failed

end Analysis

namespace Analysis
open scoped Platform

/-- A cell with one finding that is said to be generated and others that only seem to be. -/
def doubtfulPayload : Json :=
  .object [("cells", .array [.object [("id", .string "a"), ("outOfScope", .null),
    ("threats", .array [.object [("isGenerated", .string "true")],
      .object [("synthetic", .bool true)],
      .object [("isGenerated", .int 1), ("synthetic", .bool true)]])]])]

def doubtfulDiagram : Diagram := (Diagram.read doubtfulPayload).toOption.getD Record.empty

/-- Rules that test what an analysis writes, and one that never applies. -/
def markTestingCatalog : Catalog where
  baseline := [(Record.empty : Rule).set .expressions
      ["not(hasProperty(hasOpenThreats))", "hasProperty(threats)"], Record.empty]
  supplemental := [(Record.empty : Rule).set .expressions ["hasProperty(threats, [])"],
    (Record.empty : Rule).set .expressions ["not(hasProperty(threats, []))"]]
  files := []

theorem outcome_of_markTesting :
    DiagramSource.read ⟨[]⟩ (.payload doubtfulPayload) = .ok doubtfulDiagram ∧
    ∃ result, Engine.analyze (some markTestingCatalog) true (.payload doubtfulPayload) ⟨[]⟩ none =
      .ok result ∧
      List.Forall₂ (fun cell resulting => cell.has .outOfScope = false →
        ∃ fired further, Outcome markTestingCatalog true cell resulting fired further)
        doubtfulDiagram.cells result.cells := by
  have reads : DiagramSource.read ⟨[]⟩ (.payload doubtfulPayload) = .ok doubtfulDiagram := rfl
  have copyable : Engine.Copyable doubtfulDiagram := by
    unfold Engine.Copyable
    decide
  obtain ⟨_, outcome⟩ := outcome_of_any_catalog reads markTestingCatalog true none
  exact ⟨reads, outcome.resolve_left fun failed => failed.1 copyable⟩

end Analysis
end ThreatAnalysis
