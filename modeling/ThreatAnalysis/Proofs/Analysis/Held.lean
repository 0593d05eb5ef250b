import ThreatAnalysis.Proofs.Analysis.Run
import ThreatAnalysis.Proofs.Diagram.RoundTrip

/-!
The diagrams a program can hold: those that were read, from a document or a file, and those that
analyses with any catalogs made of them. Each is faithful (`Held.faithful`): what is read is, and an
analysis only writes findings that are read back. So a diagram that was saved stands for the one
that is held.
-/
namespace ThreatAnalysis

namespace Analysis
variable {rules : List Rule} {before after done rest : Cells} {cell : Cell}

theorem faithful_marked (faithful : cell.Faithful) {findings : List Finding}
    (each : ∀ finding ∈ findings, Finding.read (finding.encode .given) = .ok finding) :
    (marked cell findings).Faithful := by
  have written : (cell.withFindings findings).Faithful := faithful.set (Cell.reread_threats each)
  exact written.set rfl

variable [Platform]

theorem faithful_findingOn (rule : Rule) (cell : Cell) : (rule.findingOn cell).Faithful where
  reread field value _ := Finding.reread field value .given
  required field absent := by cases field <;> cases absent
  notKey _ := rfl
  notOtherKey _ _ _ _ := rfl

theorem findingOn_reread (rule : Rule) (cell : Cell) :
    Finding.read ((rule.findingOn cell).encode .given) = .ok (rule.findingOn cell) :=
  (faithful_findingOn rule cell).decode_encode Finding.lawful

/-- An analysis keeps findings that are read back, and adds such. -/
theorem faithful_analyzeCell (faithful : cell.Faithful) :
    (analyzeCell rules before after cell).Faithful := by
  cases scope : cell.has .outOfScope with
  | true =>
    rw [analyzeCell_outOfScope scope]
    exact faithful
  | false =>
    rw [analyzeCell_inScope scope]
    refine faithful_marked faithful fun finding member => ?_
    rcases List.mem_append.mp member with manual | generated
    · exact Cell.findings_reread faithful (List.mem_filter.mp manual).1
    · obtain ⟨rule, _, rfl⟩ := List.mem_map.mp generated
      exact findingOn_reread rule cell

theorem faithful_analyzed (faithful : ∀ cell ∈ rest, cell.Faithful) :
    ∀ cell ∈ analyzed rules done rest, cell.Faithful := by
  induction rest generalizing done with
  | nil => exact fun _ listed => nomatch listed
  | cons cell rest ih =>
    rw [List.forall_mem_cons] at faithful
    rw [analyzed, List.forall_mem_cons]
    exact ⟨faithful_analyzeCell faithful.1, ih faithful.2⟩

end Analysis

namespace Diagram
variable [Platform]

theorem faithful_analyze {diagram : Diagram} (faithful : diagram.Faithful) (catalog : Catalog)
    (supplemental : Bool) : (diagram.analyze catalog supplemental).Faithful := by
  have cells : ∀ cell ∈ diagram.cells, cell.Faithful := fun cell member =>
    Schema.faithful_of_decode Cell.lawful (cells_reread faithful member)
  refine faithful.set (reread_cells fun cell member => ?_)
  rw [Analysis.analyzeCells_eq, List.nil_append] at member
  exact (Analysis.faithful_analyzed cells cell member).decode_encode Cell.lawful

/-- The diagrams that come about by reading and analyzing. -/
inductive Held : Diagram → Prop where
  | read (payload : Json) (diagram : Diagram) (accepted : Diagram.read payload = .ok diagram) :
      Held diagram
  | load (tree : FileTree) (path : Path) (diagram : Diagram)
      (accepted : Diagram.load tree path = .ok diagram) : Held diagram
  | analyze (catalog : Option Catalog) (enabled : Bool) (tree : FileTree) (override : Option Bool)
      (diagram result : Diagram) (held : Held diagram)
      (ran : Engine.analyze catalog enabled (.diagram diagram) tree override = .ok result) :
      Held result

theorem load_eq_ok {tree : FileTree} {path : Path} {diagram : Diagram} :
    Diagram.load tree path = .ok diagram ↔
      ∃ payload, tree.document path = .ok payload ∧ Diagram.read payload = .ok diagram := by
  unfold Diagram.load
  constructor
  · intro loaded
    cases found : tree.document path with
    | ok payload =>
      rw [found] at loaded
      exact ⟨payload, rfl, parse_eq_ok_iff.mp loaded⟩
    | error error =>
      rw [found] at loaded
      cases error with
      | file error =>
        dsimp only at loaded
        split at loaded <;> cases loaded
      | _ => cases loaded
  · rintro ⟨payload, found, read⟩
    rw [found]
    exact parse_eq_ok_iff.mpr read

theorem Held.faithful {diagram : Diagram} (held : Held diagram) : diagram.Faithful := by
  induction held with
  | read _ _ accepted => exact faithful_of_read accepted
  | load _ _ _ accepted =>
    obtain ⟨_, _, read⟩ := load_eq_ok.mp accepted
    exact faithful_of_read read
  | analyze catalog enabled tree override diagram result _ ran ih =>
    cases catalog with
    | none => cases ran
    | some catalog =>
      have reads : (DiagramSource.diagram diagram).read tree = .ok diagram := rfl
      rcases Engine.analyze_of_read reads catalog enabled override with ⟨_, outcome⟩ | ⟨_, failed⟩
      · rw [ran, Except.ok.injEq] at outcome
        rw [outcome]
        exact faithful_analyze ih catalog _
      · rw [ran] at failed
        cases failed

end Diagram

/-- Whether a source holds what is written for a diagram. -/
def DiagramSource.Saves [Platform] (tree : FileTree) (diagram : Diagram) : DiagramSource → Prop
  | .payload document => document = diagram.encode .given
  | .file name => tree.document (.ofString name) = .ok (diagram.encode .given)
  | .diagram _ => False

theorem DiagramSource.Saves.read [Platform] {tree : FileTree} {diagram : Diagram}
    {source : DiagramSource} (saves : source.Saves tree diagram) (faithful : diagram.Faithful) :
    source.read tree = .ok diagram := by
  have reread := Diagram.read_encode faithful
  cases source with
  | payload document =>
    cases saves
    exact Diagram.parse_eq_ok_iff.mpr reread
  | file name => exact Diagram.load_eq_ok.mpr ⟨_, saves, reread⟩
  | diagram _ => cases saves

theorem Engine.analyze_congr [Platform] {source other : DiagramSource} {tree : FileTree}
    (same : source.read tree = other.read tree) (catalog : Option Catalog) (enabled : Bool)
    (override : Option Bool) :
    analyze catalog enabled source tree override = analyze catalog enabled other tree override := by
  unfold analyze
  rw [same]

namespace Diagram

/-- Every diagram that can be held is read back from what is written for it, and wherever it was
saved, an analysis of what was saved is an analysis of the diagram. -/
theorem held_reread [Platform] {diagram : Diagram} (held : Held diagram) :
    Diagram.read (diagram.encode .given) = .ok diagram ∧
      ∀ source tree, DiagramSource.Saves tree diagram source →
        source.read tree = .ok diagram ∧
          ∀ catalog enabled override, Engine.analyze catalog enabled source tree override =
            Engine.analyze catalog enabled (.diagram diagram) tree override := by
  refine ⟨read_encode held.faithful, fun source tree saves => ?_⟩
  have reads := saves.read held.faithful
  exact ⟨reads, Engine.analyze_congr reads⟩

open scoped Platform

/-- A diagram with names of both kinds, extras under other keys and values to coerce. -/
def mixedPayload : Json :=
  .object [("nodes", .array [.object [("id", .string "a"), ("is_encrypted", .string "Yes"),
    ("threats", .array [.object [("title", .int 7), ("category", .null), ("origin", .null)]]),
    ("findings", .string "kept"), ("out_of_scope", .null)]]), ("owner", .null)]

def mixedDiagram : Diagram := (Diagram.read mixedPayload).toOption.getD Record.empty

def encryptedCatalog : Catalog :=
  ⟨[(Record.empty : Rule).set .expressions ["isEncrypted"]], [], []⟩

/-- The diagram after an analysis. -/
def mixedResult : Diagram := mixedDiagram.analyze encryptedCatalog true

theorem mixed_reread : Held mixedResult ∧
    Diagram.read (mixedResult.encode .given) = .ok mixedResult ∧
      Engine.analyze (some encryptedCatalog) true (.payload (mixedResult.encode .given)) ⟨[]⟩ none =
        Engine.analyze (some encryptedCatalog) true (.diagram mixedResult) ⟨[]⟩ none := by
  have held : Held mixedResult :=
    .analyze (some encryptedCatalog) true ⟨[]⟩ none mixedDiagram _ (.read mixedPayload _ rfl) rfl
  obtain ⟨reread, saved⟩ := held_reread held
  have saves : DiagramSource.Saves ⟨[]⟩ mixedResult (.payload (mixedResult.encode .given)) := rfl
  exact ⟨held, reread, (saved _ _ saves).2 _ _ _⟩

end Diagram
end ThreatAnalysis
