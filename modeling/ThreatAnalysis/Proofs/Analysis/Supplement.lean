import ThreatAnalysis.Proofs.Analysis.Outcome

/-!
What the supplemental rules add. They are asked behind the baseline of the same cell, but before
the baseline of every later one, and a baseline rule can see through a flow what they found there.
So the findings of a run without them need not be among those of a run with them: one that is
missing comes from a baseline rule that tests what an analysis writes (`FromMarks`). If no baseline
rule tests that on another cell, the two runs agree on the baseline, cell by cell, and the
supplemental findings stand behind. What the runs agree on is up to the identifiers of findings,
which the platform gives.
-/
namespace ThreatAnalysis

/-- An expression of the rule tests an attribute that an analysis writes. -/
def Rule.TestsMarks [Platform] (rule : Rule) : Prop :=
  ∃ test ∈ rule.tests, test.key ∈ Cell.writtenKeys

/-- An expression of the rule tests, at an end of a flow, an attribute that an analysis writes. -/
def Rule.TestsMarksAfar [Platform] (rule : Rule) : Prop :=
  ∃ test ∈ rule.tests, test.far = true ∧ test.key ∈ Cell.writtenKeys

namespace Analysis

section Supplemented
variable [Platform] {rules : List Rule} {rule : Rule} {before after again behind done rest those : Cells}
  {cell : Cell} {catalog : Catalog}

/-- The origins of the findings of a cell. -/
def origins (cell : Cell) : List String := cell.findings.map Finding.origin

/-- A rule that tests no marks fires alike on cells with the same input. -/
theorem fires_sameInput (input : ¬rule.TestsMarks) (front : Cells.SameInput before again)
    (back : Cells.SameInput after behind) (same : Cell.SameInput a b) :
    fires before after a rule = fires again behind b rule := by
  refine rule.evaluateAny_sameInput (sameInput_between front same back) same fun test tested => ?_
  exact .inl fun written => input ⟨test, tested, written⟩

/-- Whether a rule that tests no marks fires does not depend on the rules before it. -/
theorem mem_firing_iff (input : ¬rule.TestsMarks) :
    rule ∈ firing before after cell rules ↔ rule ∈ rules ∧ fires before after cell rule = true := by
  induction rules generalizing cell with
  | nil => simp [firing]
  | cons head rest ih =>
    have stable : fires before after (addFinding cell (head.findingOn cell)) rule =
        fires before after cell rule :=
      fires_sameInput input (.refl before) (.refl after) (addFinding_sameInput cell _)
    rw [firing]
    cases fired : fires before after cell head with
    | true =>
      rw [if_pos rfl, List.mem_cons, List.mem_cons, ih, stable]
      constructor
      · rintro (rfl | ⟨member, fires⟩)
        · exact ⟨.inl rfl, fired⟩
        · exact ⟨.inr member, fires⟩
      · rintro ⟨rfl | member, fires⟩
        · exact .inl rfl
        · exact .inr ⟨member, fires⟩
    | false =>
      rw [if_neg (by decide), List.mem_cons, ih]
      constructor
      · rintro ⟨member, fires⟩
        exact ⟨.inr member, fires⟩
      · rintro ⟨rfl | member, fires⟩
        · rw [fired] at fires
          cases fires
        · exact ⟨member, fires⟩

/-- Rules that test no marks on other cells see the same cell alike in both runs, with the findings
that were added so far. -/
theorem firing_congr_front (near : ∀ rule ∈ rules, ¬rule.TestsMarksAfar)
    (front : Cells.SameInput before again) :
    firing before after cell rules = firing again after cell rules := by
  induction rules generalizing cell with
  | nil => rfl
  | cons rule rest ih =>
    have later := fun other member => near other (List.mem_cons_of_mem rule member)
    have verdict : fires before after cell rule = fires again after cell rule := by
      refine rule.evaluateAny_sameInput (sameInput_between front (.refl cell) (.refl after))
        (.refl cell) fun test tested => ?_
      cases reach : test.far with
      | true =>
        exact .inl fun written => near rule List.mem_cons_self ⟨test, tested, reach, written⟩
      | false => exact .inr ⟨reach, rfl⟩
    rw [firing, firing, verdict, ih later, ih later]

/-- What holds between the results of two runs on each cell, if those before it had the same input,
holds through both runs. -/
theorem analyzed_rel {relation : Cell → Cell → Prop} {others : List Rule}
    (each : ∀ before again after cell, Cells.SameInput before again →
      relation (analyzeCell rules before after cell) (analyzeCell others again after cell))
    (front : Cells.SameInput done those) (rest : Cells) :
    List.Forall₂ relation (analyzed rules done rest) (analyzed others those rest) := by
  induction rest generalizing done those with
  | nil => exact .nil
  | cons cell rest ih =>
    refine .cons (each done those rest cell front) (ih (sameInput_between front ?_ .nil))
    exact (analyzeCell_sameInput rules done rest cell).trans
      (analyzeCell_sameInput others those rest cell).symm

/-- Every finding of the run without the supplemental rules is one of the run with them, or one of a
baseline rule that tests marks. -/
def FromMarks (catalog : Catalog) (plain full : Cell) : Prop :=
  ∀ finding ∈ plain.findings, finding ∈ full.findings ∨
    ∃ rule ∈ catalog.baseline, finding = rule.findingOn plain ∧ rule.TestsMarks

/-- The supplemental rules leave the findings of the run without them, and add their own. -/
def Supplemented (catalog : Catalog) (plain full : Cell) : Prop :=
  ∃ further, further.Sublist (catalog.supplemental.filter Rule.isActive) ∧
    full.findings = plain.findings ++ generatedOn plain further

theorem Supplemented.origins_subset (supplemented : Supplemented catalog plain full) :
    origins plain ⊆ origins full := by
  obtain ⟨further, _, findings⟩ := supplemented
  rw [origins, origins, findings, List.map_append]
  exact List.subset_append_left _ _

omit [Platform] in
theorem rulesOf_false (catalog : Catalog) : rulesOf catalog false = catalog.baseline :=
  List.append_nil _

theorem analyzeCell_fromMarks (catalog : Catalog) (before again after : Cells) (cell : Cell)
    (front : Cells.SameInput before again) :
    FromMarks catalog (analyzeCell (rulesOf catalog false) before after cell)
      (analyzeCell (rulesOf catalog true) again after cell) := by
  intro finding member
  cases scope : cell.has .outOfScope with
  | true =>
    rw [analyzeCell_outOfScope scope] at member ⊢
    exact .inl member
  | false =>
    rw [analyzeCell_inScope scope] at member
    rw [analyzeCell_inScope scope, analyzeCell_inScope scope, findings_marked]
    rw [findings_marked, List.mem_append] at member
    rcases member with byHand | generated
    · exact .inl (List.mem_append_left _ byHand)
    · obtain ⟨rule, fired, rfl⟩ := List.mem_map.mp generated
      have known := ((firing_sublist _ _ _ _).subset fired)
      rw [rulesOf_false] at known
      by_cases input : rule.TestsMarks
      · refine .inr ⟨rule, (List.mem_filter.mp known).1, ?_, input⟩
        exact findingOn_sameInput rule (marked_sameInput cell _).symm
      · refine .inl (List.mem_append_right _ (List.mem_map_of_mem ?_))
        rw [mem_firing_iff input] at fired ⊢
        refine ⟨List.mem_append_left _ (List.mem_filter.mp known).1, ?_⟩
        rw [← fires_sameInput input front (.refl after) (.refl (dropGenerated cell))]
        exact fired.2

theorem analyzeCell_supplemented (near : ∀ rule ∈ catalog.baseline, ¬rule.TestsMarksAfar)
    (before again after : Cells) (cell : Cell) (front : Cells.SameInput before again) :
    Supplemented catalog (analyzeCell (rulesOf catalog false) before after cell)
      (analyzeCell (rulesOf catalog true) again after cell) := by
  cases scope : cell.has .outOfScope with
  | true =>
    refine ⟨[], List.nil_sublist _, ?_⟩
    rw [analyzeCell_outOfScope scope, analyzeCell_outOfScope scope]
    exact (List.append_nil _).symm
  | false =>
    rw [analyzeCell_inScope scope, analyzeCell_inScope scope]
    have whole : rulesOf catalog true = catalog.baseline ++ catalog.supplemental := rfl
    refine ⟨_, firing_sublist again after (applyRules again after catalog.baseline
      (dropGenerated cell)) catalog.supplemental, ?_⟩
    rw [findings_marked, findings_marked, rulesOf_false, whole, firing_append,
      firing_congr_front near front, List.append_assoc,
      generatedOn_sameInput _ (marked_sameInput cell _)]
    exact congrArg _ List.map_append

/-- Without the supplemental rules an analysis succeeds if and only if it does with them, and then
what it finds beyond the other run comes from baseline rules that test marks. If no baseline rule
tests marks on other cells, the supplemental rules only add: no origin is lost on any cell. -/
theorem supplement_loses_only_from_marks {source : DiagramSource} {tree : FileTree}
    {diagram : Diagram} (reads : source.read tree = .ok diagram) (catalog : Catalog)
    (enabled : Bool) :
    (¬Engine.Copyable diagram ∧ ∀ included,
      Engine.analyze (some catalog) enabled source tree (some included) =
        .error (.copy .nesting)) ∨
    ∃ plain full, Engine.analyze (some catalog) enabled source tree (some false) = .ok plain ∧
      Engine.analyze (some catalog) enabled source tree (some true) = .ok full ∧
      List.Forall₂ (FromMarks catalog) plain.cells full.cells ∧
      ((∀ rule ∈ catalog.baseline, ¬rule.TestsMarksAfar) →
        List.Forall₂ (fun plain full => Supplemented catalog plain full ∧
          origins plain ⊆ origins full) plain.cells full.cells) := by
  by_cases copyable : Engine.Copyable diagram
  · have ran := fun included => ((Engine.analyze_of_read reads catalog enabled
      (some included)).resolve_right fun failed => failed.1 copyable).2
    refine .inr ⟨_, _, ran false, ran true, ?_, fun near => ?_⟩
    · rw [Diagram.cells_analyze, Diagram.cells_analyze]
      exact analyzed_rel (analyzeCell_fromMarks catalog) .nil diagram.cells
    · rw [Diagram.cells_analyze, Diagram.cells_analyze]
      exact (analyzed_rel (analyzeCell_supplemented near) .nil diagram.cells).imp
        fun _ _ supplemented => ⟨supplemented, supplemented.origins_subset⟩
  · exact .inl ⟨copyable, fun included => ((Engine.analyze_of_read reads catalog enabled
      (some included)).resolve_left fun ran => copyable ran.1).2⟩

end Supplemented

open scoped Platform

/-- A flow behind the actor it starts from. -/
def actorPayload : Json :=
  .object [("cells", .array [.object [("id", .string "a"), ("type", .string "tm.Actor")],
    .object [("id", .string "f"), ("type", .string "tm.Flow"), ("source", .string "a")]])]

def actorDiagram : Diagram := (Diagram.read actorPayload).toOption.getD Record.empty

def namedRule (name text : String) : Rule :=
  ((Record.empty : Rule).set .name (some name)).set .expressions [text]

/-- The baseline tests marks, but only those of the cell itself. -/
def modestCatalog : Catalog where
  baseline := [namedRule "Sent" "source(isActor)",
    namedRule "Found" "not(hasProperty(threats, []))"]
  supplemental := [namedRule "Extra" "isActor"]
  files := []

theorem supplement_of_modest :
    DiagramSource.read ⟨[]⟩ (.payload actorPayload) = .ok actorDiagram ∧
    (∀ rule ∈ modestCatalog.baseline, ¬rule.TestsMarksAfar) ∧
    ∃ plain full,
      Engine.analyze (some modestCatalog) true (.payload actorPayload) ⟨[]⟩ (some false) =
        .ok plain ∧
      Engine.analyze (some modestCatalog) true (.payload actorPayload) ⟨[]⟩ (some true) =
        .ok full ∧
      List.Forall₂ (fun plain full => Supplemented modestCatalog plain full ∧
        origins plain ⊆ origins full) plain.cells full.cells := by
  have reads : DiagramSource.read ⟨[]⟩ (.payload actorPayload) = .ok actorDiagram := rfl
  have copyable : Engine.Copyable actorDiagram := by
    unfold Engine.Copyable
    decide
  have near : ∀ rule ∈ modestCatalog.baseline, ¬rule.TestsMarksAfar := by
    unfold Rule.TestsMarksAfar
    decide
  obtain ⟨plain, full, ranPlain, ranFull, _, supplemented⟩ :=
    (supplement_loses_only_from_marks reads modestCatalog true).resolve_left
      fun failed => failed.1 copyable
  exact ⟨reads, near, plain, full, ranPlain, ranFull, supplemented near⟩

/-- The baseline asks for flows from a cell without open threats. -/
def calmCatalog : Catalog where
  baseline := [namedRule "Calm" "source(hasProperty(hasOpenThreats, false))"]
  supplemental := [namedRule "Extra" "isActor"]
  files := []

/-- The supplemental finding on the actor hides the finding that the flow has without it. -/
theorem supplement_hides_origin : ∃ plain full,
    Engine.analyze (some calmCatalog) true (.payload actorPayload) ⟨[]⟩ (some false) = .ok plain ∧
      Engine.analyze (some calmCatalog) true (.payload actorPayload) ⟨[]⟩ (some true) = .ok full ∧
      plain.cells.map origins = [[], ["Calm"]] ∧ full.cells.map origins = [["Extra"], []] ∧
      ¬List.Forall₂ (fun plain full => origins plain ⊆ origins full) plain.cells full.cells :=
  ⟨_, _, rfl, rfl, by decide, by decide, by decide⟩

end Analysis
end ThreatAnalysis
