import Mathlib.Data.List.Forall2
import ThreatAnalysis.Expression.Evaluation
import ThreatAnalysis.Proofs.Expression.Structure
import ThreatAnalysis.Rule.Basic

/-! What evaluation observes of cells. An analysis writes two fields of a cell; everything else is
input. Only the test of an attribute can observe a written field, so expressions that test input
attributes alone hold alike before, during and after an analysis, at any depth and through any end
of a flow. -/
namespace ThreatAnalysis

namespace Cell

/-- The fields that an analysis writes. -/
def Field.isWritten : Field → Bool
  | .threats => true
  | .flag .openThreats => true
  | _ => false

/-- The keys under which a cell tells whether it has findings. -/
def openKeys : List String := ["hasOpenThreats", "has_open_findings"]

/-- The keys of the attributes that an analysis writes. -/
def writtenKeys : List String := ["threats", "findings"] ++ openKeys

/-- Two cells that differ at most in the fields that an analysis writes. -/
structure SameInput (a b : Cell) : Prop where
  given : ∀ field : Field, field.isWritten = false → a.given field = b.given field
  extras : a.extras = b.extras

namespace SameInput
variable {a b c : Cell}

theorem refl (a : Cell) : SameInput a a := ⟨fun _ _ => rfl, rfl⟩

theorem symm (same : SameInput a b) : SameInput b a :=
  ⟨fun field input => (same.given field input).symm, same.extras.symm⟩

theorem trans (first : SameInput a b) (second : SameInput b c) : SameInput a c :=
  ⟨fun field input => (first.given field input).trans (second.given field input),
    first.extras.trans second.extras⟩

/-- Writing a field that an analysis writes keeps the input. -/
theorem set (a : Cell) (field : Field) (written : field.isWritten = true)
    (value : Value field) : SameInput a (Record.set a field value) := by
  refine ⟨fun other input => ?_, rfl⟩
  refine (Record.given_set_other a value ?_).symm
  rintro rfl
  rw [written] at input
  cases input

theorem get (same : SameInput a b) (field : Field) (input : field.isWritten = false) :
    a.get field = b.get field := by
  simp only [Record.get, same.given field input]

theorem id (same : SameInput a b) : a.id = b.id := same.get .id rfl

theorem type (same : SameInput a b) : a.type = b.type := same.get .type rfl

theorem name (same : SameInput a b) : a.name = b.name := same.get .name rfl

theorem isOf (same : SameInput a b) (type : CellType) : a.isOf type = b.isOf type := by
  simp only [Cell.isOf, same.type]

theorem endpoint (same : SameInput a b) (side : End) : a.endpoint side = b.endpoint side := by
  simp only [Cell.endpoint, same.get (.endpoint side) rfl]

theorem has (same : SameInput a b) (flag : Flag) (input : flag ≠ .openThreats) :
    a.has flag = b.has flag := by
  have unwritten : (Field.flag flag).isWritten = false := by
    cases flag <;> first | rfl | exact absurd rfl input
  simp only [Cell.has, Cell.flag, same.get (.flag flag) unwritten]

theorem mentions (same : SameInput a b) (word : String) : a.mentions word = b.mentions word := by
  have described : a.description = b.description := same.get .description rfl
  simp only [Cell.mentions, same.name, described]

end SameInput

theorem Field.key_of_ofKey? {key : String} {field : Field} (found : Field.ofKey? key = some field) :
    key ∈ field.key :: field.otherKey.toList := by
  have named := List.find?_some found
  simp only [Bool.or_eq_true, beq_iff_eq] at named
  rcases named with rfl | other
  · exact List.mem_cons_self
  · rw [other]
    exact List.mem_cons_of_mem _ List.mem_cons_self

theorem Field.ofKey?_of_written {key : String} {field : Field}
    (found : Field.ofKey? key = some field) (written : field.isWritten = true) :
    field = .threats ∨ field = .flag .openThreats ∧ key ∈ openKeys := by
  have named := Field.key_of_ofKey? found
  match field with
  | .threats => exact .inl rfl
  | .flag .openThreats => exact .inr ⟨rfl, named⟩

/-- A key of a written field is a written key. -/
theorem Field.isWritten_of_ofKey? {key : String} {field : Field}
    (found : Field.ofKey? key = some field) (input : key ∉ writtenKeys) :
    field.isWritten = false := by
  refine Bool.eq_false_iff.mpr fun written => input ?_
  rcases Field.ofKey?_of_written found written with rfl | ⟨_, marks⟩
  · exact List.mem_append_left openKeys (Field.key_of_ofKey? found)
  · exact List.mem_append_right ["threats", "findings"] marks

/-- An attribute is the same if the field behind its key is given alike. -/
theorem attribute?_congr {a b : Cell} {key : String} (extras : a.extras = b.extras)
    (given : ∀ field, Field.ofKey? key = some field → a.given field = b.given field) :
    a.attribute? key = b.attribute? key := by
  unfold Cell.attribute?
  cases found : Field.ofKey? key with
  | none => simp only [extras]
  | some field => simp only [given field found]

/-- An attribute that an analysis does not write is part of the input. -/
theorem SameInput.attribute? {a b : Cell} {key : String} (same : SameInput a b)
    (input : key ∉ writtenKeys) : a.attribute? key = b.attribute? key :=
  attribute?_congr same.extras fun field found =>
    same.given field (Field.isWritten_of_ofKey? found input)

/-- Cells with the same input and the same findings differ at most in whether the findings are
recorded. -/
theorem SameInput.attribute?_of_threats {a b : Cell} {key : String} (same : SameInput a b)
    (threats : a.given .threats = b.given .threats) (unmarked : key ∉ openKeys) :
    a.attribute? key = b.attribute? key := by
  refine attribute?_congr same.extras fun field found => ?_
  cases written : field.isWritten with
  | false => exact same.given field written
  | true =>
    rcases Field.ofKey?_of_written found written with rfl | ⟨_, marks⟩
    · exact threats
    · exact absurd marks unmarked

end Cell

namespace Cells
variable {cells others : Cells}

/-- Lists of cells that agree in their input, cell by cell. -/
abbrev SameInput (cells others : Cells) : Prop := List.Forall₂ Cell.SameInput cells others

theorem SameInput.refl (cells : Cells) : SameInput cells cells :=
  List.forall₂_same.mpr fun cell _ => .refl cell

theorem SameInput.symm (same : SameInput cells others) : SameInput others cells :=
  List.Forall₂.flip (same.imp fun _ _ alike => alike.symm)

/-- Every cell has a counterpart with the same input. -/
theorem SameInput.exists_mem (same : SameInput cells others) {cell : Cell} (member : cell ∈ cells) :
    ∃ other ∈ others, Cell.SameInput cell other := by
  induction same with
  | nil => cases member
  | cons head _ ih =>
    rcases List.mem_cons.mp member with rfl | member
    · exact ⟨_, List.mem_cons_self, head⟩
    · obtain ⟨other, listed, alike⟩ := ih member
      exact ⟨other, List.mem_cons_of_mem _ listed, alike⟩

theorem SameInput.find? (same : SameInput cells others) (id : String) :
    Option.Rel Cell.SameInput (cells.find? id) (others.find? id) := by
  induction same with
  | nil => exact .none
  | @cons cell other rest further head _ ih =>
    simp only [Cells.find?, List.find?_cons, head.id]
    cases other.id == id with
    | true => exact .some head
    | false => exact ih

theorem SameInput.atEnd? (same : SameInput cells others) (cell : Cell.SameInput a b)
    (side : Cell.End) :
    Option.Rel Cell.SameInput (cells.atEnd? a side) (others.atEnd? b side) := by
  simp only [Cells.atEnd?, cell.endpoint side]
  cases b.endpoint side with
  | none => exact .none
  | some id => exact same.find? id

theorem SameInput.hasPublicFlowTo (same : SameInput cells others) (id : String) :
    cells.hasPublicFlowTo id = others.hasPublicFlowTo id := by
  induction same with
  | nil => rfl
  | cons head _ ih =>
    simp only [Cells.hasPublicFlowTo, List.any_cons, Cell.isFlow, head.isOf .flow,
      head.has .publicNetwork (by decide), head.endpoint .target] at ih ⊢
    rw [ih]

end Cells

/-- A predicate reads input alone. -/
theorem Predicate.holds_sameInput (predicate : Predicate) (cells : Cells.SameInput these those)
    (cell : Cell.SameInput a b) : predicate.holds these a = predicate.holds those b := by
  cases predicate
  case isPublicFacing =>
    simp only [Predicate.holds, cell.has .publicFacing (by decide), cell.id,
      cells.hasPublicFlowTo b.id]
  case isWebApplication => simp only [Predicate.holds, cell.isOf, cell.mentions]
  case isAPI => simp only [Predicate.holds, cell.isOf, cell.mentions]
  case isEncrypted => exact cell.has .encrypted (by decide)
  case isPublicNetwork => exact cell.has .publicNetwork (by decide)
  case isOutOfScope => exact cell.has .outOfScope (by decide)
  all_goals simp only [Predicate.holds, cell.isOf]

namespace Expression

/-- A test of an attribute. -/
structure Test where
  /-- Whether a cell at an end of a flow is tested instead of the cell itself. -/
  far : Bool
  key : String
deriving DecidableEq, Repr

mutual

/-- The tests of attributes in an expression, at any depth. -/
def testsFrom (far : Bool) : Expression → List Test
  | .primitive _ => []
  | .unknown _ => []
  | .hasProperty name _ => [⟨far, name⟩]
  | .not operand => testsFrom far operand
  | .and operands => testsFromAll far operands
  | .or operands => testsFromAll far operands
  | .source operand => testsFrom true operand
  | .target operand => testsFrom true operand
  | .connects first second => testsFrom true first ++ testsFrom true second

/-- The tests of attributes in several expressions. -/
def testsFromAll (far : Bool) : List Expression → List Test
  | [] => []
  | operand :: rest => testsFrom far operand ++ testsFromAll far rest

end

/-- The tests of attributes in an expression that is evaluated for a cell. -/
def tests (expression : Expression) : List Test := expression.testsFrom false

theorem mem_testsFromAll {operands : List Expression} {operand : Expression} {test : Test}
    (member : operand ∈ operands) (tested : test ∈ operand.testsFrom far) :
    test ∈ testsFromAll far operands := by
  induction operands with
  | nil => cases member
  | cons head rest ih =>
    rw [testsFromAll, List.mem_append]
    rcases List.mem_cons.mp member with rfl | member
    · exact .inl tested
    · exact .inr (ih member)

theorem far_of_mem_testsFromAll {operands : List Expression} {test : Test}
    (each : ∀ operand ∈ operands, test ∈ operand.testsFrom true → test.far = true)
    (tested : test ∈ testsFromAll true operands) : test.far = true := by
  induction operands with
  | nil => cases tested
  | cons head rest ih =>
    rw [testsFromAll, List.mem_append] at tested
    rcases tested with tested | tested
    · exact each head List.mem_cons_self tested
    · exact ih (fun operand member => each operand (List.mem_cons_of_mem _ member)) tested

/-- Beyond the end of a flow there is no way back to the cell itself. -/
theorem far_of_mem_testsFrom {expression : Expression} {test : Test}
    (tested : test ∈ expression.testsFrom true) : test.far = true := by
  induction expression using tree_induction with
  | primitive _ => cases tested
  | unknown _ => cases tested
  | hasProperty name _ =>
    rw [testsFrom, List.mem_singleton] at tested
    rw [tested]
  | not _ ih => exact ih tested
  | and _ ih => exact far_of_mem_testsFromAll ih tested
  | or _ ih => exact far_of_mem_testsFromAll ih tested
  | source _ ih => exact ih tested
  | target _ ih => exact ih tested
  | connects _ _ first second =>
    rw [testsFrom, List.mem_append] at tested
    exact tested.elim first second

/-- A test has the same outcome for two cells with the same input: the attribute is input, or it
is an attribute of the cell itself that both cells have alike. -/
def Test.Agrees (a b : Cell) (test : Test) : Prop :=
  test.key ∉ Cell.writtenKeys ∨ (test.far = false ∧ a.attribute? test.key = b.attribute? test.key)

theorem Test.Agrees.attribute? {test : Test} (agrees : test.Agrees a b)
    (same : Cell.SameInput a b) : a.attribute? test.key = b.attribute? test.key := by
  rcases agrees with input | ⟨_, equal⟩
  · exact same.attribute? input
  · exact equal

theorem Test.Agrees.of_far {test : Test} (agrees : test.Agrees a b) (far : test.far = true)
    (c d : Cell) : test.Agrees c d := by
  rcases agrees with input | ⟨near, _⟩
  · exact .inl input
  · rw [far] at near
    cases near

/-- What holds of the cell at an end of a flow is the same, if every expression that is evaluated
there reads input alone. -/
theorem any_atEnd_congr (cells : Cells.SameInput these those) (cell : Cell.SameInput a b)
    (side : Cell.End) (each : ∀ c d, Cell.SameInput c d → f c = g d) :
    (these.atEnd? a side).any f = (those.atEnd? b side).any g := by
  have ends := cells.atEnd? cell side
  generalize these.atEnd? a side = start at ends ⊢
  generalize those.atEnd? b side = goal at ends ⊢
  cases ends with
  | none => rfl
  | some same => exact each _ _ same

variable [Platform]

theorem allHold_congr {operands : List Expression}
    (each : ∀ operand ∈ operands, operand.holds these a = operand.holds those b) :
    allHold these a operands = allHold those b operands := by
  induction operands with
  | nil => rfl
  | cons head rest ih =>
    rw [allHold, allHold, each head List.mem_cons_self,
      ih fun operand member => each operand (List.mem_cons_of_mem _ member)]

theorem anyHolds_congr {operands : List Expression}
    (each : ∀ operand ∈ operands, operand.holds these a = operand.holds those b) :
    anyHolds these a operands = anyHolds those b operands := by
  induction operands with
  | nil => rfl
  | cons head rest ih =>
    rw [anyHolds, anyHolds, each head List.mem_cons_self,
      ih fun operand member => each operand (List.mem_cons_of_mem _ member)]

/-- An expression holds alike of cells with the same input on which its tests agree. -/
theorem holds_sameInput (cells : Cells.SameInput these those) (expression : Expression)
    {far : Bool} (cell : Cell.SameInput a b)
    (agree : ∀ test ∈ expression.testsFrom far, test.Agrees a b) :
    expression.holds these a = expression.holds those b := by
  induction expression using tree_induction generalizing far a b with
  | primitive predicate => exact predicate.holds_sameInput cells cell
  | unknown _ => rfl
  | hasProperty name value =>
    have equal := (agree ⟨far, name⟩ (by simp only [testsFrom, List.mem_singleton])).attribute? cell
    simp only [holds, propertyHolds, equal]
  | not operand ih => rw [holds, holds, ih cell agree]
  | and operands ih =>
    rw [holds, holds]
    exact allHold_congr fun operand member =>
      ih operand member cell fun test tested => agree test (mem_testsFromAll member tested)
  | or operands ih =>
    rw [holds, holds]
    exact anyHolds_congr fun operand member =>
      ih operand member cell fun test tested => agree test (mem_testsFromAll member tested)
  | source operand ih =>
    rw [holds, holds, Cell.isFlow, Cell.isFlow, cell.isOf, any_atEnd_congr cells cell .source]
    exact fun c d same => ih same fun test tested =>
      (agree test tested).of_far (far_of_mem_testsFrom tested) c d
  | target operand ih =>
    rw [holds, holds, Cell.isFlow, Cell.isFlow, cell.isOf, any_atEnd_congr cells cell .target]
    exact fun c d same => ih same fun test tested =>
      (agree test tested).of_far (far_of_mem_testsFrom tested) c d
  | connects first second ihFirst ihSecond =>
    have start : ∀ c d, Cell.SameInput c d → first.holds these c = first.holds those d :=
      fun c d same => ihFirst same fun test tested =>
        (agree test (List.mem_append_left _ tested)).of_far (far_of_mem_testsFrom tested) c d
    have goal : ∀ c d, Cell.SameInput c d → second.holds these c = second.holds those d :=
      fun c d same => ihSecond same fun test tested =>
        (agree test (List.mem_append_right _ tested)).of_far (far_of_mem_testsFrom tested) c d
    rw [holds, holds, Cell.isFlow, Cell.isFlow, cell.isOf, any_atEnd_congr cells cell .source start,
      any_atEnd_congr cells cell .target goal]

end Expression

variable [Platform]

/-- The tests of attributes in the expressions of a rule. -/
def Rule.tests (rule : Rule) : List Expression.Test :=
  rule.expressions.flatMap fun text =>
    match Expression.parse text with
    | .ok expression => expression.tests
    | .error _ => []

/-- The expressions of a rule hold alike of cells with the same input on which its tests agree. -/
theorem Rule.evaluateAny_sameInput (rule : Rule) (cells : Cells.SameInput these those)
    (cell : Cell.SameInput a b) (agree : ∀ test ∈ rule.tests, test.Agrees a b) :
    Expression.evaluateAny these a rule.expressions =
      Expression.evaluateAny those b rule.expressions := by
  have each : ∀ text ∈ rule.expressions,
      Expression.evaluate these a text = Expression.evaluate those b text := by
    intro text member
    unfold Expression.evaluate
    cases parsed : Expression.parse text with
    | error _ => rfl
    | ok expression =>
      have inRule : ∀ test ∈ expression.testsFrom false, test ∈ rule.tests := by
        intro test tested
        refine List.mem_flatMap.mpr ⟨text, member, ?_⟩
        rw [parsed]
        exact tested
      exact expression.holds_sameInput cells cell fun test tested => agree test (inRule test tested)
  rw [Bool.eq_iff_iff]
  simp only [Expression.evaluateAny, List.any_eq_true]
  exact exists_congr fun text => and_congr_right fun member => by rw [each text member]

end ThreatAnalysis
