import ThreatAnalysis.Expression.Evaluation
import ThreatAnalysis.Proofs.Expression.Depth

/-!
Evaluation of composed texts. A call may be written around any texts that can stand as arguments,
whatever they contain: it is cut into exactly these again (`split_intercalate`), each of them is
read as it is read alone, and so a call holds as its arguments do (`evaluate_compositional`). Texts
that are no expressions are arguments as well, which nothing satisfies.
-/
namespace ThreatAnalysis
open Text Arguments

/-- The cell is the first one with the identifier. -/
def Cells.IsFirst (cells : Cells) (id : String) (found : Cell) : Prop :=
  ∃ earlier later, cells = earlier ++ found :: later ∧ found.id = id ∧
    ∀ cell ∈ earlier, cell.id ≠ id

theorem Cells.find?_eq_some_iff {cells : Cells} {id : String} {found : Cell} :
    cells.find? id = some found ↔ cells.IsFirst id found := by
  simp only [Cells.find?, List.find?_eq_some_iff_append, beq_iff_eq, Cells.IsFirst]
  constructor
  · rintro ⟨same, earlier, later, split, others⟩
    exact ⟨earlier, later, split, same, by simpa using others⟩
  · rintro ⟨earlier, later, split, same, others⟩
    exact ⟨same, earlier, later, split, by simpa using others⟩

/-- An end of a cell meets a condition if the first cell that it refers to does. -/
theorem Cells.atEnd?_any {cells : Cells} {cell : Cell} {condition : Cell → Bool} :
    (cells.atEnd? cell side).any condition = true ↔ ∃ id found,
      cell.endpoint side = some id ∧ cells.IsFirst id found ∧ condition found = true := by
  simp only [Cells.atEnd?, Option.any_eq_true, Option.bind_eq_some_iff, Cells.find?_eq_some_iff]
  constructor
  · rintro ⟨found, ⟨id, given, first⟩, holds⟩
    exact ⟨id, found, given, first, holds⟩
  · rintro ⟨id, found, given, first, holds⟩
    exact ⟨found, ⟨id, given, first⟩, holds⟩

/-- A text that can stand as one argument: it is not blank, its parentheses balance, and no comma
stands outside them. -/
structure Delimited (text : String) : Prop where
  slot : Slot text.toList
  given : ¬ Blank text.toList

instance : Decidable (Delimited text) :=
  decidable_of_iff (Slot text.toList ∧ ¬ Blank text.toList)
    ⟨fun ⟨slot, given⟩ => ⟨slot, given⟩, fun delimited => ⟨delimited.slot, delimited.given⟩⟩

/-- A text of blanks. -/
abbrev Blanks : Type := {text : String // Blank text.toList}

/-- The blanks in a call: around it, behind its name, and in front of its arguments. -/
structure Layout where
  before : Blanks
  gap : Blanks
  inside : Blanks
  after : Blanks

/-- The layout without blanks. -/
def Layout.dense : Layout :=
  let empty : Blanks := ⟨"", Blank.nil⟩
  ⟨empty, empty, empty, empty⟩

/-- A layout with blanks at every place. -/
def Layout.loose : Layout :=
  ⟨⟨" ", by decide⟩, ⟨"\t", by decide⟩, ⟨"  ", by decide⟩, ⟨"\n", by decide⟩⟩

namespace Arguments

/-- Commas between balanced texts leave them balanced. -/
theorem balanced_intercalate (each : ∀ text ∈ texts, Balanced text) :
    Balanced ([','].intercalate texts) := by
  induction texts with
  | nil => exact closes_nil.mpr rfl
  | cons text rest ih =>
    rw [List.forall_mem_cons] at each
    cases rest with
    | nil => simpa using each.1
    | cons next rest => simpa using balanced_comma each.1 (ih each.2)

/-- Texts that can stand as arguments are the arguments of the list that is made of them. -/
theorem split_intercalate {front : List Char} (blank : Blank front)
    (each : ∀ text ∈ texts, Slot text ∧ ¬ Blank text) :
    split (front ++ [','].intercalate texts) = texts.map trim :=
  split_slots_intercalate blank (fun text member => (each text member).1)
    fun last found => (each last (List.mem_of_getLast? found)).2

end Arguments

namespace Expression

/-- The text of a call with the given arguments. -/
def Call.written (call : Call) (layout : Layout) (arguments : List String) : String :=
  layout.before ++ call.name ++ layout.gap ++ "(" ++ layout.inside ++ ",".intercalate arguments ++
    ")" ++ layout.after

/-- The call that looks at an end of a flow. -/
def Call.ofEnd : Cell.End → Call
  | .source => .source
  | .target => .target

/-- The parentheses of the text nest at most sixty deep. -/
abbrev Shallow (text : String) : Prop := NestedWithin 60 text.toList

theorem Call.toList_written (call : Call) (layout : Layout) (arguments : List String) :
    (call.written layout arguments).toList = layout.before.val.toList ++
      callText call.name.toList layout.gap.val.toList
        (layout.inside.val.toList ++ [','].intercalate (arguments.map String.toList)) ++
      layout.after.val.toList := by
  simp [Call.written, callText, String.toList_intercalate]

section Written
variable {call : Call} {layout : Layout} {arguments : List String} {trees : List Expression}

private theorem argument_slots (delimited : ∀ argument ∈ arguments, Delimited argument) :
    ∀ text ∈ arguments.map String.toList, Slot text ∧ ¬ Blank text := by
  intro text member
  obtain ⟨argument, given, rfl⟩ := List.mem_map.mp member
  exact ⟨(delimited argument given).slot, (delimited argument given).given⟩

/-- What stands between the parentheses of a written call is balanced. -/
theorem balanced_inside (layout : Layout)
    (delimited : ∀ argument ∈ arguments, Delimited argument) : Balanced
      (layout.inside.val.toList ++ [','].intercalate (arguments.map String.toList)) :=
  layout.inside.property.plain.balanced.append <|
    balanced_intercalate fun text member => (argument_slots delimited text member).1.balanced

/-- A call nests one level deeper than its arguments, however it is laid out. -/
theorem nestedWithin_written (delimited : ∀ argument ∈ arguments, Delimited argument) :
    NestedWithin (bound + 1) (call.written layout arguments).toList ↔
      ∀ argument ∈ arguments, NestedWithin bound argument.toList := by
  have slots := argument_slots delimited
  have inner := balanced_inside layout delimited
  have bare := (callText_slot (isName_call call) layout.gap.property inner).balanced
  have start := layout.before.property.plain
  have front := layout.inside.property.plain
  have back := layout.after.property.plain
  rw [call.toList_written, List.append_assoc, nestedWithin_append start.balanced,
    nestedWithin_append bare, nestedWithin_callText (isName_call call) layout.gap.property inner,
    nestedWithin_append front.balanced,
    nestedWithin_intercalate fun text member => (slots text member).1.balanced]
  simp [start.nestedWithin, front.nestedWithin, back.nestedWithin]

/-- A call can stand as an argument of other calls. -/
theorem delimited_written (call : Call) (layout : Layout)
    (delimited : ∀ argument ∈ arguments, Delimited argument) :
    Delimited (call.written layout arguments) := by
  have inner := balanced_inside layout delimited
  have bare := callText_slot (isName_call call) layout.gap.property inner
  constructor
  · rw [call.toList_written]
    exact (layout.before.property.plain.slot.append bare).append layout.after.property.plain.slot
  · intro blank
    refine callText_not_blank (isName_call call) layout.gap.val.toList
      (layout.inside.val.toList ++ [','].intercalate (arguments.map String.toList)) ?_
    rw [call.toList_written] at blank
    exact fun c member => blank c (List.mem_append_left _ (List.mem_append_right _ member))

variable [Platform]

/-- The blanks around a written call are not read. -/
theorem Call.parse_bare (call : Call) (layout : Layout) (arguments : List String) :
    parse (call.written layout arguments) = parseWithin Platform.deepestExpression
      (callText call.name.toList layout.gap.val.toList
        (layout.inside.val.toList ++ [','].intercalate (arguments.map String.toList))) := by
  rw [parse, call.toList_written,
    parseWithin_padded layout.before.property layout.after.property]

/-- The text holds exactly where the tree does. -/
def Means (text : String) (tree : Expression) : Prop :=
  ∀ cells cell, evaluate cells cell text = tree.holds cells cell

theorem means_of_parse (read : parse text = .ok tree) : Means text tree := fun cells cell => by
  rw [evaluate, read]

theorem evaluate_padded (front back : Blanks) (text : String) (cells : Cells) (cell : Cell) :
    evaluate cells cell (front ++ text ++ back) = evaluate cells cell text := by
  have padded := parseWithin_padded front.property back.property Platform.deepestExpression
    text.toList
  simp only [evaluate, parse, String.toList_append, padded]

/-- A written call is read from what is read for its arguments. -/
theorem parse_written (delimited : ∀ argument ∈ arguments, Delimited argument)
    (reads : ReadsAll 60 (arguments.map String.toList) trees)
    (taken : call.tree? trees = some tree) : parse (call.written layout arguments) = .ok tree := by
  obtain ⟨more, deepest⟩ := Nat.exists_eq_add_of_lt Platform.sixty_lt_deepestExpression
  have inside : ReadsAll (60 + more) (split (layout.inside.val.toList ++
      [','].intercalate (arguments.map String.toList))) trees := by
    rw [split_intercalate layout.inside.property (argument_slots delimited)]
    -- The call leaves its arguments one level less than a text alone has.
    refine List.forall₂_map_left_iff.mpr (reads.imp fun text tree read => ?_)
    rw [parseWithin_trim]
    exact parseWithin_mono read more
  rw [call.parse_bare, deepest]
  exact parseWithin_call layout.gap.property (balanced_inside layout delimited) inside taken

/-- A shallow call means what it builds of the meanings of its arguments. -/
theorem exists_means_written (delimited : ∀ argument ∈ arguments, Delimited argument)
    (shallow : Shallow (call.written layout arguments)) :
    ∃ trees, List.Forall₂ Means arguments trees ∧ ∀ tree, call.tree? trees = some tree →
      Means (call.written layout arguments) tree := by
  have deeper := (nestedWithin_written delimited).mp shallow
  obtain ⟨trees, reads⟩ : ∃ trees, ReadsAll 60 (arguments.map String.toList) trees :=
    exists_readsAll <| List.forall_mem_map.mpr fun argument member =>
      parseWithin_of_nested (deeper argument member)
  refine ⟨trees, ?_, fun tree taken => means_of_parse (parse_written delimited reads taken)⟩
  obtain ⟨more, deepest⟩ := Nat.exists_eq_add_of_lt Platform.sixty_lt_deepestExpression
  refine (List.forall₂_map_left_iff.mp reads).imp fun argument tree read => means_of_parse ?_
  rw [parse, deepest]
  exact parseWithin_mono read (more + 1)

theorem exists_means_unary {argument : String} (delimited : Delimited argument)
    (shallow : Shallow (call.written layout [argument])) :
    ∃ operand, Means argument operand ∧ ∀ tree, call.tree? [operand] = some tree →
      Means (call.written layout [argument]) tree := by
  obtain ⟨trees, means, whole⟩ := exists_means_written (by simpa using delimited) shallow
  cases means with
  | cons first rest =>
    cases rest
    exact ⟨_, first, whole⟩

theorem allHold_of_means (means : List.Forall₂ Means texts trees) (cells : Cells) (cell : Cell) :
    allHold cells cell trees = texts.all (evaluate cells cell) := by
  induction means with
  | nil => rfl
  | cons first _ ih => rw [allHold, List.all_cons, first cells cell, ih]

theorem anyHolds_of_means (means : List.Forall₂ Means texts trees) (cells : Cells) (cell : Cell) :
    anyHolds cells cell trees = texts.any (evaluate cells cell) := by
  induction means with
  | nil => rfl
  | cons first _ ih => rw [anyHolds, List.any_cons, first cells cell, ih]

theorem holds_ofEnd (taken : (Call.ofEnd side).tree? [operand] = some tree) (cells : Cells)
    (cell : Cell) : tree.holds cells cell =
      (cell.isFlow && (cells.atEnd? cell side).any fun found => operand.holds cells found) := by
  cases side <;> cases taken <;> rw [holds]

theorem evaluate_not (layout : Layout) (delimited : Delimited argument)
    (shallow : Shallow (Call.not.written layout [argument])) (cells : Cells) (cell : Cell) :
    evaluate cells cell (Call.not.written layout [argument]) = !evaluate cells cell argument := by
  obtain ⟨operand, means, whole⟩ := exists_means_unary delimited shallow
  rw [whole _ rfl, holds, means]

theorem evaluate_and (layout : Layout) (delimited : ∀ argument ∈ arguments, Delimited argument)
    (shallow : Shallow (Call.and.written layout arguments)) (cells : Cells) (cell : Cell) :
    evaluate cells cell (Call.and.written layout arguments) =
      arguments.all (evaluate cells cell) := by
  obtain ⟨trees, means, whole⟩ := exists_means_written delimited shallow
  rw [whole _ rfl, holds, allHold_of_means means]

theorem evaluate_or (layout : Layout) (delimited : ∀ argument ∈ arguments, Delimited argument)
    (shallow : Shallow (Call.or.written layout arguments)) (cells : Cells) (cell : Cell) :
    evaluate cells cell (Call.or.written layout arguments) =
      arguments.any (evaluate cells cell) := by
  obtain ⟨trees, means, whole⟩ := exists_means_written delimited shallow
  rw [whole _ rfl, holds, anyHolds_of_means means]

theorem evaluate_ofEnd (side : Cell.End) (layout : Layout) (delimited : Delimited argument)
    (shallow : Shallow ((Call.ofEnd side).written layout [argument])) (cells : Cells)
    (cell : Cell) : evaluate cells cell ((Call.ofEnd side).written layout [argument]) =
      (cell.isFlow && (cells.atEnd? cell side).any fun found =>
        evaluate cells found argument) := by
  obtain ⟨operand, means, whole⟩ := exists_means_unary delimited shallow
  obtain ⟨tree, taken⟩ : ∃ tree, (Call.ofEnd side).tree? [operand] = some tree := by
    cases side <;> exact ⟨_, rfl⟩
  rw [whole tree taken, holds_ofEnd taken]
  simp only [means cells]

theorem evaluate_connects (layout : Layout) (first : Delimited start) (second : Delimited goal)
    (shallow : Shallow (Call.connects.written layout [start, goal])) (cells : Cells)
    (cell : Cell) : evaluate cells cell (Call.connects.written layout [start, goal]) =
      (cell.isFlow && ((cells.atEnd? cell .source).any fun found => evaluate cells found start) &&
        (cells.atEnd? cell .target).any fun found => evaluate cells found goal) := by
  have delimited : ∀ argument ∈ [start, goal], Delimited argument := by simp [first, second]
  obtain ⟨trees, means, whole⟩ := exists_means_written delimited shallow
  obtain ⟨a, _, atStart, later, rfl⟩ := List.forall₂_cons_left_iff.mp means
  obtain ⟨b, _, atGoal, last, rfl⟩ := List.forall₂_cons_left_iff.mp later
  cases last
  rw [whole _ rfl, holds]
  simp only [atStart cells, atGoal cells]

end Written

open scoped Platform

def sender : Cell := ((Record.empty : Cell).set .id "a").set .type "tm.Actor"

/-- A flow from the sender to nowhere. -/
def sending : Cell :=
  (((Record.empty : Cell).set .id "f").set .type "tm.Flow").set (.endpoint .source) (.string "a")

def sent : Cells := [sender, sending]

end Expression
end ThreatAnalysis
