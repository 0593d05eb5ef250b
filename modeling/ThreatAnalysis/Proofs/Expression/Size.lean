import ThreatAnalysis.Proofs.Expression.Descent

/-!
How much is read of a text, and how large the tree is. The texts that are read for a text are shorter
than what is left of it without the blanks around it, so that a limit of its length is never met
(`exists_parse_of_length`). The tree has a node for each text that is read, and an argument
without any text has one too. Such an argument is accounted for by the comma behind it, since the
last argument of a list always has some text; with the parentheses of the call left over for the node
of the call itself, there are no more nodes than characters (`nodes_le`).
-/
namespace ThreatAnalysis.Expression
open Text Arguments
variable {limit : Nat} {text arguments : List Char} {tree : Expression} {trees : List Expression}

mutual

/-- How many nodes a tree has. -/
def nodes : Expression → Nat
  | .primitive _ => 1
  | .unknown _ => 1
  | .hasProperty _ _ => 1
  | .not operand => nodes operand + 1
  | .and operands => nodesOfAll operands + 1
  | .or operands => nodesOfAll operands + 1
  | .source operand => nodes operand + 1
  | .target operand => nodes operand + 1
  | .connects first second => nodes first + nodes second + 1

/-- How many nodes several trees have together. -/
def nodesOfAll : List Expression → Nat
  | [] => 0
  | operand :: rest => nodes operand + nodesOfAll rest

end

/-- The characters of several texts, each of which counts as one character at least. -/
def weight : List (List Char) → Nat
  | [] => 0
  | text :: rest => max 1 text.length + weight rest

theorem length_le_weight (member : text ∈ texts) : max 1 text.length ≤ weight texts := by
  induction texts with
  | nil => cases member
  | cons head rest ih =>
    rw [weight]
    rcases List.mem_cons.mp member with rfl | later
    · exact Nat.le_add_right _ _
    · exact (ih later).trans (Nat.le_add_left _ _)

/-- An argument without text is accounted for by the comma behind it. -/
theorem weight_split_le (balanced : Balanced text) : weight (split text) ≤ text.length := by
  refine slot_induction (motive := fun text => weight (split text) ≤ text.length) ?_ ?_ text
    balanced
  · intro slot closed
    by_cases blank : Blank slot
    · simp [split_blank blank, weight]
    · have given : trim slot ≠ [] := fun gone => blank (trim_eq_nil.mp gone)
      have solid := List.length_pos_of_ne_nil given
      have shorter := length_trim_le slot
      simp only [split_slot closed blank, weight]
      omega
  · -- A slot without text weighs as much as the comma behind it.
    intro slot rest closed _ ih
    have shorter := length_trim_le slot
    simp only [split_more closed, weight, List.length_append, List.length_cons]
    omega

theorem AcceptedCall.length_arguments (accepted : AcceptedCall text call arguments) :
    arguments.length + 2 ≤ (trim text).length := by
  obtain ⟨gap, -, padded⟩ := accepted.written
  rw [padded.trim_eq, trim_callText (isName_call call)]
  simp [callText]
  omega

/-- The texts that are read for a text weigh less than what is left of it. -/
theorem weight_arguments_lt (text : List Char) :
    weight (form (trim text)).arguments < max 1 (trim text).length := by
  rcases listed : (form (trim text)).arguments with _ | ⟨argument, rest⟩
  · exact Nat.lt_of_lt_of_le Nat.one_pos (Nat.le_max_left _ _)
  · have member : argument ∈ (form (trim text)).arguments := by simp [listed]
    obtain ⟨call, arguments, accepted, descends, -⟩ := mem_form_arguments_iff.mp member
    obtain ⟨shape, found, formed⟩ := accepted.form
    have within := weight_split_le accepted.balanced
    have inside := accepted.length_arguments
    rw [← listed, formed, call.form?_arguments descends found]
    omega

/-- Each text that is read for a text is shorter. -/
theorem argument_shorter (member : argument ∈ (form (trim text)).arguments) :
    argument.length < (trim text).length := by
  have single := length_le_weight member
  have fits := weight_arguments_lt text
  omega

/-- A limit of its length is never met by a text. -/
theorem exists_parse_of_length (room : (trim text).length < limit) :
    ∃ tree, parseWithin limit text = .ok tree := by
  induction limit generalizing text with
  | zero => cases room
  | succ limit ih =>
    refine exists_parse_succ.mpr fun argument member => ih ?_
    have shorter := argument_shorter member
    have trimmed := length_trim_le argument
    omega

/-- What is read for a form by a reader of its arguments. -/
def Form.readBy (reader : List Char → Except ParseError Expression) :
    Form → Except ParseError Expression
  | .leaf expression => .ok expression
  | .unary build argument => build <$> reader argument
  | .binary build first second => do
    let first ← reader first
    let second ← reader second
    return build first second
  | .variadic build arguments => build <$> arguments.mapM reader

theorem parseWithin_eq_readBy (limit : Nat) (text : List Char) :
    parseWithin (limit + 1) text = (form (trim text)).readBy (parseWithin limit) := by
  rw [parseWithin]
  cases form (trim text) <;> rfl

/-- A form reads nothing but its arguments. -/
theorem Form.readBy_congr {shape : Form} {reader other : List Char → Except ParseError Expression}
    (same : ∀ argument ∈ shape.arguments, reader argument = other argument) :
    shape.readBy reader = shape.readBy other := by
  cases shape with
  | leaf expression => rfl
  | unary build argument => simp [readBy, same argument (by simp [arguments])]
  | binary build first second =>
    simp [readBy, same first (by simp [arguments]), same second (by simp [arguments])]
  | variadic build arguments => exact congrArg (build <$> ·) (mapM_congr same)

/-- The form puts one node on top of the trees of its arguments. -/
def Form.AddsNode : Form → Prop
  | .leaf expression => expression.nodes = 1
  | .unary build _ => ∀ operand, (build operand).nodes = operand.nodes + 1
  | .binary build _ _ =>
    ∀ first second, (build first second).nodes = first.nodes + second.nodes + 1
  | .variadic build _ => ∀ operands, (build operands).nodes = nodesOfAll operands + 1

theorem Call.form?_addsNode {call : Call} (found : call.form? text = some shape) :
    shape.AddsNode := by
  dsimp only [Call.form?] at found
  split at found
  case h_7 =>
    -- The test of an attribute takes its arguments only if the name is not empty.
    split at found <;> cases found
    simp [Form.AddsNode, nodes]
  case h_8 => cases found
  all_goals
    cases found
    simp [Form.AddsNode, nodes]

theorem form_addsNode (text : List Char) : (form text).AddsNode := by
  unfold form
  split
  · split <;> simp [Form.AddsNode, nodes]
  · split
    · simp [Form.AddsNode, nodes]
    · split
      · simp [Form.AddsNode, nodes]
      · rename_i name arguments _ _ call _
        cases found : call.form? arguments with
        | none => simp [Form.AddsNode, nodes]
        | some shape => exact Call.form?_addsNode found

theorem Form.AddsNode.nodes {shape : Form} (adds : shape.AddsNode)
    (built : shape.tree? trees = some tree) : tree.nodes = nodesOfAll trees + 1 := by
  cases shape with
  | leaf expression =>
    cases trees with
    | nil =>
      cases built
      exact adds
    | cons _ _ => cases built
  | unary build _ =>
    rcases trees with _ | ⟨operand, _ | _⟩ <;> cases built
    simpa [nodesOfAll] using adds operand
  | binary build _ _ =>
    rcases trees with _ | ⟨first, _ | ⟨second, _ | _⟩⟩ <;> cases built
    simpa [nodesOfAll] using adds first second
  | variadic build _ =>
    cases built
    exact adds trees

/-- Trees that have no more nodes than their texts have characters together have no more. -/
theorem nodesOfAll_le (reads : ReadsAll limit texts trees)
    (each : ∀ text tree, parseWithin limit text = .ok tree →
      tree.nodes ≤ max 1 (trim text).length) : nodesOfAll trees ≤ weight texts := by
  induction reads with
  | nil => simp [nodesOfAll]
  | @cons text tree texts trees read _ ih =>
    have single := each text tree read
    have trimmed := length_trim_le text
    simp only [nodesOfAll, weight]
    omega

/-- A tree has no more nodes than its text has characters, or a single one. -/
theorem nodes_le (read : parseWithin limit text = .ok tree) :
    tree.nodes ≤ max 1 (trim text).length := by
  induction limit generalizing text tree with
  | zero => cases read
  | succ limit ih =>
    obtain ⟨trees, reads, built⟩ := parseWithin_succ.mp read
    have counted := (form_addsNode (trim text)).nodes built
    have operands := nodesOfAll_le reads fun _ _ => ih
    have fits := weight_arguments_lt text
    omega

/-- Reading makes progress, and trees stay as small as their texts. What is read for a text are
texts shorter than it is without the blanks around it: any reader does for them that agrees with the
real one on shorter texts, and a limit of the length of a text is never met. Whatever the limit is, a
tree has no more nodes than its text has characters without the blanks around it, or a single one;
arguments without text, unknown parts and commas at the end of a list do not change that. -/
theorem reading_shrinks_and_tree_fits :
    (∀ text, ∀ argument ∈ (form (trim text)).arguments,
      argument.length < (trim text).length) ∧
    (∀ limit text reader,
      (∀ part : List Char, part.length < (trim text).length →
        reader part = parseWithin limit part) →
      parseWithin (limit + 1) text = (form (trim text)).readBy reader) ∧
    (∀ limit text, (trim text).length < limit → ∃ tree, parseWithin limit text = .ok tree) ∧
    ∀ limit text tree, parseWithin limit text = .ok tree →
      tree.nodes ≤ max 1 (trim text).length := by
  refine ⟨fun text argument => argument_shorter, fun limit text reader agrees => ?_,
    fun limit text => exists_parse_of_length, fun limit text tree => nodes_le⟩
  rw [parseWithin_eq_readBy]
  refine Form.readBy_congr fun argument member => ?_
  exact (agrees argument (argument_shorter member)).symm

open scoped Platform

/-- Two arguments without text, an unknown part, and an extra comma. -/
def sparseText : List Char := " and(,not(x),,)".toList

def sparseTree : Expression := .and [.unknown "", .not (.unknown "x"), .unknown ""]

/-- Reads texts shorter than that one, three within one another. -/
def shortReader (part : List Char) : Except ParseError Expression :=
  if part.length < (trim sparseText).length then parseWithin 3 part else .error .tooDeep

theorem sparse_fits :
    ("not(x)".toList ∈ (form (trim sparseText)).arguments ∧
      "not(x)".toList.length < (trim sparseText).length) ∧
    ((∀ part, part.length < (trim sparseText).length → shortReader part = parseWithin 3 part) ∧
      parseWithin 4 sparseText = (form (trim sparseText)).readBy shortReader) ∧
    ((trim sparseText).length < 15 ∧ ∃ tree, parseWithin 15 sparseText = .ok tree) ∧
    (parseWithin Platform.deepestExpression sparseText = .ok sparseTree ∧
      sparseTree.nodes ≤ max 1 (trim sparseText).length) := by
  obtain ⟨shorter, depends, ends, fits⟩ := reading_shrinks_and_tree_fits
  have member : "not(x)".toList ∈ (form (trim sparseText)).arguments := by decide
  have agrees : ∀ part : List Char, part.length < (trim sparseText).length →
      shortReader part = parseWithin 3 part := fun part less => if_pos less
  have room : (trim sparseText).length < 15 := by decide
  have read : parseWithin Platform.deepestExpression sparseText = .ok sparseTree := rfl
  exact ⟨⟨member, shorter _ _ member⟩, ⟨agrees, depends _ _ _ agrees⟩, ⟨room, ends _ _ room⟩,
    read, fits _ _ _ read⟩

end ThreatAnalysis.Expression
