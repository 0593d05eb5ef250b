import ThreatAnalysis.Proofs.Expression.Composition

/-!
Blank slots in argument lists. A last slot that is blank does not count as an argument; every other
one does, as a text of which nothing holds (`split_slots`, `evaluate_blank`). So a call with a blank
slot is false of every cell, unless the slots that count are as many as it takes and it can hold in
spite of a blank one among them (`blank_slots_fail_closed`). Such calls there are, down to a
negation of nothing, which holds everywhere (`negation_of_blanks_holds`).
-/
namespace ThreatAnalysis
open Text Arguments

namespace Arguments

/-- The slots of a list that count as arguments: all but a last one that is blank. -/
def counted : List String → List String
  | [] => []
  | [last] => if Blank last.toList then [] else [last]
  | slot :: next :: rest => slot :: counted (next :: rest)

/-- A list of any slots is cut into those that count. -/
theorem split_slots {front : List Char} {slots : List String} (blank : Blank front)
    (each : ∀ slot ∈ slots, Slot slot.toList) :
    split (front ++ [','].intercalate (slots.map String.toList)) =
      (counted slots).map fun slot => trim slot.toList := by
  induction slots generalizing front with
  | nil => simpa [counted] using split_blank blank
  | cons slot rest ih =>
    rw [List.forall_mem_cons] at each
    obtain ⟨closed, others⟩ := each
    have opened : Slot (front ++ slot.toList) := blank.plain.slot.append closed
    cases rest with
    | nil =>
      by_cases empty : Blank slot.toList
      · simpa [counted, empty] using split_blank (blank.append empty)
      · have kept : ¬ Blank (front ++ slot.toList) := fun blanks => empty blanks.behind
        simpa [counted, empty, trim_blank_append blank] using split_slot opened kept
    | cons next rest =>
      have behind := ih Blank.nil others
      rw [List.nil_append] at behind
      have cut := split_more opened ([','].intercalate ((next :: rest).map String.toList))
      rw [behind, trim_blank_append blank] at cut
      simpa [counted] using cut

end Arguments

namespace Expression

section Calls
variable {call : Call} {layout : Layout} {slots : List String} {cells : Cells} {cell : Cell}

/-- The call can hold although one of its slots is blank: the last slot is, and the others are what
it takes, or it is content with some of them. -/
def Call.Tolerates : Call → List String → Prop
  | .not, [_, last] => Blank last.toList
  | .and, slots => ∀ slot ∈ slots.dropLast, ¬ Blank slot.toList
  | .or, slots => ∃ slot ∈ slots, ¬ Blank slot.toList
  | .source, [argument, last] => ¬ Blank argument.toList ∧ Blank last.toList
  | .target, [argument, last] => ¬ Blank argument.toList ∧ Blank last.toList
  | .connects, [start, goal, last] =>
    ¬ Blank start.toList ∧ ¬ Blank goal.toList ∧ Blank last.toList
  | _, _ => False

/-- All slots count, or all but a blank last one. -/
theorem counted_cases (slots : List String) :
    (counted slots = slots ∧ ∀ last ∈ slots.getLast?, ¬ Blank last.toList) ∨
      ∃ last, Blank last.toList ∧ slots = counted slots ++ [last] := by
  induction slots with
  | nil => exact .inl ⟨rfl, by simp⟩
  | cons head rest ih =>
    cases rest with
    | nil =>
      by_cases empty : Blank head.toList
      · exact .inr ⟨head, empty, by simp [counted, empty]⟩
      · exact .inl ⟨by simp [counted, empty], by simpa using empty⟩
    | cons next rest =>
      rw [counted, List.getLast?_cons_cons]
      rcases ih with ⟨same, given⟩ | ⟨last, empty, split⟩
      · exact .inl ⟨by rw [same], given⟩
      · exact .inr ⟨last, empty, by rw [List.cons_append, ← split]⟩

theorem mem_of_counted {slot : String} (member : slot ∈ counted slots) : slot ∈ slots := by
  rcases counted_cases slots with ⟨same, -⟩ | ⟨last, -, split⟩
  · rwa [same] at member
  · rw [split]
    exact List.mem_append_left _ member

/-- Every slot in front of another one counts. -/
theorem mem_counted_of_dropLast {slot : String} (member : slot ∈ slots.dropLast) :
    slot ∈ counted slots := by
  rcases counted_cases slots with ⟨same, -⟩ | ⟨last, -, split⟩
  · rw [same]
    exact List.mem_of_mem_dropLast member
  · rwa [split, List.dropLast_concat] at member

/-- The slots of a list with a blank one, of which one counts. -/
theorem slots_of_counted_one {argument : String} (blank : ∃ slot ∈ slots, Blank slot.toList)
    (one : counted slots = [argument]) : ∃ last, Blank last.toList ∧ slots = [argument, last] := by
  rcases counted_cases slots with ⟨same, given⟩ | ⟨last, empty, split⟩
  · rw [← same, one] at blank given
    exact absurd (by simpa using blank) (given argument rfl)
  · rw [one] at split
    exact ⟨last, empty, split⟩

/-- The slots of a list with a blank one, of which two count. -/
theorem slots_of_counted_two {start goal : String} (blank : ∃ slot ∈ slots, Blank slot.toList)
    (two : counted slots = [start, goal]) :
    Blank start.toList ∨ ∃ last, Blank last.toList ∧ slots = [start, goal, last] := by
  rcases counted_cases slots with ⟨same, given⟩ | ⟨last, empty, split⟩
  · rw [← same, two] at blank given
    have second : ¬ Blank goal.toList := given goal rfl
    exact .inl (by simpa [second] using blank)
  · rw [two] at split
    exact .inr ⟨last, empty, split⟩

variable [Platform]

/-- Nothing holds of a blank text. -/
theorem evaluate_blank {text : String} (blank : Blank text.toList) (cells : Cells) (cell : Cell) :
    evaluate cells cell text = false := by
  have gone : trim text.toList = [] := trim_eq_nil.mpr blank
  obtain ⟨more, deepest⟩ := Nat.exists_eq_add_of_lt Platform.sixty_lt_deepestExpression
  have read : parse text = .ok (.unknown "") := by
    rw [parse, deepest, parseWithin, gone]
    rfl
  unfold evaluate
  rw [read]
  rfl

/-- Whether a call holds by what its arguments say, which have to be as many as it takes. -/
def Call.meets (cells : Cells) (cell : Cell) : Call → List String → Bool
  | .not, [argument] => !evaluate cells cell argument
  | .and, arguments => arguments.all (evaluate cells cell)
  | .or, arguments => arguments.any (evaluate cells cell)
  | .source, [argument] =>
    cell.isFlow && (cells.atEnd? cell .source).any fun found => evaluate cells found argument
  | .target, [argument] =>
    cell.isFlow && (cells.atEnd? cell .target).any fun found => evaluate cells found argument
  | .connects, [start, goal] =>
    cell.isFlow && ((cells.atEnd? cell .source).any fun found => evaluate cells found start) &&
      (cells.atEnd? cell .target).any fun found => evaluate cells found goal
  | _, _ => false

/-- What a call builds of the trees of its arguments holds as the arguments say. -/
theorem Call.holds_eq_meets {arguments : List String} {trees : List Expression} {tree : Expression}
    (means : List.Forall₂ Means arguments trees) (taken : call.tree? trees = some tree) :
    tree.holds cells cell = call.meets cells cell arguments := by
  have every := allHold_of_means means cells cell
  have any := anyHolds_of_means means cells cell
  rcases means with _ | ⟨first, _ | ⟨second, _ | ⟨third, later⟩⟩⟩ <;> cases call <;> cases taken
  all_goals simp only [holds, meets, every, any]
  -- What is left are the calls with one argument, and the one with two.
  case cons.nil.not.refl => rw [first]
  case cons.nil.source.refl => simp only [first cells]
  case cons.nil.target.refl => simp only [first cells]
  case cons.cons.nil.connects.refl => simp only [first cells, second cells]

/-- A call that does not take as many arguments as it has holds of nothing. -/
theorem Call.meets_of_form?_none {text : List Char} {arguments : List String}
    (taken : call ≠ .hasProperty) (refused : call.form? text = none)
    (length : (split text).length = arguments.length) :
    call.meets cells cell arguments = false := by
  rcases parts : split text with _ | ⟨first, _ | ⟨second, _ | ⟨third, rest⟩⟩⟩ <;>
    rcases arguments with _ | ⟨a, _ | ⟨b, _ | ⟨c, later⟩⟩⟩ <;>
    simp only [parts, List.length_cons, List.length_nil] at length <;>
    first
    | omega
    | cases call <;> simp [Call.form?, parts, meets] at taken refused ⊢

/-- A call whose slots are cut in this way holds, once it is read, as those say that count. -/
theorem holds_written (taken : call ≠ .hasProperty) (each : ∀ slot ∈ slots, Slot slot.toList)
    (read : parse (call.written layout slots) = .ok tree) (cells : Cells) (cell : Cell) :
    tree.holds cells cell = call.meets cells cell (counted slots) := by
  have inner : Balanced
      (layout.inside.val.toList ++ [','].intercalate (slots.map String.toList)) := by
    refine layout.inside.property.plain.balanced.append (balanced_intercalate fun text member => ?_)
    obtain ⟨slot, listed, rfl⟩ := List.mem_map.mp member
    exact (each slot listed).balanced
  have cut := split_slots layout.inside.property each
  obtain ⟨more, deepest⟩ := Nat.exists_eq_add_of_lt Platform.sixty_lt_deepestExpression
  rw [call.parse_bare, deepest] at read
  obtain ⟨trees, reads, built⟩ := parseWithin_succ.mp read
  rw [trim_callText (isName_call call), form_callText layout.gap.property inner] at reads built
  cases found : call.form? _ with
  | none =>
    rw [found] at reads built
    cases reads
    cases built
    have count := congrArg List.length cut
    rw [List.length_map] at count
    rw [call.meets_of_form?_none taken found count]
    rfl
  | some shape =>
    simp only [found, Option.getD_some] at reads built
    rw [call.form?_arguments taken found] at reads
    have builds := call.form?_tree? taken _ trees reads.length_eq
    rw [found, Option.bind_some, built] at builds
    rw [cut] at reads
    have means : List.Forall₂ Means (counted slots) trees :=
      (List.forall₂_map_left_iff.mp reads).imp fun slot tree readSlot => by
        rw [parseWithin_trim] at readSlot
        refine means_of_parse ?_
        rw [parse, deepest]
        exact parseWithin_mono readSlot 1
    exact call.holds_eq_meets means builds.symm

/-- No cell at an end of a flow meets a blank text. -/
theorem any_blank {text : String} (blank : Blank text.toList) (cells : Cells)
    (found : Option Cell) : (found.any fun other => evaluate cells other text) = false := by
  cases found with
  | none => rfl
  | some other => exact evaluate_blank blank cells other

/-- The slots that count are too few or too many for a strict call, or one of them is blank. -/
theorem Call.meets_of_not_tolerates (blank : ∃ slot ∈ slots, Blank slot.toList)
    (strict : ¬ call.Tolerates slots) (cells : Cells) (cell : Cell) :
    call.meets cells cell (counted slots) = false := by
  cases call with
  | hasProperty => rfl
  | and =>
    obtain ⟨slot, member, empty⟩ : ∃ slot ∈ slots.dropLast, Blank slot.toList := by
      simpa [Tolerates] using strict
    rw [meets, List.all_eq_false]
    exact ⟨slot, mem_counted_of_dropLast member, by simp [evaluate_blank empty]⟩
  | or =>
    have empty : ∀ slot ∈ slots, Blank slot.toList := by simpa [Tolerates] using strict
    rw [meets, List.any_eq_false]
    intro slot member
    simp [evaluate_blank (empty slot (mem_of_counted member))]
  | not =>
    rcases one : counted slots with _ | ⟨argument, _ | ⟨next, later⟩⟩
    · rfl
    · obtain ⟨last, empty, rfl⟩ := slots_of_counted_one blank one
      exact absurd empty strict
    · rfl
  | source =>
    rcases one : counted slots with _ | ⟨argument, _ | ⟨next, later⟩⟩
    · rfl
    · obtain ⟨last, empty, rfl⟩ := slots_of_counted_one blank one
      have void : Blank argument.toList := by simpa [Tolerates, empty] using strict
      rw [meets, any_blank void, Bool.and_false]
    · rfl
  | target =>
    rcases one : counted slots with _ | ⟨argument, _ | ⟨next, later⟩⟩
    · rfl
    · obtain ⟨last, empty, rfl⟩ := slots_of_counted_one blank one
      have void : Blank argument.toList := by simpa [Tolerates, empty] using strict
      rw [meets, any_blank void, Bool.and_false]
    · rfl
  | connects =>
    rcases two : counted slots with _ | ⟨start, _ | ⟨goal, _ | ⟨next, later⟩⟩⟩
    · rfl
    · rfl
    · have void : Blank start.toList ∨ Blank goal.toList := by
        rcases slots_of_counted_two blank two with first | ⟨last, empty, rfl⟩
        · exact .inl first
        · by_cases first : Blank start.toList
          · exact .inl first
          · exact .inr (by simpa [Tolerates, empty, first] using strict)
      rw [meets]
      rcases void with first | second
      · rw [any_blank first, Bool.and_false, Bool.false_and]
      · rw [any_blank second, Bool.and_false]
    · rfl

/-- A call with a blank slot is false of every cell, unless it tolerates that; and then it holds as
the slots do that count. -/
theorem blank_slots_fail_closed (taken : call ≠ .hasProperty) (layout : Layout)
    (each : ∀ slot ∈ slots, Slot slot.toList) (blank : ∃ slot ∈ slots, Blank slot.toList)
    (cells : Cells) (cell : Cell) :
    (¬ call.Tolerates slots → evaluate cells cell (call.written layout slots) = false) ∧
    (evaluate cells cell (call.written layout slots) = true →
      call.meets cells cell (counted slots) = true) ∧
    (Shallow (call.written layout slots) →
      evaluate cells cell (call.written layout slots) =
        call.meets cells cell (counted slots)) := by
  have read_or_false : (∃ tree, parse (call.written layout slots) = .ok tree) ∨
      evaluate cells cell (call.written layout slots) = false := by
    unfold evaluate
    cases parse (call.written layout slots) with
    | ok tree => exact .inl ⟨tree, rfl⟩
    | error _ => exact .inr rfl
  have value (tree : Expression) (read : parse (call.written layout slots) = .ok tree) :
      evaluate cells cell (call.written layout slots) = call.meets cells cell (counted slots) := by
    rw [means_of_parse read, holds_written taken each read]
  refine ⟨fun strict => ?_, fun holds => ?_, fun shallow => ?_⟩
  · rcases read_or_false with ⟨tree, read⟩ | unread
    · rw [value tree read, call.meets_of_not_tolerates blank strict]
    · exact unread
  · rcases read_or_false with ⟨tree, read⟩ | unread
    · rwa [value tree read] at holds
    · rw [unread] at holds
      cases holds
  · obtain ⟨tree, read⟩ := parseWithin_of_nested shallow
    obtain ⟨more, deepest⟩ := Nat.exists_eq_add_of_lt Platform.sixty_lt_deepestExpression
    refine value tree ?_
    rw [parse, deepest, Nat.add_right_comm]
    exact parseWithin_mono read more

end Calls

open scoped Platform

/-- A blank slot between others, which is not tolerated, and one behind them, which is. -/
theorem gap_fails_closed :
    ((∀ slot ∈ ["isFlow", " ", "isFlow"], Slot slot.toList) ∧
      (∃ slot ∈ ["isFlow", " ", "isFlow"], Blank slot.toList) ∧
      ¬ Call.and.Tolerates ["isFlow", " ", "isFlow"] ∧
      evaluate sent sending (Call.and.written .loose ["isFlow", " ", "isFlow"]) = false) ∧
    ((∀ slot ∈ ["isFlow", " "], Slot slot.toList) ∧ (∃ slot ∈ ["isFlow", " "], Blank slot.toList) ∧
      Shallow (Call.and.written .loose ["isFlow", " "]) ∧
      evaluate sent sending (Call.and.written .loose ["isFlow", " "]) =
        Call.and.meets sent sending ["isFlow"]) := by
  have each : ∀ slot ∈ ["isFlow", " ", "isFlow"], Slot slot.toList := by decide
  have blank : ∃ slot ∈ ["isFlow", " ", "isFlow"], Blank slot.toList := by decide
  have strict : ¬ Call.and.Tolerates ["isFlow", " ", "isFlow"] := by
    intro tolerates
    exact tolerates " " (by decide) (by decide)
  have taken : Call.and ≠ .hasProperty := by decide
  have fails := (blank_slots_fail_closed taken .loose each blank sent sending).1 strict
  have eachOfTwo : ∀ slot ∈ ["isFlow", " "], Slot slot.toList := by decide
  have blankOfTwo : ∃ slot ∈ ["isFlow", " "], Blank slot.toList := by decide
  have shallow : Shallow (Call.and.written .loose ["isFlow", " "]) := by decide
  have held := (blank_slots_fail_closed taken .loose eachOfTwo blankOfTwo sent sending).2.2 shallow
  exact ⟨⟨each, blank, strict, fails⟩, eachOfTwo, blankOfTwo, shallow, held⟩

/-- The negation of two blank slots holds of every cell, although nothing is negated. -/
theorem negation_of_blanks_holds :
    Call.not.written .dense ["", ""] = "not(,)" ∧
    (∀ slot ∈ ["", ""], Slot slot.toList ∧ Blank slot.toList) ∧
    ∀ cell ∈ sent, evaluate sent cell "not(,)" = true := by
  exact ⟨by decide, by decide, by decide⟩

end Expression
end ThreatAnalysis
