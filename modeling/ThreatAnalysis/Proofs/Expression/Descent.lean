import ThreatAnalysis.Proofs.Expression.Composition
import ThreatAnalysis.Proofs.Expression.Cutting

/-!
How deep the reader of match expressions descends. It goes from a text to one of its parts only
where the text is a call that takes its arguments and is no test of an attribute, so the depth that
counts is a number of calls and not of parentheses (`Reaches`). A text is too deep exactly if some
part of it is reached through as many calls as the limit allows (`tooDeep_iff`). Such a text holds
nowhere, whatever else it contains; and no text gets there by what is only kept, in the test of an
attribute or in a part that is no call of the language (`deep_calls_fail_alone`).
-/
namespace ThreatAnalysis.Expression
open Text Arguments

/-- The call takes such arguments. -/
def Call.Accepts : Call → List (List Char) → Prop
  | .not, arguments | .source, arguments | .target, arguments => arguments.length = 1
  | .connects, arguments => arguments.length = 2
  | .and, _ | .or, _ => True
  | .hasProperty, arguments => ∃ name ∈ arguments.head?, name ≠ []

/-- The text is a call with an argument list that the call takes, up to blanks around it. -/
structure AcceptedCall (text : List Char) (call : Call) (arguments : List Char) : Prop where
  written : ∃ gap, Blank gap ∧ Padded (callText call.name.toList gap arguments) text
  balanced : Balanced arguments
  accepts : call.Accepts (split arguments)

/-- A part of a text lies inside so many accepted calls, each of them an argument of the one before
and none of them the test of an attribute. -/
inductive Reaches : Nat → List Char → List Char → Prop where
  | here (text : List Char) : Reaches 0 text text
  | into (accepted : AcceptedCall text call arguments) (descends : call ≠ .hasProperty)
      (member : argument ∈ split arguments) (deeper : Reaches depth argument part) :
      Reaches (depth + 1) text part

/-- The text is kept as it is: it tests an attribute, or it is no call that is accepted. -/
def Kept (text : List Char) : Prop :=
  ∀ call arguments, AcceptedCall text call arguments → call = .hasProperty

/-- At least so many accepted calls of a text lie within one another. -/
def NestsCalls (count : Nat) (text : List Char) : Prop :=
  ∃ depth part call arguments, count ≤ depth + 1 ∧ Reaches depth text part ∧
    AcceptedCall part call arguments

section Descending
variable {call : Call} {limit : Nat} {text part arguments : List Char}

theorem Call.form?_isSome_iff : (∃ shape, call.form? text = some shape) ↔
    call.Accepts (split text) := by
  unfold Call.form?
  rcases parts : split text with _ | ⟨first, _ | ⟨second, _ | ⟨third, rest⟩⟩⟩ <;>
    cases call <;> simp [Call.Accepts]

/-- The form of an accepted call is the one that the call gives its arguments. -/
theorem AcceptedCall.form (accepted : AcceptedCall text call arguments) :
    ∃ shape, call.form? arguments = some shape ∧ form (trim text) = shape := by
  obtain ⟨gap, blank, padded⟩ := accepted.written
  obtain ⟨shape, found⟩ := Call.form?_isSome_iff.mpr accepted.accepts
  refine ⟨shape, found, ?_⟩
  rw [padded.trim_eq, trim_callText (isName_call call), form_callText blank accepted.balanced,
    found, Option.getD_some]

/-- What is read further are the arguments of accepted calls other than tests of attributes. -/
theorem mem_form_arguments_iff {argument : List Char} :
    argument ∈ (form (trim text)).arguments ↔ ∃ call arguments, AcceptedCall text call arguments ∧
      call ≠ .hasProperty ∧ argument ∈ split arguments := by
  constructor
  · intro member
    rcases form_cases (trim text) with ⟨word, -, formed⟩ | whole | formed
    · rw [formed] at member
      cases member
    · obtain ⟨call, before, gap, arguments, front, blank, balanced, spelled⟩ := whole
      have padded : Padded (callText call.name.toList gap arguments) text :=
        .trans ⟨before, [], front, Blank.nil, by simp [spelled]⟩ (padded_trim text)
      rw [padded.trim_eq, trim_callText (isName_call call), form_callText blank balanced] at member
      cases found : call.form? arguments with
      | none =>
        rw [found] at member
        cases member
      | some shape =>
        rw [found, Option.getD_some] at member
        have accepted : AcceptedCall text call arguments :=
          ⟨⟨gap, blank, padded⟩, balanced, Call.form?_isSome_iff.mp ⟨shape, found⟩⟩
        refine ⟨call, arguments, accepted, ?_, call.mem_arguments balanced found argument member⟩
        rintro rfl
        obtain ⟨leaf, rfl, -⟩ := property_derives balanced blank found
        cases member
    · rw [formed] at member
      cases member
  · rintro ⟨call, arguments, accepted, descends, member⟩
    obtain ⟨shape, found, formed⟩ := accepted.form
    rwa [formed, call.form?_arguments descends found]

/-- A text is read if all texts that are read for it are. -/
theorem exists_parse_succ : (∃ tree, parseWithin (limit + 1) text = .ok tree) ↔
    ∀ argument ∈ (form (trim text)).arguments, ∃ tree, parseWithin limit argument = .ok tree := by
  simp only [parseWithin_succ]
  constructor
  · rintro ⟨tree, trees, reads, -⟩
    exact exists_mapM_iff.mp ⟨trees, mapM_ok_iff.mpr reads⟩
  · intro each
    obtain ⟨trees, reads⟩ := exists_readsAll each
    obtain ⟨tree, built⟩ := (form (trim text)).exists_tree reads.length_eq
    exact ⟨tree, trees, reads, built⟩

theorem tooDeep_iff_unread :
    parseWithin limit text = .error .tooDeep ↔ ¬ ∃ tree, parseWithin limit text = .ok tree := by
  cases parseWithin limit text with
  | error error => cases error; simp
  | ok tree => simp

/-- A text is too deep exactly if a part of it is reached through as many calls as may lie within
one another. -/
theorem tooDeep_iff :
    parseWithin limit text = .error .tooDeep ↔ ∃ part, Reaches limit text part := by
  induction limit generalizing text with
  | zero => exact ⟨fun _ => ⟨text, .here text⟩, fun _ => rfl⟩
  | succ limit ih =>
    rw [tooDeep_iff_unread, exists_parse_succ]
    simp only [not_forall, exists_prop, ← tooDeep_iff_unread, mem_form_arguments_iff, ih]
    constructor
    · rintro ⟨argument, ⟨call, arguments, accepted, descends, member⟩, part, deeper⟩
      exact ⟨part, .into accepted descends member deeper⟩
    · rintro ⟨part, reached⟩
      cases reached with
      | into accepted descends member deeper =>
        exact ⟨_, ⟨_, _, accepted, descends, member⟩, part, deeper⟩

/-- What is reached through many calls lies inside each of the outer ones. -/
theorem Reaches.outer (reached : Reaches depth text part) (less : limit ≤ depth) :
    ∃ middle, Reaches limit text middle := by
  induction reached generalizing limit with
  | here text =>
    obtain rfl : limit = 0 := by omega
    exact ⟨text, .here text⟩
  | into accepted descends member _ ih =>
    cases limit with
    | zero => exact ⟨_, .here _⟩
    | succ limit =>
      obtain ⟨middle, deeper⟩ := ih (by omega : limit ≤ _)
      exact ⟨middle, .into accepted descends member deeper⟩

/-- A text in which more calls lie within one another than the limit allows is too deep. -/
theorem NestsCalls.tooDeep (nested : NestsCalls (limit + 1) text) :
    parseWithin limit text = .error .tooDeep := by
  obtain ⟨depth, part, call, arguments, enough, reached, -⟩ := nested
  exact tooDeep_iff.mpr (reached.outer (by omega))

/-- The part that is reached is an argument of a call, which is reached before it. -/
theorem Reaches.innermost (reached : Reaches (depth + 1) text part) :
    ∃ inner call arguments, Reaches depth text inner ∧ AcceptedCall inner call arguments := by
  induction depth generalizing text with
  | zero =>
    cases reached with
    | into accepted _ _ _ => exact ⟨text, _, _, .here text, accepted⟩
  | succ depth ih =>
    cases reached with
    | into accepted descends member deeper =>
      obtain ⟨inner, call, arguments, reached, last⟩ := ih deeper
      exact ⟨inner, call, arguments, .into accepted descends member reached, last⟩

theorem Reaches.nestsCalls (reached : Reaches (depth + 1) text part) :
    NestsCalls (depth + 1) text := by
  obtain ⟨inner, call, arguments, outer, last⟩ := reached.innermost
  exact ⟨depth, inner, call, arguments, le_rfl, outer, last⟩

/-- A text that is too deep has as many calls within one another as the limit allows. -/
theorem nestsCalls_of_tooDeep (tooDeep : parseWithin (limit + 1) text = .error .tooDeep) :
    NestsCalls (limit + 1) text := by
  obtain ⟨part, reached⟩ := tooDeep_iff.mp tooDeep
  exact reached.nestsCalls

theorem NestsCalls.mono (nested : NestsCalls count text) (less : fewer ≤ count) :
    NestsCalls fewer text := by
  obtain ⟨depth, part, call, arguments, enough, reached, last⟩ := nested
  exact ⟨depth, part, call, arguments, less.trans enough, reached, last⟩

/-- A call has only one argument list, and calls of different names do not have one text. -/
theorem AcceptedCall.splitCall? (accepted : AcceptedCall text call arguments) :
    splitCall? (trim text) = some (call.name.toList, arguments) := by
  obtain ⟨gap, blank, padded⟩ := accepted.written
  rw [padded.trim_eq, trim_callText (isName_call call),
    splitCall?_callText (isName_call call) blank accepted.balanced]

/-- A call is kept as it is if its name is none of the language, if it does not take its arguments,
or if it tests an attribute. -/
theorem kept_callText (named : isName name = true) (blank : Blank gap)
    (balanced : Balanced arguments)
    (refuses : ∀ call : Call, call.name.toList = name → call.Accepts (split arguments) →
      call = .hasProperty) : Kept (callText name gap arguments) := by
  intro call inner accepted
  have cut := accepted.splitCall?
  rw [trim_callText named, splitCall?_callText named blank balanced] at cut
  obtain ⟨rfl, rfl⟩ : name = call.name.toList ∧ arguments = inner := by simpa using cut
  exact refuses call rfl accepted.accepts

/-- Nothing is read for a text that is kept, so that it is read itself. -/
theorem Kept.exists_parse (kept : Kept text) : ∃ tree, parseWithin (limit + 1) text = .ok tree := by
  refine exists_parse_succ.mpr fun argument member => ?_
  obtain ⟨call, arguments, accepted, descends, -⟩ := mem_form_arguments_iff.mp member
  exact absurd (kept call arguments accepted) descends

/-- No part of a text that is kept is reached. -/
theorem Kept.depth_eq_zero (kept : Kept text) (reached : Reaches depth text part) : depth = 0 := by
  cases reached with
  | here _ => rfl
  | into accepted descends _ _ => exact absurd (kept _ _ accepted) descends

end Descending

/-- A text with a thousand accepted calls within one another is false of every cell, whatever else
stands in it, and makes no difference to a list of expressions. A text with at most sixty is read;
what is kept as it is does not count, whatever it contains. -/
theorem deep_calls_fail_alone [Platform] :
    (∀ text : String, NestsCalls 1000 text.toList → parse text = .error .tooDeep ∧
      ∀ cells cell, evaluate cells cell text = false ∧ ∀ front back,
        evaluateAny cells cell (front ++ text :: back) = evaluateAny cells cell (front ++ back)) ∧
    (∀ text : String, ¬ NestsCalls 61 text.toList → ∃ tree, parse text = .ok tree) ∧
    (∀ text : String, Kept text.toList → (∃ tree, parse text = .ok tree) ∧
      ∀ depth part, Reaches depth text.toList part → depth = 0) := by
  obtain ⟨more, deepest⟩ := Nat.exists_eq_add_of_lt Platform.sixty_lt_deepestExpression
  refine ⟨fun text nested => ?deep, fun text flat => ?shallow, fun text kept => ?kept⟩
  case deep =>
    have tooDeep : parse text = .error .tooDeep :=
      (nested.mono Platform.deepestExpression_lt_thousand).tooDeep
    refine ⟨tooDeep, fun cells cell => ?_⟩
    have nowhere : evaluate cells cell text = false := by rw [evaluate, tooDeep]
    refine ⟨nowhere, fun front back => ?_⟩
    simp [evaluateAny, nowhere]
  case shallow =>
    by_contra unread
    rw [parse, deepest] at unread
    have nested : NestsCalls (60 + more + 1) text.toList :=
      nestsCalls_of_tooDeep (tooDeep_iff_unread.mpr unread)
    exact flat (nested.mono (by omega))
  case kept =>
    rw [parse, deepest]
    exact ⟨kept.exists_parse, fun depth part => kept.depth_eq_zero⟩

/-- A name called on itself so many times. -/
def tower (name : String) : Nat → List Char
  | 0 => "isFlow".toList
  | height + 1 => callText name.toList [] (tower name height)

theorem tower_slot (named : isName name.toList = true) (height : Nat) :
    Slot (tower name height) := by
  induction height with
  | zero => exact (isName_plain (isName_predicate .isFlow)).slot
  | succ height ih => exact callText_slot named Blank.nil ih.balanced

theorem trim_tower (named : isName name.toList = true) (height : Nat) :
    trim (tower name height) = tower name height := by
  cases height with
  | zero => exact trim_name (isName_predicate .isFlow)
  | succ height => exact trim_callText named [] (tower name height)

theorem tower_not_blank (named : isName name.toList = true) (height : Nat) :
    ¬ Blank (tower name height) := by
  cases height with
  | zero => exact (Derives.predicate .isFlow).not_blank
  | succ height => exact callText_not_blank named [] (tower name height)

theorem split_tower (named : isName name.toList = true) (height : Nat) :
    split (tower name height) = [tower name height] := by
  rw [split_slot (tower_slot named height) (tower_not_blank named height), trim_tower named]

/-- Each negation of a tower is reached from the ones around it. -/
theorem reaches_tower (height : Nat) :
    Reaches height (tower Call.not.name height) "isFlow".toList := by
  induction height with
  | zero => exact .here _
  | succ height ih =>
    have only := split_tower (isName_call .not) height
    have accepted : AcceptedCall (tower Call.not.name (height + 1)) .not
        (tower Call.not.name height) :=
      ⟨⟨[], Blank.nil, Padded.refl _⟩, (tower_slot (isName_call .not) height).balanced, by
        simp [Call.Accepts, only]⟩
    refine .into accepted (by decide) ?_ ih
    rw [only]
    exact List.mem_singleton_self _

/-- The text of a disjunction. -/
def disjunction (operands : List (List Char)) : String :=
  String.ofList (callText Call.or.name.toList [] ([','].intercalate operands))

/-- What a disjunction is read from. -/
theorem disjunction_arguments (each : ∀ text ∈ operands, Slot text ∧ ¬ Blank text) :
    AcceptedCall (disjunction operands).toList .or ([','].intercalate operands) ∧
      split ([','].intercalate operands) = operands.map trim := by
  have balanced := balanced_intercalate fun text member => (each text member).1.balanced
  have cut := split_intercalate Blank.nil each
  refine ⟨⟨⟨[], Blank.nil, ?_⟩, balanced, trivial⟩, cut⟩
  rw [disjunction, String.toList_ofList]
  exact Padded.refl _

/-- An operand that holds of an actor, beside negations of a flow. -/
def deepOperands (height : Nat) : List (List Char) :=
  ["isActor".toList, tower Call.not.name height]

theorem nestsCalls_deep (height : Nat) :
    NestsCalls (height + 1) (disjunction (deepOperands height)).toList := by
  have actor := isName_predicate .isActor
  have each : ∀ text ∈ deepOperands height, Slot text ∧ ¬ Blank text := by
    rw [deepOperands, List.forall_mem_cons, List.forall_mem_singleton]
    exact ⟨⟨(isName_plain actor).slot, (Derives.predicate .isActor).not_blank⟩,
      tower_slot (isName_call .not) height, tower_not_blank (isName_call .not) height⟩
  obtain ⟨accepted, cut⟩ := disjunction_arguments each
  refine (Reaches.into accepted (by decide) ?_ (reaches_tower height)).nestsCalls
  rw [cut, deepOperands, List.map_cons, List.map_singleton, trim_tower (isName_call .not)]
  exact List.mem_cons_of_mem _ (List.mem_singleton_self _)

/-- The same negations as the value of an attribute, and calls of a name that is no call. -/
def keptOperands (height : Nat) : List (List Char) :=
  [callText Call.hasProperty.name.toList [] ("p".toList ++ ',' :: tower Call.not.name height),
    callText "is".toList [] (tower "is" height)]

theorem keptOperands_kept (height : Nat) :
    ∀ text ∈ keptOperands height, (Slot text ∧ ¬ Blank text) ∧ trim text = text ∧ Kept text := by
  have value : Balanced ("p".toList ++ ',' :: tower Call.not.name height) :=
    balanced_comma (by decide) (tower_slot (isName_call .not) height).balanced
  have named : isName "is".toList = true := by decide
  have other := (tower_slot named height).balanced
  rw [keptOperands, List.forall_mem_cons, List.forall_mem_singleton]
  constructor
  · refine ⟨⟨callText_slot (isName_call _) Blank.nil value, callText_not_blank (isName_call _) _ _⟩,
      trim_callText (isName_call _) _ _, ?_⟩
    refine kept_callText (isName_call _) Blank.nil value fun call same _ => ?_
    cases call <;> first | rfl | exact absurd same (by decide)
  · refine ⟨⟨callText_slot named Blank.nil other, callText_not_blank named _ _⟩,
      trim_callText named _ _, ?_⟩
    refine kept_callText named Blank.nil other fun call same _ => ?_
    cases call <;> exact absurd same (by decide)

theorem flat_kept (height : Nat) :
    ¬ NestsCalls 61 (disjunction (keptOperands height)).toList := by
  intro nested
  have each := keptOperands_kept height
  obtain ⟨accepted, cut⟩ := disjunction_arguments fun text member => (each text member).1
  obtain ⟨shape, found, formed⟩ := accepted.form
  refine tooDeep_iff_unread.mp nested.tooDeep (exists_parse_succ.mpr fun argument member => ?_)
  rw [formed, Call.form?_arguments .or (by decide) found, cut] at member
  obtain ⟨text, listed, rfl⟩ := List.mem_map.mp member
  rw [(each text listed).2.1]
  exact (each text listed).2.2.exists_parse

open scoped Platform

theorem towers_fail_alone :
    (NestsCalls 1000 (disjunction (deepOperands 1000)).toList ∧
      parse (disjunction (deepOperands 1000)) = .error .tooDeep ∧
      evaluate sent sender "isActor" = true ∧
      evaluate sent sender (disjunction (deepOperands 1000)) = false ∧
      evaluateAny sent sender (["isFlow"] ++ disjunction (deepOperands 1000) :: ["isActor"]) =
        evaluateAny sent sender (["isFlow"] ++ ["isActor"])) ∧
    (¬ NestsCalls 61 (disjunction (keptOperands 1000)).toList ∧
      ∃ tree, parse (disjunction (keptOperands 1000)) = .ok tree) ∧
    (∀ text ∈ keptOperands 1000, Kept (String.ofList text).toList ∧
      ∃ tree, parse (String.ofList text) = .ok tree) := by
  obtain ⟨deep, shallow, kept⟩ := deep_calls_fail_alone
  have nested : NestsCalls 1000 (disjunction (deepOperands 1000)).toList :=
    (nestsCalls_deep 1000).mono (by decide)
  obtain ⟨tooDeep, nowhere⟩ := deep _ nested
  refine ⟨⟨nested, tooDeep, by decide, (nowhere _ _).1, (nowhere _ _).2 _ _⟩,
    ⟨flat_kept 1000, shallow _ (flat_kept 1000)⟩, fun text member => ?_⟩
  have whole : Kept (String.ofList text).toList := by
    rw [String.toList_ofList]
    exact (keptOperands_kept 1000 text member).2.2
  exact ⟨whole, (kept _ whole).1⟩

end ThreatAnalysis.Expression
