import ThreatAnalysis.Proofs.Expression.Descent

/-!
The scanners of the expression reader agree on every text, also where parentheses do not balance and
the depth falls below zero. Cutting an argument list and looking for its first comma stop at the
same place, which is the first comma in front of which as many parentheses are closed as are opened
(`cut_at_first`). The end of a call is found by counting from its first parenthesis on, and such a
count ends before it could fall below zero (`ending_opened`), so that what stands between is
balanced, and with it every text that is read further.
-/
namespace ThreatAnalysis
open Text

namespace Arguments
variable {text : List Char} {place : Nat}

/-- In front of the first outer comma no comma separates. -/
theorem noSeparator_take (first : ∀ earlier < place, ¬ IsOuterComma text earlier) :
    NoSeparator 0 (text.take place) := by
  intro front shorter bottom
  have size := shorter.length_le
  obtain ⟨rest, whole⟩ := shorter.trans (List.take_prefix place text)
  have within : front.length < place := by
    rw [List.length_append, List.length_singleton, List.length_take] at size
    omega
  have comma : text[front.length]? = some ',' := by simp [← whole]
  have taken : text.take front.length = front := by
    rw [← whole, List.append_assoc, List.take_left]
  refine first front.length within ⟨comma, ?_⟩
  unfold level at bottom
  rw [taken]
  omega

theorem first_outerComma (found : (outerCommas text).head? = some place) :
    IsOuterComma text place ∧ ∀ earlier < place, ¬ IsOuterComma text earlier := by
  rw [outerCommas, List.head?_filter, List.find?_range_eq_some] at found
  obtain ⟨comma, -, first⟩ := found
  exact ⟨by simpa using comma, fun earlier less => by simpa using first earlier less⟩

theorem not_isOuterComma (none : outerCommas text = []) (place : Nat) :
    ¬ IsOuterComma text place := by
  intro comma
  obtain ⟨within, -⟩ := List.getElem?_eq_some_iff.mp comma.1
  have member : place ∈ outerCommas text :=
    List.mem_filter.mpr ⟨List.mem_range.mpr within, by simpa using comma⟩
  rw [none] at member
  cases member

/-- The list is cut at the first outer comma, and the search for a comma stops there. -/
theorem cut_at_first (found : (outerCommas text).head? = some place) :
    split text = trim (text.take place) :: split (text.drop (place + 1)) ∧
      behindComma? 0 text = some (text.drop (place + 1)) := by
  obtain ⟨⟨comma, balanced⟩, first⟩ := first_outerComma found
  have uncut := noSeparator_take first
  have bottom : level 0 (text.take place) = 0 := by
    unfold level
    omega
  have whole : text.take place ++ ',' :: text.drop (place + 1) = text := by
    obtain ⟨within, here⟩ := List.getElem?_eq_some_iff.mp comma
    rw [← here, ← List.drop_eq_getElem_cons within, List.take_append_drop]
  have cut := split_comma uncut bottom (text.drop (place + 1))
  have behind := behindComma?_comma uncut bottom (text.drop (place + 1))
  rw [whole] at cut behind
  exact ⟨cut, behind⟩

/-- Without an outer comma there is at most one argument. -/
theorem length_split_le_one (none : outerCommas text = []) : (split text).length ≤ 1 := by
  have uncut : NoSeparator 0 text := by
    have whole := noSeparator_take fun earlier (_ : earlier < text.length) =>
      not_isOuterComma none earlier
    rwa [List.take_length] at whole
  by_cases blank : Blank text
  · simp [split_blank blank]
  · simp [split_uncut uncut blank]

end Arguments

namespace Expression
open Arguments

/-- How the count of the parentheses of a call comes to its end. -/
inductive Ending where
  /-- The first parenthesis closes in front of further text. -/
  | early
  /-- More parentheses are closed than were opened. -/
  | below
  /-- The text is at its end, and at a depth. -/
  | atEnd (depth : Int)
deriving DecidableEq, Repr

/-- Counts the parentheses of a text from a depth on. -/
def ending (depth : Int) : List Char → Ending
  | [] => .atEnd depth
  | c :: rest =>
    if c = ')' ∧ deepen depth c = 0 ∧ rest ≠ [] then .early
    else if deepen depth c < 0 then .below
    else ending (deepen depth c) rest

/-- The name and the argument list of a text that is one whole call, found by that count. -/
def countedCall? (text : List Char) : Option (List Char × List Char) :=
  let name := trim (text.takeWhile (· ≠ '('))
  let behind := text.dropWhile (· ≠ '(')
  if behind ≠ [] ∧ text.getLast? = some ')' ∧ isName name ∧ ending 0 behind = .atEnd 0 then
    some (name, behind.tail.dropLast)
  else none

/-- As long as parentheses are open, the count goes on. -/
theorem ending_cons (opened : 0 < deepen depth c) (rest : List Char) :
    ending depth (c :: rest) = ending (deepen depth c) rest := by
  have here : ¬ (c = ')' ∧ deepen depth c = 0 ∧ rest ≠ []) := fun ⟨_, bottom, _⟩ => by omega
  have above : ¬ deepen depth c < 0 := by omega
  rw [ending, if_neg here, if_neg above]

/-- Behind an opening parenthesis the count comes to the end at depth zero exactly if that is where
the parenthesis is closed, and it does not fall below zero. -/
theorem ending_opened (depth : Nat) (text : List Char) :
    (ending (depth + 1) text = .atEnd 0 ↔ (enclosed? depth text).isSome) ∧
      ending (depth + 1) text ≠ .below := by
  -- The search for the closing parenthesis counts how many are open besides the first one.
  fun_induction enclosed? depth text with
  | case1 depth =>
    simp [ending]
    omega
  | case2 depth rest deeper =>
    have next : deepen (depth + 1) '(' = (depth + 1 : Nat) + 1 := by simp [deepen]
    rwa [ending_cons (by omega), next, Option.isSome_map]
  | case3 rest ended => simp [ending, deepen, List.isEmpty_iff.mp ended]
  | case4 rest more =>
    have further : rest ≠ [] := fun none => more (List.isEmpty_iff.mpr none)
    simp [ending, deepen, further]
  | case5 rest depth _ deeper =>
    have next : deepen (depth.succ + 1) ')' = depth + 1 := by simp [deepen]
    rwa [ending_cons (by omega), next, Option.isSome_map]
  | case6 depth c rest opening closing deeper =>
    have next : deepen (depth + 1) c = depth + 1 := by simp [deepen, opening, closing]
    rwa [ending_cons (by omega), next, Option.isSome_map]

theorem ending_call (rest : List Char) :
    ending 0 ('(' :: rest) = ending ((0 : Nat) + 1) rest :=
  ending_cons (by decide) rest

/-- The count finds the calls that the search for the closing parenthesis finds. -/
theorem splitCall?_eq_countedCall? (text : List Char) : splitCall? text = countedCall? text := by
  unfold splitCall? countedCall?
  cases behind : text.dropWhile (fun c => decide (c ≠ '(')) with
  | nil => simp
  | cons c rest =>
    obtain rfl := opening_of_dropWhile behind
    have whole := List.takeWhile_append_dropWhile (p := fun c => decide (c ≠ '(')) (l := text)
    rw [behind] at whole
    have counted := (ending_opened 0 rest).1
    rw [← ending_call] at counted
    cases closed : enclosed? 0 rest with
    | none =>
      rw [closed] at counted
      simp [closed, counted]
    | some inner =>
      obtain ⟨rfl, -⟩ := enclosed?_eq_some.mp closed
      rw [closed] at counted
      have last : text.getLast? = some ')' := by
        rw [← whole, ← List.cons_append, ← List.append_assoc, List.getLast?_concat]
      simp [closed, counted, last]

/-- In a whole text the count starts at its first parenthesis. -/
theorem ending_ne_below (text : List Char) : ending 0 (text.dropWhile (· ≠ '(')) ≠ .below := by
  cases behind : text.dropWhile (· ≠ '(') with
  | nil => simp [ending]
  | cons c rest =>
    obtain rfl := opening_of_dropWhile behind
    rw [ending_call]
    exact (ending_opened 0 rest).2

/-- From another place the count would fall below zero. -/
example : ending 0 "a)(b)".toList = .below := by decide

/-- The scanners agree on every text. A list that has a comma in front of which as many parentheses
are closed as are opened is cut at the first such comma, and there the search for a comma stops; the
empty text, which stands for what is behind no comma, is never taken where there are two arguments.
The count of the parentheses of a call finds the calls that are read and never falls below zero. The
arguments of a call are balanced, and so is each text that is read for an expression. -/
theorem scanners_agree (text : List Char) :
    (∀ place, (outerCommas text).head? = some place →
      split text = trim (text.take place) :: split (afterFirstComma 0 text) ∧
        afterFirstComma 0 text = text.drop (place + 1)) ∧
    (afterFirstComma 0 text = (behindComma? 0 text).getD [] ∧
      (2 ≤ (split text).length → (behindComma? 0 text).isSome)) ∧
    (splitCall? text = countedCall? text ∧ ending 0 (text.dropWhile (· ≠ '(')) ≠ .below) ∧
    (∀ name arguments, splitCall? text = some (name, arguments) →
      Balanced arguments ∧ ∀ piece ∈ split arguments, Balanced piece) ∧
    ∀ argument ∈ (form (trim text)).arguments, Balanced argument := by
  have pieces {arguments : List Char} (balanced : Balanced arguments) :
      ∀ piece ∈ split arguments, Balanced piece :=
    fun _ member => (piece_of_mem_split balanced member).slot.balanced
  refine ⟨fun place found => ?cut, ⟨afterFirstComma_eq 0 text, fun several => ?found⟩,
    ⟨splitCall?_eq_countedCall? text, ending_ne_below text⟩, fun name arguments whole => ?inner,
    fun argument member => ?passed⟩
  case cut =>
    obtain ⟨cut, behind⟩ := cut_at_first found
    rw [afterFirstComma_eq, behind]
    exact ⟨cut, rfl⟩
  case found =>
    cases found : (outerCommas text).head? with
    | none =>
      have one := length_split_le_one (List.head?_eq_none_iff.mp found)
      omega
    | some place => simp [(cut_at_first found).2]
  case inner =>
    obtain ⟨-, balanced, -⟩ := splitCall?_eq_some whole
    exact ⟨balanced, pieces balanced⟩
  case passed =>
    obtain ⟨call, arguments, accepted, -, listed⟩ := mem_form_arguments_iff.mp member
    exact pieces accepted.balanced argument listed

/-- A list that closes a parenthesis before it opens one. -/
def crossedList : List Char := "),(,a".toList

/-- A call with blanks in front of its arguments, which are a call. -/
def nestedCall : List Char := "not (or(a,b))".toList

theorem crossed_and_nested_agree :
    ((outerCommas crossedList).head? = some 3 ∧
      split crossedList = trim (crossedList.take 3) :: split (afterFirstComma 0 crossedList)) ∧
    (2 ≤ (split crossedList).length ∧ (behindComma? 0 crossedList).isSome) ∧
    (splitCall? nestedCall = some ("not".toList, "or(a,b)".toList) ∧ Balanced "or(a,b)".toList) ∧
    ("or(a,b)".toList ∈ split "or(a,b)".toList ∧
      "or(a,b)".toList ∈ (form (trim nestedCall)).arguments ∧ Balanced "or(a,b)".toList) := by
  have comma : (outerCommas crossedList).head? = some 3 := by decide
  have several : 2 ≤ (split crossedList).length := by decide
  have whole : splitCall? nestedCall = some ("not".toList, "or(a,b)".toList) := by decide
  have listed : "or(a,b)".toList ∈ split "or(a,b)".toList := by decide
  have passed : "or(a,b)".toList ∈ (form (trim nestedCall)).arguments := by decide
  obtain ⟨cut, ⟨-, found⟩, -⟩ := scanners_agree crossedList
  obtain ⟨-, -, -, inner, read⟩ := scanners_agree nestedCall
  exact ⟨⟨comma, (cut 3 comma).1⟩, ⟨several, found several⟩, ⟨whole, (inner _ _ whole).1⟩,
    listed, passed, read _ passed⟩

end Expression
end ThreatAnalysis
