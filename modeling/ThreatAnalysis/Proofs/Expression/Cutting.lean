import Mathlib.Data.List.Forall2
import ThreatAnalysis.Proofs.Expression.Scanning

/-!
Cutting and joining argument lists. The commas that separate are counted by what stands in front of
them (`outerCommas`), without a look at how a list is cut. Pieces that are joined with commas, with
blanks around them at will, are cut apart again (`split_joined`), and a list that is cut is joined
again from its pieces, up to the blanks around its outer commas and one comma at its end
(`exists_joined`). So no text is lost on the way, and none comes in.
-/
namespace ThreatAnalysis
open Text Arguments

variable {inner text whole : List Char}

namespace Text

theorem trim_trim (text : List Char) : trim (trim text) = trim text := by
  obtain ⟨before, after, front, back, split⟩ := trim_split text
  have padded := trim_padded front back (trim text)
  rw [← split] at padded
  exact padded.symm

theorem Plain.count_eq_zero (plain : Plain text) : text.count '(' = 0 ∧ text.count ')' = 0 :=
  ⟨List.count_eq_zero.mpr fun member => (plain '(' member).1 rfl,
    List.count_eq_zero.mpr fun member => (plain ')' member).2.1 rfl⟩

/-- A text with blanks around it. -/
def Padded (inner text : List Char) : Prop :=
  ∃ before after, Blank before ∧ Blank after ∧ text = before ++ inner ++ after

theorem Padded.refl (text : List Char) : Padded text text :=
  ⟨[], [], Blank.nil, Blank.nil, by simp⟩

theorem Padded.trans (inside : Padded inner text) (outside : Padded text whole) :
    Padded inner whole := by
  obtain ⟨before, after, front, back, rfl⟩ := inside
  obtain ⟨start, rest, first, last, rfl⟩ := outside
  exact ⟨start ++ before, after ++ rest, first.append front, back.append last, by simp⟩

theorem padded_trim (text : List Char) : Padded (trim text) text :=
  trim_split text

theorem Padded.trim_eq (padded : Padded inner text) : trim text = trim inner := by
  obtain ⟨before, after, front, back, rfl⟩ := padded
  exact trim_padded front back inner

/-- A comma stands at a place, and in front of it as many parentheses are closed as are opened. -/
def IsOuterComma (text : List Char) (place : Nat) : Prop :=
  text[place]? = some ',' ∧ (text.take place).count '(' = (text.take place).count ')'

instance : Decidable (IsOuterComma text place) :=
  inferInstanceAs (Decidable (_ ∧ _))

/-- The places of the commas outside of parentheses. -/
def outerCommas (text : List Char) : List Nat :=
  (List.range text.length).filter (IsOuterComma text)

/-- The text behind the last comma outside of parentheses, the whole text if there is none. -/
def behindOuterCommas (text : List Char) : List Char :=
  text.drop ((outerCommas text).getLast?.elim 0 (· + 1))

end Text

/-- A piece as it comes out of a list: trimmed, and able to stand as one argument. -/
structure Piece (piece : List Char) : Prop where
  trimmed : trim piece = piece
  slot : Slot piece

theorem Text.Padded.slot (padded : Padded inner text) (closed : Slot inner) : Slot text := by
  obtain ⟨before, after, front, back, rfl⟩ := padded
  exact (front.plain.slot.append closed).append back.plain.slot

/-- Blanks that are taken away leave a slot, since they neither open nor close anything. -/
theorem Slot.of_padded (padded : Padded inner text) (closed : Slot text) : Slot inner := by
  obtain ⟨before, after, front, back, rfl⟩ := padded
  obtain ⟨frontOpens, frontCloses⟩ := front.plain.count_eq_zero
  obtain ⟨backOpens, backCloses⟩ := back.plain.count_eq_zero
  have starts {start : List Char} (shorter : start <+: inner) :
      before ++ start <+: before ++ inner ++ after :=
    ((List.prefix_append_right_inj before).mpr shorter).trans (List.prefix_append _ after)
  refine ⟨⟨?_, fun start shorter => ?_⟩, fun start shorter => ?_⟩
  · have total := closed.balanced.total
    simp only [List.count_append] at total
    omega
  · have within := closed.balanced.within _ (starts shorter)
    simp only [List.count_append] at within
    omega
  · have here := starts shorter
    rw [← List.append_assoc] at here
    have inside := closed.noOuterComma _ here
    simp only [List.count_append] at inside
    omega

theorem Slot.piece (closed : Slot text) : Piece (trim text) :=
  ⟨trim_trim text, closed.of_padded (padded_trim text)⟩

namespace Text
variable {slot : List Char} {place : Nat}

/-- At a comma of a slot more parentheses are opened than closed. -/
theorem not_isOuterComma_slot (closed : Slot slot) (place : Nat) : ¬ IsOuterComma slot place := by
  rintro ⟨comma, level⟩
  have front := List.take_prefix (place + 1) slot
  rw [List.take_add_one, comma] at front
  have inside := closed.noOuterComma _ front
  omega

theorem isOuterComma_front (within : place < slot.length) (rest : List Char) :
    IsOuterComma (slot ++ rest) place ↔ IsOuterComma slot place := by
  unfold IsOuterComma
  rw [List.getElem?_append_left within, List.take_append_of_le_length within.le]

/-- The comma behind a slot is an outer one. -/
theorem isOuterComma_between (closed : Slot slot) (rest : List Char) :
    IsOuterComma (slot ++ ',' :: rest) slot.length := by
  have total := closed.balanced.total
  refine ⟨by simp, ?_⟩
  rw [List.take_left]
  omega

theorem isOuterComma_behind (closed : Slot slot) (rest : List Char) (place : Nat) :
    IsOuterComma (slot ++ ',' :: rest) (slot.length + 1 + place) ↔ IsOuterComma rest place := by
  have total := closed.balanced.total
  have front : slot ++ ',' :: rest = (slot ++ [',']) ++ rest := List.append_cons slot ',' rest
  have size : slot.length + 1 + place = (slot ++ [',']).length + place := by simp
  unfold IsOuterComma
  rw [front, size, List.getElem?_append_right (Nat.le_add_right _ _), List.take_length_add_append,
    Nat.add_sub_cancel_left]
  simp only [List.count_append, List.count_singleton]
  refine and_congr_right fun _ => ?_
  simp
  omega

theorem outerCommas_slot (closed : Slot slot) : outerCommas slot = [] :=
  List.filter_eq_nil_iff.mpr fun place _ => by simpa using not_isOuterComma_slot closed place

/-- The outer commas of a list are the one behind its first slot and those behind that. -/
theorem outerCommas_more (closed : Slot slot) (rest : List Char) :
    outerCommas (slot ++ ',' :: rest) =
      slot.length :: (outerCommas rest).map (slot.length + 1 + ·) := by
  have size : (slot ++ ',' :: rest).length = slot.length + 1 + rest.length := by
    rw [List.length_append, List.length_cons]
    omega
  have inside : (List.range slot.length).filter (IsOuterComma (slot ++ ',' :: rest)) = [] := by
    refine List.filter_eq_nil_iff.mpr fun place member => ?_
    rw [decide_eq_true_iff, isOuterComma_front (List.mem_range.mp member)]
    exact not_isOuterComma_slot closed place
  have behind : (List.range rest.length).filter
      (fun place => IsOuterComma (slot ++ ',' :: rest) (slot.length + 1 + place)) =
        outerCommas rest :=
    List.filter_congr fun place _ => decide_eq_decide.mpr (isOuterComma_behind closed rest place)
  unfold outerCommas at behind ⊢
  rw [size, List.range_add, List.range_succ, List.filter_append, List.filter_append, inside,
    List.filter_map]
  simp only [Function.comp_def, behind, List.nil_append, List.filter_cons, List.filter_nil,
    isOuterComma_between closed rest, decide_true, if_true, List.singleton_append]

theorem behindOuterCommas_slot (closed : Slot slot) : behindOuterCommas slot = slot := by
  rw [behindOuterCommas, outerCommas_slot closed]
  rfl

theorem behindOuterCommas_more (closed : Slot slot) (rest : List Char) :
    behindOuterCommas (slot ++ ',' :: rest) = behindOuterCommas rest := by
  have front : slot ++ ',' :: rest = (slot ++ [',']) ++ rest := List.append_cons slot ',' rest
  have behind (count : Nat) : (slot ++ ',' :: rest).drop (slot.length + 1 + count) =
      rest.drop count := by
    have size : slot.length + 1 = (slot ++ [',']).length := by simp
    rw [front, size, List.drop_length_add_append]
  unfold behindOuterCommas
  rw [outerCommas_more closed, List.getLast?_cons, List.getLast?_map]
  cases (outerCommas rest).getLast? with
  | none => exact behind 0
  | some last => exact behind (last + 1)

end Text

namespace Arguments

theorem slots_of_pieces {pieces padded : List (List Char)} (each : ∀ piece ∈ pieces, Piece piece)
    (around : List.Forall₂ Padded pieces padded) :
    (∀ text ∈ padded, Slot text) ∧ padded.map trim = pieces := by
  induction around with
  | nil => exact ⟨nofun, rfl⟩
  | cons first _ ih =>
    obtain ⟨fine, others⟩ := List.forall_mem_cons.mp each
    obtain ⟨slots, trimmed⟩ := ih others
    refine ⟨List.forall_mem_cons.mpr ⟨first.slot fine.slot, slots⟩, ?_⟩
    rw [List.map_cons, first.trim_eq, fine.trimmed, trimmed]

/-- Pieces that are joined are cut apart again, whatever blanks are put around them. -/
theorem split_joined {pieces padded : List (List Char)} (each : ∀ piece ∈ pieces, Piece piece)
    (last : pieces.getLast? ≠ some []) (around : List.Forall₂ Padded pieces padded) :
    split ([','].intercalate padded) = pieces := by
  obtain ⟨slots, trimmed⟩ := slots_of_pieces each around
  have given : ∀ text, padded.getLast? = some text → ¬Blank text := by
    intro text found blank
    rw [← trimmed, List.getLast?_map, found, Option.map_some, trim_eq_nil.mpr blank] at last
    exact last rfl
  have cut := split_slots_intercalate Blank.nil slots given
  rwa [List.nil_append, trimmed] at cut

/-- Every piece of a list is trimmed and can stand as an argument. -/
theorem piece_of_mem_split {text piece : List Char} (balanced : Balanced text)
    (member : piece ∈ split text) : Piece piece := by
  refine slot_induction (motive := fun text => ∀ piece ∈ split text, Piece piece) ?_ ?_ text
    balanced piece member
  · intro slot closed piece member
    by_cases blank : Blank slot
    · simp [split_blank blank] at member
    · rw [split_slot closed blank, List.mem_singleton] at member
      exact member ▸ closed.piece
  · intro slot rest closed _ ih piece member
    rw [split_more closed, List.mem_cons] at member
    rcases member with rfl | later
    · exact closed.piece
    · exact ih piece later

/-- There is a piece for each outer comma, and one more unless what stands behind them is blank. -/
theorem length_split {text : List Char} (balanced : Balanced text) :
    (split text).length =
      (outerCommas text).length + if Blank (behindOuterCommas text) then 0 else 1 := by
  refine slot_induction (motive := fun text => (split text).length =
    (outerCommas text).length + if Blank (behindOuterCommas text) then 0 else 1) ?_ ?_ text balanced
  · intro slot closed
    rw [outerCommas_slot closed, behindOuterCommas_slot closed]
    by_cases blank : Blank slot
    · simp [blank, split_blank blank]
    · simp [blank, split_slot closed blank]
  · intro slot rest closed _ ih
    rw [split_more closed, outerCommas_more closed, behindOuterCommas_more closed, List.length_cons,
      List.length_cons, List.length_map, ih]
    omega

/-- A list that is not blank is made up of its pieces with blanks around them, and commas between
them, but for one comma in front of blanks at its end. -/
theorem exists_joined {text : List Char} (balanced : Balanced text) (given : ¬ Blank text) :
    ∃ padded back, List.Forall₂ Padded (split text) padded ∧
      (back = [] ∨ ∃ blanks, Blank blanks ∧ back = ',' :: blanks) ∧
      text = [','].intercalate padded ++ back := by
  refine slot_induction (motive := fun text => ¬ Blank text → ∃ padded back,
    List.Forall₂ Padded (split text) padded ∧
      (back = [] ∨ ∃ blanks, Blank blanks ∧ back = ',' :: blanks) ∧
      text = [','].intercalate padded ++ back) ?_ ?_ text balanced given
  · intro slot closed given
    refine ⟨[slot], [], ?_, .inl rfl, by simp⟩
    rw [split_slot closed given]
    exact .cons (padded_trim slot) .nil
  · intro slot rest closed balancedRest ih _
    rw [split_more closed]
    by_cases blank : Blank rest
    · refine ⟨[slot], ',' :: rest, ?_, .inr ⟨rest, blank, rfl⟩, by simp⟩
      rw [split_blank blank]
      exact .cons (padded_trim slot) .nil
    · obtain ⟨padded, back, around, ending, whole⟩ := ih blank
      -- The rest has a piece of its own, so that the comma in front of it is one between pieces.
      obtain ⟨first, later, rfl⟩ : ∃ first later, padded = first :: later := by
        refine List.exists_cons_of_ne_nil fun none => split_ne_nil balancedRest blank ?_
        rwa [none, List.forall₂_nil_right_iff] at around
      refine ⟨slot :: first :: later, back, .cons (padded_trim slot) around, ending, ?_⟩
      rw [whole, List.intercalate_cons_cons]
      simp

/-- Cutting neither loses text nor makes any up. Trimmed pieces with balanced parentheses and no
comma outside of them, the last of which is not empty, are what is cut out of the text that joins
them, with blanks around each at will. In turn a balanced text is cut into such pieces, as many as
it has outer commas and one more unless only blanks stand behind those; and joining these gives the
text back, up to blanks around each and one last comma. -/
theorem cut_and_join_inverse :
    (∀ pieces padded : List (List Char), (∀ piece ∈ pieces, Piece piece) →
      pieces.getLast? ≠ some [] → List.Forall₂ Padded pieces padded →
      split ([','].intercalate padded) = pieces) ∧
    (∀ text, Balanced text → (∀ piece ∈ split text, Piece piece) ∧
      (split text).length =
        (outerCommas text).length + (if Blank (behindOuterCommas text) then 0 else 1) ∧
      (Blank text ∧ split text = [] ∨ ∃ padded back, List.Forall₂ Padded (split text) padded ∧
        (back = [] ∨ ∃ blanks, Blank blanks ∧ back = ',' :: blanks) ∧
        text = [','].intercalate padded ++ back)) := by
  refine ⟨fun pieces padded each last around => split_joined each last around, ?_⟩
  intro text balanced
  refine ⟨fun piece member => piece_of_mem_split balanced member, length_split balanced, ?_⟩
  by_cases blank : Blank text
  · exact .inl ⟨blank, split_blank blank⟩
  · exact .inr (exists_joined balanced blank)

/-- A piece with a comma in parentheses, an empty one, and one with blanks behind it; and a list
that ends in a comma. -/
theorem mixed_cut_and_join :
    (∀ piece ∈ ["or(a,b)", "", "c"].map String.toList, Piece piece) ∧
    (["or(a,b)", "", "c"].map String.toList).getLast? ≠ some [] ∧
    List.Forall₂ Padded (["or(a,b)", "", "c"].map String.toList)
      ([" or(a,b)", "\t", "c\u3000"].map String.toList) ∧
    split ([','].intercalate ([" or(a,b)", "\t", "c\u3000"].map String.toList)) =
      ["or(a,b)", "", "c"].map String.toList ∧
    Balanced "or(a,b) ,, ".toList ∧ (split "or(a,b) ,, ".toList).length = 2 := by
  have each : ∀ piece ∈ ["or(a,b)", "", "c"].map String.toList, Piece piece := by
    simp only [List.map_cons, List.map_nil, List.forall_mem_cons]
    exact ⟨⟨rfl, by decide⟩, ⟨rfl, by decide⟩, ⟨rfl, by decide⟩, by simp⟩
  have last : (["or(a,b)", "", "c"].map String.toList).getLast? ≠ some [] := by decide
  have around : List.Forall₂ Padded (["or(a,b)", "", "c"].map String.toList)
      ([" or(a,b)", "\t", "c\u3000"].map String.toList) :=
    .cons ⟨[' '], [], by decide, by decide, rfl⟩ <| .cons ⟨['\t'], [], by decide, by decide, rfl⟩ <|
      .cons ⟨[], ['\u3000'], by decide, by decide, rfl⟩ .nil
  have balanced : Balanced "or(a,b) ,, ".toList := by decide
  obtain ⟨-, length, -⟩ := cut_and_join_inverse.2 _ balanced
  exact ⟨each, last, around, cut_and_join_inverse.1 _ _ each last around, balanced, length⟩

end Arguments
end ThreatAnalysis
