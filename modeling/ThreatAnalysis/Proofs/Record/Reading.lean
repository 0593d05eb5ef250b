import Mathlib.Data.List.Forall2
import ThreatAnalysis.Record.Readers

/-! What readers do with the items of an array, and that they never refuse a value without an
issue. -/
namespace ThreatAnalysis

theorem ok_of_mapError {result : Except ε α} {f : ε → δ} {value : α}
    (succeeded : result.mapError f = .ok value) : result = .ok value := by
  cases result with
  | ok known =>
    cases succeeded
    rfl
  | error _ => cases succeeded

theorem Reading.issues_under {α : Type} (step : Step) (reading : Reading α) :
    (reading.under step).issues = reading.issues.map (·.under step) := by
  cases reading <;> rfl

/-- Nothing is wrong with a value exactly if it can be read. -/
theorem Reading.issues_eq_nil_iff {α : Type} {reading : Reading α} (explained : reading ≠ .error []) :
    reading.issues = [] ↔ ∃ value, reading = .ok value := by
  cases reading with
  | ok value => simp [Reading.issues]
  | error found =>
    have some : found ≠ [] := fun none => explained (congrArg Except.error none)
    simp [Reading.issues, some]

namespace Readers

theorem nullableText_explained (document : Json) : nullableText document ≠ .error [] := by
  cases document <;> exact fun refused => nomatch refused

theorem flagOr_explained (value : Option Bool) : flagOr value ≠ .error [] := by
  cases value <;> exact fun refused => nomatch refused

theorem flag_explained (document : Json) : flag document ≠ .error [] := by
  cases document with
  | string word => exact flagOr_explained _
  | int n =>
    simp only [flag]
    split
    · exact flagOr_explained _
    · exact fun refused => nomatch refused
  | double x =>
    simp only [flag]
    split
    · split
      · exact flagOr_explained _
      · exact fun refused => nomatch refused
    · exact fun refused => nomatch refused
  | _ => exact fun refused => nomatch refused

section
variable {α : Type} {read : Json → Reading α}

/-- An array is read item by item. -/
theorem items_ok_iff {position : Nat} {documents : List Json} {values : List α} :
    items read position documents = .ok values ↔
      List.Forall₂ (fun document value => read document = .ok value) documents values := by
  induction documents generalizing position values with
  | nil => rw [List.forall₂_nil_left_iff, items, Except.ok.injEq, eq_comm]
  | cons document rest ih =>
    constructor
    · intro succeeded
      rw [items] at succeeded
      cases head : read document with
      | error found =>
        rw [head] at succeeded
        cases succeeded
      | ok value =>
        cases tail : items read (position + 1) rest with
        | error found =>
          rw [head, tail] at succeeded
          cases succeeded
        | ok later =>
          rw [head, tail] at succeeded
          cases succeeded
          exact .cons head (ih.mp tail)
    · intro related
      cases related with
      | cons head tail =>
        rw [items, head, ih.mpr tail]
        rfl

/-- The issues of an array are those of each of its items, in order and under its index. -/
theorem issues_items (position : Nat) (documents : List Json) :
    (items read position documents).issues = (documents.zipIdx position).flatMap
      fun (document, index) => (read document).issues.map (·.under (.index index)) := by
  induction documents generalizing position with
  | nil => rfl
  | cons document rest ih =>
    rw [List.zipIdx_cons, List.flatMap_cons, ← ih, items]
    dsimp only
    rw [← Reading.issues_under]
    cases head : (read document).under (.index position) with
    | ok value => cases items read (position + 1) rest <;> rfl
    | error found => rfl

theorem items_explained (explained : ∀ document, read document ≠ .error []) (position : Nat)
    (documents : List Json) : items read position documents ≠ .error [] := by
  induction documents generalizing position with
  | nil => exact fun refused => nomatch refused
  | cons document rest ih =>
    intro refused
    rw [items] at refused
    cases head : read document with
    | error found =>
      cases found with
      | nil => exact explained document head
      | cons issue issues =>
        rw [head] at refused
        cases refused
    | ok value =>
      cases tail : items read (position + 1) rest with
      | error found =>
        rw [head, tail] at refused
        cases refused
        exact ih _ tail
      | ok later =>
        rw [head, tail] at refused
        cases refused

theorem list_explained (explained : ∀ document, read document ≠ .error []) (document : Json) :
    list read document ≠ .error [] := by
  cases document with
  | array documents => exact items_explained explained 0 documents
  | _ => exact fun refused => nomatch refused

/-- Null stands for the empty list; any other value is read as a list. -/
theorem nullableList_cases (read : Json → Reading α) (document : Json) :
    nullableList read document = .ok [] ∨ nullableList read document = list read document := by
  cases document with
  | null => exact .inl rfl
  | _ => exact .inr rfl

theorem nullableList_explained (explained : ∀ document, read document ≠ .error [])
    (document : Json) : nullableList read document ≠ .error [] := by
  rcases nullableList_cases read document with same | same <;> rw [same]
  · exact fun refused => nomatch refused
  · exact list_explained explained document

/-- A list is read back if and only if each of its values is. -/
theorem list_reread {write : α → Json} {values : List α} :
    list read (.array (values.map write)) = .ok values ↔
      ∀ value ∈ values, read (write value) = .ok value := by
  rw [list, items_ok_iff, List.forall₂_map_left_iff, List.forall₂_same]

/-- The values of a list that was read were read themselves. -/
theorem mem_of_list {document : Json} {values : List α}
    (succeeded : list read document = .ok values) (member : value ∈ values) : ∃ document, read document = .ok value := by
  cases document with
  | array documents =>
    obtain ⟨index, position, rfl⟩ := List.mem_iff_getElem.mp member
    have related := items_ok_iff.mp succeeded
    exact ⟨_, (List.forall₂_iff_get.mp related).2 index (related.length_eq ▸ position) position⟩
  | _ => cases succeeded

theorem mem_of_nullableList {document : Json} {values : List α}
    (succeeded : nullableList read document = .ok values) (member : value ∈ values) :
    ∃ document, read document = .ok value := by
  rcases nullableList_cases read document with same | same <;> rw [same] at succeeded
  · cases succeeded
    cases member
  · exact mem_of_list succeeded member

end
end Readers
end ThreatAnalysis
