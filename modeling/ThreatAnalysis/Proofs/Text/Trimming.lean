import Mathlib.Data.List.TakeWhile
import ThreatAnalysis.Text.Blank

/-! Trimming takes away exactly the blank ends of a text. What is left is the same for every amount
of blanks around a text, and the blanks taken away can be put back. -/
namespace ThreatAnalysis.Text

/-- Text without any character that trimming would keep. -/
def Blank (text : List Char) : Prop := ∀ c ∈ text, isBlank c = true

instance : Decidable (Blank text) := List.decidableBAll (isBlank · = true) text

theorem Blank.nil : Blank [] := by simp [Blank]

theorem Blank.reverse (blank : Blank text) : Blank text.reverse :=
  fun c member => blank c (List.mem_reverse.mp member)

theorem Blank.append (front : Blank before) (back : Blank after) : Blank (before ++ after) :=
  fun c member => (List.mem_append.mp member).elim (front c) (back c)

theorem Blank.behind (blank : Blank (front ++ text)) : Blank text :=
  fun c member => blank c (List.mem_append_right front member)

theorem trimFront_eq_nil : trimFront text = [] ↔ Blank text := by
  simp [trimFront, Blank, List.dropWhile_eq_nil_iff]

theorem trim_eq_nil : trim text = [] ↔ Blank text := by
  constructor
  · intro gone
    have behind : Blank (trimFront text).reverse :=
      trimFront_eq_nil.mp (List.reverse_eq_nil_iff.mp gone)
    cases kept : trimFront text with
    | nil => exact trimFront_eq_nil.mp kept
    | cons c rest =>
      have solid := List.head?_dropWhile_not isBlank text
      have blank : isBlank c = true := behind c (by simp [kept])
      simp only [trimFront] at kept
      simp [kept, blank] at solid
  · intro blank
    have opened := trimFront_eq_nil.mpr blank
    rw [trim, opened]
    rfl

/-- Blanks in front of a text and behind it make no difference to what is left of it. -/
theorem trim_padded (front : Blank before) (back : Blank after) (text : List Char) :
    trim (before ++ text ++ after) = trim text := by
  have opened : trimFront (before ++ text ++ after) = trimFront (text ++ after) := by
    rw [List.append_assoc]
    exact List.dropWhile_append_of_pos front
  by_cases blank : trimFront text = []
  · have gone : trimFront (text ++ after) = [] := by
      simp only [trimFront] at blank
      simp [trimFront, List.dropWhile_append, blank, List.dropWhile_eq_nil_iff.mpr back]
    rw [trim, trim, opened, gone, blank]
  · have stays : trimFront (text ++ after) = trimFront text ++ after := by
      simp only [trimFront] at blank ⊢
      simp [List.dropWhile_append, blank]
    have closed : trimFront (after.reverse ++ (trimFront text).reverse) =
        trimFront (trimFront text).reverse :=
      List.dropWhile_append_of_pos back.reverse
    simp only [trim, opened, stays, List.reverse_append, closed]

theorem trim_blank_append (front : Blank before) (text : List Char) :
    trim (before ++ text) = trim text := by
  have padded := trim_padded front Blank.nil text
  rwa [List.append_nil] at padded

/-- A text is what is left of it with the blanks around that. -/
theorem trim_split (text : List Char) :
    ∃ before after, Blank before ∧ Blank after ∧ text = before ++ trim text ++ after := by
  refine ⟨text.takeWhile isBlank, ((trimFront text).reverse.takeWhile isBlank).reverse, ?_, ?_, ?_⟩
  · exact List.all_eq_true.mp List.all_takeWhile
  · exact Blank.reverse (List.all_eq_true.mp List.all_takeWhile)
  · have behind : trim text ++ ((trimFront text).reverse.takeWhile isBlank).reverse =
        trimFront text := by
      rw [trim, ← List.reverse_append]
      exact (congrArg List.reverse List.takeWhile_append_dropWhile).trans (List.reverse_reverse _)
    rw [List.append_assoc, behind]
    exact List.takeWhile_append_dropWhile.symm

/-- Nothing is taken away from a text that begins and ends with characters that are not blank. -/
theorem trim_solid (first : isBlank c = false) (last : isBlank d = false) (text : List Char) :
    trim (c :: text ++ [d]) = c :: text ++ [d] := by
  simp [trim, trimFront, first, last]

end ThreatAnalysis.Text
