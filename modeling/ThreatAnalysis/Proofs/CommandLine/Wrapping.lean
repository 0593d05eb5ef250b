import Mathlib.Tactic.Tauto
import ThreatAnalysis.CommandLine.Wrapping

/-!
What the lines of a column hold. However narrow a column is, a text has a line in it
(`wrap_ne_nil`). Filling up tabs, dividing between words and cutting leave nothing in the lines but
characters of the text, spaces, and marks for what is cut off (`mem_wrap`).
-/
namespace ThreatAnalysis

namespace Text
variable {α : Type} {isMark : α → Bool} {list part : List α}

theorem mem_of_mem_splitFirst : (∀ x ∈ (splitFirst isMark list).1, x ∈ list) ∧
    ∀ part ∈ (splitFirst isMark list).2, ∀ x ∈ part, x ∈ list := by
  induction list with
  | nil => simp [splitFirst]
  | cons c rest ih =>
    obtain ⟨front, back⟩ := ih
    rw [splitFirst]
    dsimp only
    split
    · refine ⟨nofun, fun part listed x member => List.mem_cons_of_mem _ ?_⟩
      rcases List.mem_cons.mp listed with rfl | later
      · exact front x member
      · exact back part later x member
    · refine ⟨fun x member => ?_, fun part listed x member =>
        List.mem_cons_of_mem _ (back part listed x member)⟩
      rcases List.mem_cons.mp member with rfl | within
      · exact List.mem_cons_self
      · exact List.mem_cons_of_mem _ (front x within)

/-- The parts of a list hold nothing else. -/
theorem mem_of_mem_splitWhere (listed : part ∈ splitWhere isMark list) (member : x ∈ part) :
    x ∈ list := by
  rcases List.mem_cons.mp listed with rfl | later
  · exact mem_of_mem_splitFirst.1 x member
  · exact mem_of_mem_splitFirst.2 part later x member

variable {c : Char} {text : List Char} {cluster first : Cluster}

theorem Cluster.mem_select (member : c ∈ cluster.select.text) :
    c ∈ cluster.text ∨ c = emojiSelector := by
  unfold Cluster.select at member
  split at member <;> simpa [Cluster.add] using member

theorem mem_of_mem_clustersFrom (listed : cluster ∈ clustersFrom first text)
    (member : c ∈ cluster.text) : c ∈ first.text ∨ c ∈ text := by
  -- At the end, at a selector, at a joiner with nothing and with a character behind it, at a mark
  -- without width, and at a character with which a new cluster starts.
  fun_induction clustersFrom first text with
  | case1 first =>
    rw [List.mem_singleton.mp listed] at member
    exact .inl member
  | case2 first rest ih =>
    rcases ih listed with selected | later
    · rcases Cluster.mem_select selected with before | selector
      · exact .inl before
      · exact .inr (selector ▸ List.mem_cons_self)
    · exact .inr (List.mem_cons_of_mem _ later)
  | case3 first =>
    rw [List.mem_singleton.mp listed] at member
    simpa [Cluster.add] using member
  | case4 first next rest _ ih =>
    rcases ih listed with joined | later
    · simp only [Cluster.add, List.mem_append, List.mem_singleton] at joined
      rcases joined with (before | joiner) | joined
      · exact .inl before
      · exact .inr (joiner ▸ List.mem_cons_self)
      · exact .inr (List.mem_cons_of_mem _ (joined ▸ List.mem_cons_self))
    · exact .inr (List.mem_cons_of_mem _ (List.mem_cons_of_mem _ later))
  | case5 first d rest _ _ _ ih =>
    rcases ih listed with added | later
    · simp only [Cluster.add, List.mem_append, List.mem_singleton] at added
      rcases added with before | same
      · exact .inl before
      · exact .inr (same ▸ List.mem_cons_self)
    · exact .inr (List.mem_cons_of_mem _ later)
  | case6 first d rest _ _ _ ih =>
    rcases List.mem_cons.mp listed with rfl | others
    · exact .inl member
    · rcases ih others with start | later
      · exact .inr (List.mem_singleton.mp start ▸ List.mem_cons_self)
      · exact .inr (List.mem_cons_of_mem _ later)

theorem mem_of_mem_clusters (listed : cluster ∈ clusters text) (member : c ∈ cluster.text) :
    c ∈ text := by
  cases text with
  | nil => cases listed
  | cons first rest =>
    rcases mem_of_mem_clustersFrom listed member with start | later
    · rw [List.mem_singleton.mp start]
      exact List.mem_cons_self
    · exact List.mem_cons_of_mem _ later

end Text

namespace Terminal
variable {limit filled : Nat} {characters : List Char} {c : Char} {placed : Placed}
  {line : List Placed}

theorem divide_ne_nil (limit : Nat) (line : List (List Placed)) (filled : Nat)
    (words : List (List Placed)) : divide limit line filled words ≠ [] := by
  induction words generalizing line filled with
  | nil => exact List.cons_ne_nil _ _
  | cons word rest ih =>
    unfold divide
    dsimp only
    split
    · exact ih _ _
    · exact List.cons_ne_nil _ _

/-- Every text has a line in a column. -/
theorem wrap_ne_nil (limit : Nat) (text : List Char) : wrap limit text ≠ [] := by
  unfold wrap Text.splitWhere
  simp [divide_ne_nil]

theorem mem_place (member : placed ∈ place characters) : placed.char ∈ characters := by
  obtain ⟨⟨c, position⟩, listed, rfl⟩ := List.mem_map.mp member
  exact List.fst_mem_of_mem_zipIdx listed

theorem mem_fillTabs {before : List Placed} (member : placed ∈ fillTabs filled before line) :
    placed ∈ before ∨ placed ∈ line ∨ placed.char = ' ' := by
  fun_induction fillTabs filled before line with
  | case1 _ before => exact .inl (List.mem_reverse.mp member)
  | case2 _ before c rest _ _ _ ih =>
    rcases List.mem_append.mp member with filled | later
    · rcases List.mem_append.mp filled with front | spaces
      · exact .inl (List.mem_reverse.mp front)
      · exact .inr (.inr (by rw [List.eq_of_mem_replicate spaces]))
    · rcases ih later with none | within | space
      · cases none
      · exact .inr (.inl (List.mem_cons_of_mem c within))
      · exact .inr (.inr space)
  | case3 _ before c rest _ ih =>
    rcases ih member with front | within | space
    · rcases List.mem_cons.mp front with rfl | front
      · exact .inr (.inl List.mem_cons_self)
      · exact .inl front
    · exact .inr (.inl (List.mem_cons_of_mem c within))
    · exact .inr (.inr space)

theorem mem_of_mem_addToWords {words : List (List Placed)} {word : List Placed} {added : Placed}
    (listed : word ∈ addToWords words added) (member : placed ∈ word) :
    placed = added ∨ ∃ word ∈ words, placed ∈ word := by
  unfold addToWords at listed
  split at listed
  · rw [List.mem_singleton.mp listed, List.mem_singleton] at member
    exact .inl member
  · rename_i latest before
    split at listed
    · rcases List.mem_cons.mp listed with rfl | others
      · exact .inl (List.mem_singleton.mp member)
      · exact .inr ⟨word, others, member⟩
    · rcases List.mem_cons.mp listed with rfl | others
      · rcases List.mem_cons.mp member with same | within
        · exact .inl same
        · exact .inr ⟨latest, List.mem_cons_self, within⟩
      · exact .inr ⟨word, List.mem_cons_of_mem _ others, member⟩

theorem mem_of_mem_foldl_addToWords {words : List (List Placed)} {word : List Placed}
    (listed : word ∈ line.foldl addToWords words) (member : placed ∈ word) :
    placed ∈ line ∨ ∃ word ∈ words, placed ∈ word := by
  induction line generalizing words with
  | nil => exact .inr ⟨word, listed, member⟩
  | cons c rest ih =>
    rcases ih listed with later | ⟨other, added, within⟩
    · exact .inl (List.mem_cons_of_mem c later)
    · rcases mem_of_mem_addToWords added within with rfl | before
      · exact .inl List.mem_cons_self
      · exact .inr before

theorem mem_of_mem_wordsOf {word : List Placed} (listed : word ∈ wordsOf line)
    (member : placed ∈ word) : placed ∈ line := by
  obtain ⟨backwards, within, rfl⟩ := List.mem_map.mp (List.mem_reverse.mp listed)
  rcases mem_of_mem_foldl_addToWords within (List.mem_reverse.mp member) with found | ⟨_, none, _⟩
  · exact found
  · cases none

theorem mem_of_mem_divide {words front : List (List Placed)} {divided : List Placed}
    (listed : divided ∈ divide limit front filled words) (member : placed ∈ divided) :
    ∃ word ∈ front ++ words, placed ∈ word := by
  -- The words of the current line are kept with the latest one first.
  have reversed (front rest : List (List Placed)) (member : placed ∈ front.reverse.flatten) :
      ∃ word ∈ front ++ rest, placed ∈ word := by
    obtain ⟨word, within, found⟩ := List.mem_flatten.mp member
    exact ⟨word, List.mem_append_left _ (List.mem_reverse.mp within), found⟩
  fun_induction divide limit front filled words with
  | case1 front filled =>
    rw [List.mem_singleton.mp listed] at member
    exact reversed front [] member
  | case2 front filled word rest _ _ ih =>
    obtain ⟨other, within, found⟩ := ih listed
    refine ⟨other, ?_, found⟩
    simp only [List.cons_append, List.mem_cons, List.mem_append] at within ⊢
    tauto
  | case3 front filled word rest _ _ ih =>
    rcases List.mem_cons.mp listed with rfl | later
    · exact reversed front (word :: rest) member
    · obtain ⟨other, within, found⟩ := ih later
      exact ⟨other, List.mem_append_right _ within, found⟩

theorem mem_takeWidth {clusters : List Text.Cluster} (member : c ∈ takeWidth limit clusters) :
    c = ' ' ∨ ∃ cluster ∈ clusters, c ∈ cluster.text := by
  induction clusters generalizing limit with
  | nil => cases member
  | cons cluster rest ih =>
    unfold takeWidth at member
    split at member
    · cases member
    · split at member
      · exact .inl (List.mem_singleton.mp member)
      · rcases List.mem_append.mp member with first | later
        · exact .inr ⟨cluster, List.mem_cons_self, first⟩
        · rcases ih later with space | ⟨other, listed, found⟩
          · exact .inl space
          · exact .inr ⟨other, List.mem_cons_of_mem _ listed, found⟩

theorem mem_cut (member : c ∈ cut limit characters) : c ∈ characters ∨ c = ' ' ∨ c = '…' := by
  unfold cut at member
  split at member
  · rcases List.mem_append.mp member with front | mark
    · rcases mem_takeWidth front with space | ⟨cluster, listed, found⟩
      · exact .inr (.inl space)
      · exact .inl (Text.mem_of_mem_clusters listed found)
    · exact .inr (.inr (List.mem_singleton.mp mark))
  · exact .inl member

/-- The lines of a text hold its characters, spaces, and a mark for what is cut off. -/
theorem mem_wrap {shown : ColumnLine} (listed : shown ∈ wrap limit characters)
    (member : c ∈ shown.text) : c ∈ characters ∨ c = ' ' ∨ c = '…' := by
  obtain ⟨line, part, divided⟩ := List.mem_flatMap.mp listed
  obtain ⟨fitted, within, rfl⟩ := List.mem_map.mp divided
  rcases mem_cut member with left | mark
  · obtain ⟨placed, kept, rfl⟩ := List.mem_map.mp left
    obtain ⟨word, given, found⟩ := mem_of_mem_divide within (List.mem_of_mem_take kept)
    rcases mem_fillTabs (mem_of_mem_wordsOf given found) with none | source | space
    · cases none
    · exact .inl (mem_place (Text.mem_of_mem_splitWhere part source))
    · exact .inr (.inl space)
  · exact .inr mark

end Terminal
end ThreatAnalysis
