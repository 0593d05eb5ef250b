import Mathlib.Data.List.TakeWhile
import ThreatAnalysis.CommandLine.Markup

/-!
Texts in which nothing is a tag. Of the parts of a line only the tags decide whether it can be shown
(`tags`). A text is silent in front of a bracket or the end of the line if it has no tag in it
there. A text without tags is silent, and so is every text once it is escaped (`silent_escape`),
except that a backslash at its end may take away the meaning of the tag behind it.
-/
namespace ThreatAnalysis.Markup
variable {text front rest back more inside plain : List Char}

/-! Tags. -/

/-- What stands in a part that is a tag. -/
def Part.inside? : Part → Option (List Char)
  | .text _ => none
  | .tag inside => some inside

/-- What stands in the tags of a text, in order. -/
def tags (text : List Char) : List (List Char) :=
  (parts text).filterMap Part.inside?

theorem inside?_plainPart (plain : List Char) : (plainPart plain).filterMap Part.inside? = [] := by
  unfold plainPart
  split <;> rfl

theorem inside?_tagParts (backslashes : Nat) (inside : List Char) :
    (tagParts backslashes inside).filterMap Part.inside? =
      if backslashes % 2 = 0 then [inside] else [] := by
  unfold tagParts
  rw [List.filterMap_append, inside?_plainPart]
  split <;> rfl

/-- The plain characters in front and those that are left out are no matter for the tags. -/
theorem inside?_partsBehind (plain : List Char) (skip : Nat) (text : List Char) :
    (partsBehind plain skip text).filterMap Part.inside? = tags (text.drop skip) := by
  have alike (text : List Char) : ∀ (plain other : List Char) (skip : Nat),
      (partsBehind plain skip text).filterMap Part.inside? =
        (partsBehind other 0 (text.drop skip)).filterMap Part.inside? := by
    induction text with
    | nil =>
      intro plain other skip
      rw [List.drop_nil]
      unfold partsBehind
      rw [inside?_plainPart, inside?_plainPart]
    | cons c rest ih =>
      intro plain other skip
      cases skip with
      | succ skip =>
        rw [partsBehind, List.drop_succ_cons]
        exact ih plain other skip
      | zero =>
        rw [List.drop_zero]
        unfold partsBehind
        split
        · exact (ih _ [] 0).trans (ih _ [] 0).symm
        · simp only [List.filterMap_append, inside?_plainPart]
  exact alike text plain [] skip

/-- A character that leads to no tag is passed over. -/
theorem tags_cons {c : Char} (none : tag? ((c :: rest).dropWhile (· = '\\')) = none) :
    tags (c :: rest) = tags rest := by
  have begun : tags (c :: rest) = (partsBehind [] 0 (c :: rest)).filterMap Part.inside? := rfl
  rw [begun]
  unfold partsBehind
  rw [none]
  exact inside?_partsBehind _ 0 rest

/-- Whether a text ends, or goes on with a bracket. -/
def Stops (more : List Char) : Prop :=
  more = [] ∨ ∃ rest, more = '[' :: rest

/-- A tag behind backslashes counts as one if their number is even. -/
theorem tags_backslashes (count : Nat) (found : tag? more = some inside) :
    tags (List.replicate count '\\' ++ more) =
      (if count % 2 = 0 then [inside] else []) ++ tags (more.drop (inside.length + 2)) := by
  obtain ⟨bracket, rest, rfl, meaning⟩ :
      ∃ bracket rest, more = bracket :: rest ∧ bracket ≠ '\\' := by
    unfold tag? at found
    split at found
    · exact ⟨_, _, rfl, by decide⟩
    · cases found
  have all : ∀ c ∈ List.replicate count '\\', decide (c = '\\') = true := by
    intro c member
    simp [List.eq_of_mem_replicate member]
  have behind : (List.replicate count '\\' ++ bracket :: rest).dropWhile (· = '\\') =
      bracket :: rest := by
    rw [List.dropWhile_append_of_pos all, List.dropWhile_cons_of_neg (by simpa using meaning)]
  have before : ((List.replicate count '\\' ++ bracket :: rest).takeWhile (· = '\\')).length =
      count := by
    rw [List.takeWhile_append_of_pos all, List.takeWhile_cons_of_neg (by simpa using meaning)]
    simp
  have left : (List.replicate count '\\' ++ bracket :: rest).drop (count + (inside.length + 2)) =
      (bracket :: rest).drop (inside.length + 2) := by
    simp [List.drop_append]
  rw [← left]
  cases whole : List.replicate count '\\' ++ bracket :: rest with
  | nil => simp at whole
  | cons c tail =>
    rw [whole] at behind before
    have begun : tags (c :: tail) = (partsBehind [] 0 (c :: tail)).filterMap Part.inside? := rfl
    rw [begun]
    unfold partsBehind
    rw [behind, found]
    simp only [before, List.filterMap_append, inside?_plainPart, inside?_tagParts,
      inside?_partsBehind, List.nil_append]
    rw [← Nat.add_assoc, List.drop_succ_cons]

/-! Silent texts. -/

/-- In front of backslashes that stand before a bracket or the end, nothing in the text is a tag,
and only backslashes at its end still count. -/
def Silent (text : List Char) : Prop :=
  ∃ last, ∀ count more, Stops more → tags (text ++ (List.replicate count '\\' ++ more)) =
    tags (List.replicate (last + count) '\\' ++ more)

theorem tags_replicate (count : Nat) : tags (List.replicate count '\\') = [] := by
  induction count with
  | zero => rfl
  | succ count ih =>
    rw [List.replicate_succ, tags_cons, ih]
    have gone : ('\\' :: List.replicate count '\\').dropWhile (· = '\\') = [] := by
      rw [List.dropWhile_eq_nil_iff]
      simp
    rw [gone]
    rfl

theorem Silent.nil : Silent [] :=
  ⟨0, fun count more _ => by rw [List.nil_append, Nat.zero_add]⟩

theorem Silent.tags_eq (silent : Silent text) : tags text = [] := by
  obtain ⟨last, reads⟩ := silent
  have ended := reads 0 [] (.inl rfl)
  simpa [tags_replicate] using ended

/-- A tag behind a silent text counts as one, unless its meaning is taken away. -/
theorem Silent.tags_append (silent : Silent text) (found : tag? more = some inside) :
    ∃ kept : Bool, tags (text ++ more) =
      (if kept then [inside] else []) ++ tags (more.drop (inside.length + 2)) := by
  obtain ⟨last, reads⟩ := silent
  have stops : Stops more := by
    unfold tag? at found
    split at found
    · exact .inr ⟨_, rfl⟩
    · cases found
  have whole := reads 0 more stops
  rw [List.replicate_zero, List.nil_append, Nat.add_zero, tags_backslashes last found] at whole
  exact ⟨decide (last % 2 = 0), by simpa using whole⟩

theorem Silent.backslash (silent : Silent text) : Silent (text ++ ['\\']) := by
  obtain ⟨last, reads⟩ := silent
  refine ⟨last + 1, fun count more stops => ?_⟩
  have longer := reads (count + 1) more stops
  rw [List.replicate_succ, List.cons_append] at longer
  rw [List.append_assoc, List.singleton_append, longer, Nat.add_right_comm, Nat.add_assoc]

theorem upToBracket?_stops (count : Nat) (stops : Stops more) :
    upToBracket? (List.replicate count '\\' ++ more) = none := by
  induction count with
  | zero =>
    rcases stops with rfl | ⟨rest, rfl⟩
    · rfl
    · rfl
  | succ count ih =>
    rw [List.replicate_succ, List.cons_append, upToBracket?, ih]
    rfl

theorem upToBracket?_append (text : List Char) (count : Nat) (stops : Stops more) :
    upToBracket? (text ++ (List.replicate count '\\' ++ more)) = upToBracket? text := by
  induction text with
  | nil => exact upToBracket?_stops count stops
  | cons c rest ih => rw [List.cons_append, upToBracket?, upToBracket?, ih]

theorem tag?_cons_of_ne {c : Char} (other : c ≠ '[') (rest : List Char) :
    tag? (c :: rest) = none := by
  unfold tag?
  split
  · rename_i whole
    exact absurd (List.cons.inj whole).1 other
  · rfl

/-- A bracket that is not closed within a text is not closed behind it either. -/
theorem tag?_append (given : text ≠ []) (count : Nat) (stops : Stops more) :
    tag? (text ++ (List.replicate count '\\' ++ more)) = tag? text := by
  obtain ⟨bracket, rest, rfl⟩ := List.exists_cons_of_ne_nil given
  rw [List.cons_append]
  by_cases opened : bracket = '['
  · subst opened
    cases rest with
    | nil =>
      cases count with
      | zero => rcases stops with rfl | ⟨rest, rfl⟩ <;> rfl
      | succ count => rfl
    | cons c rest => simp only [List.cons_append, tag?, upToBracket?_append rest count stops]
  · rw [tag?_cons_of_ne opened, tag?_cons_of_ne opened]

/-- A character that leads to no tag keeps a text silent. -/
theorem Silent.cons (silent : Silent text) {c : Char}
    (none : tag? ((c :: text).dropWhile (· = '\\')) = none) : Silent (c :: text) := by
  by_cases all : (c :: text).dropWhile (· = '\\') = []
  · have backslashes : c :: text = List.replicate (c :: text).length '\\' := by
      rw [List.dropWhile_eq_nil_iff] at all
      exact List.eq_replicate_of_mem fun d member => by simpa using all d member
    refine ⟨(c :: text).length, fun count more _ => ?_⟩
    rw [← List.replicate_append_replicate, List.append_assoc, ← backslashes]
  · obtain ⟨last, reads⟩ := silent
    refine ⟨last, fun count more stops => ?_⟩
    have passed : tag? ((c :: (text ++ (List.replicate count '\\' ++ more))).dropWhile
        (· = '\\')) = Option.none := by
      rw [← List.cons_append, List.dropWhile_append, if_neg (by simpa using all),
        tag?_append all count stops, none]
    rw [List.cons_append, tags_cons passed, reads count more stops]

/-! Texts without tags. -/

/-- Nowhere in a text a tag starts. -/
def Tagless (text : List Char) : Prop :=
  ∀ back, back <:+ text → tag? back = none

theorem Tagless.of_cons {c : Char} (tagless : Tagless (c :: text)) : Tagless text :=
  fun back ending => tagless back (ending.trans (List.suffix_cons c text))

theorem Tagless.dropWhile (tagless : Tagless text) (test : Char → Bool) :
    tag? (text.dropWhile test) = none :=
  tagless _ (List.dropWhile_suffix test)

theorem partsBehind_tagless (tagless : Tagless text) (plain : List Char) :
    partsBehind plain 0 text = plainPart (plain.reverse ++ text) := by
  induction text generalizing plain with
  | nil => rw [partsBehind, List.append_nil]
  | cons c rest ih =>
    rw [partsBehind, tagless.dropWhile]
    dsimp only
    rw [ih tagless.of_cons]
    simp

/-- A text without tags is one part, if it is anything. -/
theorem parts_tagless (tagless : Tagless text) : parts text = plainPart text :=
  partsBehind_tagless tagless []

theorem Tagless.silent (tagless : Tagless text) : Silent text := by
  induction text with
  | nil => exact Silent.nil
  | cons c rest ih => exact (ih tagless.of_cons).cons (tagless.dropWhile _)

/-! Escaped texts. -/

theorem upToBracket?_eq_some (found : upToBracket? text = some inside) :
    (∀ c ∈ inside, c ≠ ']' ∧ c ≠ '[') ∧ ∃ rest, text = inside ++ ']' :: rest := by
  induction text generalizing inside with
  | nil => cases found
  | cons c rest ih =>
    unfold upToBracket? at found
    split at found
    · rename_i closing
      cases found
      exact ⟨by simp, rest, by rw [closing, List.nil_append]⟩
    · split at found
      · cases found
      · rename_i notClosing notOpening
        obtain ⟨later, reads, rfl⟩ := Option.map_eq_some_iff.mp found
        obtain ⟨plain, behind, rfl⟩ := ih reads
        exact ⟨by simpa [notClosing, notOpening] using plain, behind, rfl⟩

theorem upToBracket?_closed (plain : ∀ c ∈ inside, c ≠ ']' ∧ c ≠ '[') (rest : List Char) :
    upToBracket? (inside ++ ']' :: rest) = some inside := by
  induction inside with
  | nil => rfl
  | cons c later ih =>
    obtain ⟨different, others⟩ := List.forall_mem_cons.mp plain
    rw [List.cons_append, upToBracket?, if_neg different.1, if_neg different.2, ih others]
    rfl

/-- What a tag looks like. -/
theorem tag?_eq_some_iff :
    tag? text = some inside ↔ ∃ c later rest, inside = c :: later ∧ startsTag c = true ∧
      (∀ d ∈ later, d ≠ ']' ∧ d ≠ '[') ∧ text = '[' :: inside ++ ']' :: rest := by
  constructor
  · intro found
    unfold tag? at found
    split at found
    · split at found
      · rename_i c behind starts
        obtain ⟨later, reads, rfl⟩ := Option.map_eq_some_iff.mp found
        obtain ⟨plain, rest, rfl⟩ := upToBracket?_eq_some reads
        exact ⟨c, later, rest, rfl, starts, plain, rfl⟩
      · cases found
    · cases found
  · rintro ⟨c, later, rest, rfl, starts, plain, rfl⟩
    simp [tag?, starts, upToBracket?_closed plain]

theorem leadsToTag_cons_of_ne {c : Char} (plain : c ≠ '\\') (other : c ≠ '[') (rest : List Char) :
    leadsToTag (c :: rest) = false := by
  rw [leadsToTag, List.dropWhile_cons_of_neg (by simpa using plain), tag?_cons_of_ne other]
  rfl

theorem leadsToTag_backslash (rest : List Char) :
    leadsToTag ('\\' :: rest) = leadsToTag rest := by
  unfold leadsToTag
  rw [List.dropWhile_cons_of_pos (by simp)]

theorem escapeTags_cons_of_not {c : Char} (calm : leadsToTag (c :: rest) = false) :
    escapeTags (c :: rest) = c :: escapeTags rest := by
  rw [escapeTags, if_neg (by simp [calm])]

/-- A text in front of a closing bracket leads to nothing, and is kept. -/
theorem escapeTags_plain (plain : ∀ c ∈ inside, c ≠ '[') (rest : List Char) :
    leadsToTag (inside ++ ']' :: rest) = false ∧
      escapeTags (inside ++ ']' :: rest) = inside ++ ']' :: escapeTags rest := by
  induction inside with
  | nil =>
    have calm := leadsToTag_cons_of_ne (show ']' ≠ '\\' by decide) (by decide) rest
    exact ⟨calm, escapeTags_cons_of_not calm⟩
  | cons c later ih =>
    obtain ⟨other, others⟩ := List.forall_mem_cons.mp plain
    obtain ⟨calm, kept⟩ := ih others
    have still : leadsToTag (c :: (later ++ ']' :: rest)) = false := by
      by_cases backslash : c = '\\'
      · rw [backslash, leadsToTag_backslash, calm]
      · exact leadsToTag_cons_of_ne backslash other _
    rw [List.cons_append]
    exact ⟨still, by rw [escapeTags_cons_of_not still, kept, List.cons_append]⟩

/-- In front of a tag each backslash is doubled, and one more takes away its meaning. -/
theorem escapeTags_tag (count : Nat) (found : tag? ('[' :: inside ++ ']' :: rest) = some inside) :
    escapeTags (List.replicate count '\\' ++ ('[' :: inside ++ ']' :: rest)) =
      List.replicate (2 * count + 1) '\\' ++ ('[' :: inside ++ ']' :: escapeTags rest) := by
  obtain ⟨first, later, behind, rfl, starts, bare, -⟩ := tag?_eq_some_iff.mp found
  have plain : ∀ c ∈ first :: later, c ≠ '[' := by
    refine List.forall_mem_cons.mpr ⟨?_, fun c member => (bare c member).2⟩
    rintro rfl
    revert starts
    decide
  have leads (count : Nat) : leadsToTag
      (List.replicate count '\\' ++ ('[' :: (first :: later) ++ ']' :: rest)) = true := by
    induction count with
    | zero =>
      rw [List.replicate_zero, List.nil_append, leadsToTag, List.cons_append,
        List.dropWhile_cons_of_neg (by decide), ← List.cons_append, found]
      rfl
    | succ count ih => rwa [List.replicate_succ, List.cons_append, leadsToTag_backslash]
  induction count with
  | zero =>
    have opens := leads 0
    rw [List.replicate_zero, List.nil_append, List.cons_append] at opens ⊢
    rw [escapeTags, if_pos ⟨.inr rfl, opens⟩, (escapeTags_plain plain rest).2]
    rfl
  | succ count ih =>
    have doubles := leads (count + 1)
    rw [List.replicate_succ, List.cons_append] at doubles ⊢
    rw [escapeTags, if_pos ⟨.inl rfl, doubles⟩, ih]
    rfl

theorem upToBracket?_escapeTags (opened : upToBracket? text = none) :
    upToBracket? (escapeTags text) = none := by
  induction text with
  | nil => rfl
  | cons c rest ih =>
    unfold upToBracket? at opened
    split at opened
    · cases opened
    · rename_i notClosing
      split at opened
      · rename_i opening
        subst opening
        rw [escapeTags]
        split <;> rfl
      · rename_i notOpening
        have still := ih (Option.map_eq_none_iff.mp opened)
        have passed : upToBracket? (c :: escapeTags rest) = none := by
          rw [upToBracket?, if_neg notClosing, if_neg notOpening, still]
          rfl
        rw [escapeTags]
        split
        · rw [upToBracket?, if_neg (by decide), if_neg (by decide), passed]
          rfl
        · exact passed

/-- A bracket that is no tag is none once what follows is escaped. -/
theorem tag?_escapeTags (none : tag? ('[' :: rest) = none) :
    tag? ('[' :: escapeTags rest) = Option.none := by
  cases rest with
  | nil => rfl
  | cons c later =>
    cases starts : startsTag c with
    | false =>
      rw [escapeTags]
      split
      · rfl
      · simp [tag?, starts]
    | true =>
      have plain : c ≠ '\\' ∧ c ≠ '[' := by
        constructor <;>
        · rintro rfl
          revert starts
          decide
      have unclosed : upToBracket? later = Option.none := by simpa [tag?, starts] using none
      rw [escapeTags_cons_of_not (leadsToTag_cons_of_ne plain.1 plain.2 later)]
      simp [tag?, starts, upToBracket?_escapeTags unclosed]

/-- Where a text leads to no tag, it leads to none once it is escaped. -/
theorem calm_escapeTags (calm : leadsToTag text = false) :
    tag? ((escapeTags text).dropWhile (· = '\\')) = none := by
  induction text with
  | nil => rfl
  | cons c rest ih =>
    rw [escapeTags_cons_of_not calm]
    by_cases backslash : c = '\\'
    · subst backslash
      rw [leadsToTag_backslash] at calm
      rw [List.dropWhile_cons_of_pos (by simp)]
      exact ih calm
    · rw [List.dropWhile_cons_of_neg (by simpa using backslash)]
      by_cases opened : c = '['
      · subst opened
        rw [leadsToTag, List.dropWhile_cons_of_neg (by decide), Option.isSome_eq_false_iff,
          Option.isNone_iff_eq_none] at calm
        exact tag?_escapeTags calm
      · exact tag?_cons_of_ne opened _

/-- A tag is one whatever stands behind it. -/
theorem tag?_closed (found : tag? ('[' :: inside ++ ']' :: rest) = some inside)
    (more : List Char) : tag? ('[' :: inside ++ ']' :: more) = some inside := by
  obtain ⟨first, later, behind, same, starts, bare, -⟩ := tag?_eq_some_iff.mp found
  exact tag?_eq_some_iff.mpr ⟨first, later, more, same, starts, bare, rfl⟩

/-- A tag whose meaning is taken away keeps a text silent. -/
theorem Silent.escaped (silent : Silent rest) (count : Nat)
    (found : tag? ('[' :: inside ++ ']' :: rest) = some inside) :
    Silent (List.replicate (2 * count + 1) '\\' ++ ('[' :: inside ++ ']' :: rest)) := by
  obtain ⟨last, reads⟩ := silent
  refine ⟨last, fun further more stops => ?_⟩
  have behind : ('[' :: inside ++ ']' :: rest) ++ (List.replicate further '\\' ++ more) =
      '[' :: inside ++ ']' :: (rest ++ (List.replicate further '\\' ++ more)) := by simp
  have left : ('[' :: inside ++ ']' :: (rest ++ (List.replicate further '\\' ++ more))).drop
      (inside.length + 2) = rest ++ (List.replicate further '\\' ++ more) := by
    simp [List.drop_append]
  rw [List.append_assoc, behind, tags_backslashes _ (tag?_closed found _), if_neg (by omega),
    List.nil_append, left, reads further more stops]

/-- An escaped text is silent. -/
theorem silent_escapeTags (text : List Char) : Silent (escapeTags text) := by
  induction size : text.length using Nat.strongRecOn generalizing text with
  | ind size ih =>
    subst size
    cases text with
    | nil => exact Silent.nil
    | cons c rest =>
      cases leads : leadsToTag (c :: rest) with
      | false =>
        have calm := calm_escapeTags leads
        rw [escapeTags_cons_of_not leads] at calm ⊢
        exact (ih rest.length (by simp) rest rfl).cons calm
      | true =>
        -- The backslashes in front and the tag are escaped at once, the rest is shorter.
        obtain ⟨inside, found⟩ := Option.isSome_iff_exists.mp leads
        obtain ⟨-, -, behind, -, -, -, tagged⟩ := tag?_eq_some_iff.mp found
        rw [tagged] at found
        have front : (c :: rest).takeWhile (· = '\\') =
            List.replicate ((c :: rest).takeWhile (· = '\\')).length '\\' :=
          List.eq_replicate_of_mem fun d member => by simpa using List.mem_takeWhile_imp member
        have whole : c :: rest = List.replicate ((c :: rest).takeWhile (· = '\\')).length '\\' ++
            ('[' :: inside ++ ']' :: behind) := by
          rw [← front, ← tagged, List.takeWhile_append_dropWhile]
        have shorter : behind.length < (c :: rest).length := by
          rw [whole]
          simp only [List.length_append, List.length_cons]
          omega
        rw [whole, escapeTags_tag _ found]
        exact (ih behind.length shorter behind rfl).escaped _ (tag?_closed found _)

theorem silent_escape (text : String) : Silent (escape text).toList := by
  have silent := silent_escapeTags text.toList
  rw [escape, String.toList_ofList]
  unfold doubleLast
  split
  · exact silent
  · exact silent.backslash
  · exact silent

end ThreatAnalysis.Markup
