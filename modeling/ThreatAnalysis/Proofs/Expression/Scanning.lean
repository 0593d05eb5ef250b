import ThreatAnalysis.Expression.Parse
import ThreatAnalysis.Proofs.Text.Balance
import ThreatAnalysis.Proofs.Text.Trimming

/-! The scanners of the expression reader: the cutting of argument lists into slots, the search for
the first separating comma, and the search for the parenthesis that closes a call. Each counts
parentheses on its own, and at every character it has the depth that counting gives (`level`), which
may lie below zero. On balanced text they agree with the counted notions and so with one
another. -/
namespace ThreatAnalysis
open Text

/-- A piece of text that can stand as one slot of an argument list: its parentheses balance and no
comma in it separates. -/
structure Slot (text : List Char) : Prop where
  balanced : Balanced text
  noOuterComma : NoOuterComma text

instance : Decidable (Slot text) :=
  decidable_of_iff (Balanced text ∧ NoOuterComma text)
    ⟨fun ⟨balanced, inside⟩ => ⟨balanced, inside⟩, fun slot => ⟨slot.balanced, slot.noOuterComma⟩⟩

theorem Slot.append (first : Slot front) (second : Slot back) : Slot (front ++ back) :=
  ⟨first.balanced.append second.balanced,
    CommasInside.append first.balanced first.noOuterComma second.noOuterComma⟩

theorem Text.Plain.slot (plain : Plain text) : Slot text :=
  ⟨plain.balanced, plain.noOuterComma⟩

theorem Text.Blank.plain (blank : Blank text) : Plain text := by
  intro c member
  have white := blank c member
  refine ⟨?_, ?_, ?_⟩ <;> rintro rfl <;> exact absurd white (by decide)

/-- Balanced text is cut at its outer commas into slots, so what holds of every slot and is kept
when a slot is put in front holds of every balanced text. -/
theorem slot_induction {motive : List Char → Prop}
    (last : ∀ slot, Slot slot → motive slot)
    (more : ∀ slot rest, Slot slot → Balanced rest → motive rest → motive (slot ++ ',' :: rest))
    (text : List Char) (balanced : Balanced text) : motive text := by
  induction size : text.length using Nat.strong_induction_on generalizing text with
  | _ size' ih =>
    rcases balanced.outer_comma with inside | ⟨slot, rest, rfl, closes, inside, balancedRest⟩
    · exact last text ⟨balanced, inside⟩
    · have shorter : rest.length < size' := by
        rw [← size, List.length_append, List.length_cons]
        omega
      exact more slot rest ⟨closes, inside⟩ balancedRest (ih _ shorter rest balancedRest rfl)

namespace Arguments

/-- The depth behind a text that starts at a depth, which may lie below zero. -/
def level (depth : Int) (text : List Char) : Int :=
  depth + text.count '(' - text.count ')'

/-- Read from a depth on, no comma of the text stands at depth zero. -/
def NoSeparator (depth : Int) (text : List Char) : Prop :=
  ∀ front, front ++ [','] <+: text → level depth front ≠ 0

@[simp] theorem level_nil (depth : Int) : level depth [] = depth := by
  simp [level]

/-- The depth of a scanner is the depth that is counted. -/
theorem level_cons (depth : Int) (c : Char) (text : List Char) :
    level depth (c :: text) = level (deepen depth c) text := by
  unfold level deepen
  by_cases opening : c = '('
  · simp [opening]
    omega
  · by_cases closing : c = ')'
    · simp [closing]
      omega
    · simp [opening, closing]

theorem noSeparator_cons : NoSeparator depth (c :: text) ↔
    (c = ',' → depth ≠ 0) ∧ NoSeparator (deepen depth c) text := by
  constructor
  · intro uncut
    refine ⟨?_, fun front shorter => ?_⟩
    · rintro rfl
      simpa using uncut [] (by simp)
    · have above := uncut (c :: front) ((List.prefix_cons_inj c).mpr shorter)
      rwa [level_cons] at above
  · rintro ⟨here, behind⟩ front shorter
    cases front with
    | nil =>
      obtain ⟨rfl, -⟩ := List.cons_prefix_cons.mp shorter
      simpa using here rfl
    | cons d front =>
      obtain ⟨rfl, rest⟩ := List.cons_prefix_cons.mp shorter
      rw [level_cons]
      exact behind front rest

theorem level_of_closes (closes : Closes depth text) : level depth text = 0 := by
  have total := closes.total
  unfold level
  omega

theorem noSeparator_of_commasInside (inside : CommasInside depth text) :
    NoSeparator depth text := by
  intro front shorter
  have opened := inside front shorter
  unfold level
  omega

/-- Text without a separating comma belongs to one slot, which what follows it goes on with. -/
theorem slots_append (uncut : NoSeparator depth front) (rest : List Char) :
    slots depth (front ++ rest) =
      (front ++ (slots (level depth front) rest).1, (slots (level depth front) rest).2) := by
  induction front generalizing depth with
  | nil => simp
  | cons c front ih =>
    obtain ⟨here, behind⟩ := noSeparator_cons.mp uncut
    have within : ¬ (c = ',' ∧ depth = 0) := fun ⟨comma, bottom⟩ => here comma bottom
    simp only [List.cons_append, slots, within, ↓reduceIte, ih behind, level_cons]

theorem slots_uncut (uncut : NoSeparator depth text) : slots depth text = (text, []) := by
  have cut := slots_append uncut []
  simpa [slots] using cut

/-- A list of blanks has no argument. -/
theorem split_blank (blank : Blank text) : split text = [] := by
  have uncut : NoSeparator 0 text := noSeparator_of_commasInside blank.plain.noOuterComma
  simp [split, slots_uncut uncut, dropEmptyLast, trim_eq_nil.mpr blank]

/-- A text without a separating comma that is not blank is the only argument. -/
theorem split_uncut (uncut : NoSeparator 0 text) (given : ¬ Blank text) :
    split text = [trim text] := by
  have kept : trim text ≠ [] := fun gone => given (trim_eq_nil.mp gone)
  simp [split, slots_uncut uncut, dropEmptyLast, kept]

/-- What stands in front of the first separating comma is an argument, blank or not. -/
theorem split_comma (uncut : NoSeparator 0 front) (bottom : level 0 front = 0)
    (rest : List Char) : split (front ++ ',' :: rest) = trim front :: split rest := by
  have cut := slots_append uncut (',' :: rest)
  have comma : slots 0 (',' :: rest) = ([], (slots 0 rest).1 :: (slots 0 rest).2) := by
    simp [slots]
  simp only [bottom, comma, List.append_nil] at cut
  simp only [split, cut, List.map_cons, dropEmptyLast]

/-- A slot that is not blank is the only argument. -/
theorem split_slot (slot : Slot text) (given : ¬ Blank text) : split text = [trim text] :=
  split_uncut (noSeparator_of_commasInside slot.noOuterComma) given

/-- A slot in front of a comma is an argument, blank or not. -/
theorem split_more (slot : Slot text) (rest : List Char) :
    split (text ++ ',' :: rest) = trim text :: split rest :=
  split_comma (noSeparator_of_commasInside slot.noOuterComma) (level_of_closes slot.balanced) rest

/-- Slots, of which the last one is not blank, are the arguments of the list that is made of them. -/
theorem split_slots_intercalate {front : List Char} (blank : Blank front)
    (slots : ∀ text ∈ texts, Slot text)
    (given : ∀ last, texts.getLast? = some last → ¬ Blank last) :
    split (front ++ [','].intercalate texts) = texts.map trim := by
  induction texts generalizing front with
  | nil => simpa using split_blank blank
  | cons text rest ih =>
    obtain ⟨slot, others⟩ := List.forall_mem_cons.mp slots
    have opened : Slot (front ++ text) := blank.plain.slot.append slot
    cases rest with
    | nil =>
      have kept : ¬ Blank (front ++ text) := fun blanks => given text rfl blanks.behind
      simpa [trim_blank_append blank] using split_slot opened kept
    | cons next rest =>
      have behind := ih Blank.nil others (by simpa using given)
      rw [List.nil_append] at behind
      have cut := split_more opened ([','].intercalate (next :: rest))
      rw [behind, trim_blank_append blank] at cut
      simpa using cut

/-- Balanced text that is not blank has an argument. -/
theorem split_ne_nil (balanced : Balanced text) (given : ¬ Blank text) :
    split text ≠ [] := by
  rcases balanced.outer_comma with inside | ⟨slot, rest, rfl, closes, inside, -⟩
  · simp [split_slot ⟨balanced, inside⟩ given]
  · simp [split_more ⟨closes, inside⟩]

/-- The search for the first separating comma, which finds none in some texts. -/
def behindComma? (depth : Int) : List Char → Option (List Char)
  | [] => none
  | c :: rest => if c = ',' ∧ depth = 0 then some rest else behindComma? (deepen depth c) rest

/-- Where the search finds no comma, the empty text is taken for what is behind it. -/
theorem afterFirstComma_eq (depth : Int) (text : List Char) :
    afterFirstComma depth text = (behindComma? depth text).getD [] := by
  induction text generalizing depth with
  | nil => rfl
  | cons c text ih =>
    unfold afterFirstComma behindComma?
    split
    · rfl
    · exact ih _

theorem behindComma?_append (uncut : NoSeparator depth front) (rest : List Char) :
    behindComma? depth (front ++ rest) = behindComma? (level depth front) rest := by
  induction front generalizing depth with
  | nil => simp
  | cons c front ih =>
    obtain ⟨here, behind⟩ := noSeparator_cons.mp uncut
    have within : ¬ (c = ',' ∧ depth = 0) := fun ⟨comma, bottom⟩ => here comma bottom
    simp only [List.cons_append, behindComma?, within, ↓reduceIte, ih behind, level_cons]

/-- The search stops at the comma that separates first. -/
theorem behindComma?_comma (uncut : NoSeparator depth front) (bottom : level depth front = 0)
    (rest : List Char) : behindComma? depth (front ++ ',' :: rest) = some rest := by
  rw [behindComma?_append uncut, bottom]
  simp [behindComma?]

theorem afterFirstComma_slot (closes : Closes depth slot) (inside : CommasInside depth slot)
    (rest : List Char) : afterFirstComma (depth : Int) (slot ++ ',' :: rest) = rest := by
  rw [afterFirstComma_eq,
    behindComma?_comma (noSeparator_of_commasInside inside) (level_of_closes closes)]
  rfl

end Arguments

namespace Expression

private theorem enclosed_open (stepped : openAfter depth c = some next) (text : List Char) :
    enclosed? depth (c :: text) = (enclosed? next text).map (c :: ·) := by
  unfold openAfter at stepped
  by_cases opening : c = '('
  · simp only [opening, ↓reduceIte, Option.some.injEq] at stepped
    simp [enclosed?, opening, stepped]
  · by_cases closing : c = ')'
    · cases depth with
      | zero => simp [closing] at stepped
      | succ depth =>
        simp [closing] at stepped
        simp [enclosed?, closing, stepped]
    · simp [opening, closing] at stepped
      simp [enclosed?, opening, closing, stepped]

private theorem enclosed_bottom (stepped : openAfter depth c = none) :
    c = ')' ∧ depth = 0 := by
  unfold openAfter at stepped
  split at stepped
  · cases stepped
  · split at stepped
    · rename_i closing
      split at stepped
      · rename_i bottom
        exact ⟨closing, bottom⟩
      · cases stepped
    · cases stepped

/-- The parenthesis that closes a call is the last character exactly if all between is closed. -/
theorem enclosed?_eq_some {depth : Nat} {text inner : List Char} :
    enclosed? depth text = some inner ↔ text = inner ++ [')'] ∧ Closes depth inner := by
  induction text generalizing depth inner with
  | nil => simp [enclosed?]
  | cons c text ih =>
    cases stepped : openAfter depth c with
    | none =>
      obtain ⟨rfl, rfl⟩ := enclosed_bottom stepped
      cases inner with
      | nil => cases text <;> simp [enclosed?, closes_nil]
      | cons d inner =>
        have stuck : ¬ Closes 0 (')' :: inner) := fun closes => by
          obtain ⟨next, taken, -⟩ := closes_cons.mp closes
          rw [stepped] at taken
          cases taken
        cases text <;> simp [enclosed?]; rintro rfl; simp [stuck]
    | some next =>
      rw [enclosed_open stepped]
      cases inner with
      | nil =>
        simp only [Option.map_eq_some_iff, List.nil_append, List.cons.injEq]
        constructor
        · rintro ⟨_, _, impossible⟩
          cases impossible
        · rintro ⟨⟨rfl, rfl⟩, closes⟩
          obtain rfl := closes_nil.mp closes
          cases stepped
      | cons d inner =>
        simp only [Option.map_eq_some_iff, List.cons.injEq, List.cons_append, ih, closes_cons]
        constructor
        · rintro ⟨_, ⟨rfl, closes⟩, rfl, rfl⟩
          exact ⟨⟨rfl, rfl⟩, next, stepped, closes⟩
        · rintro ⟨⟨rfl, rfl⟩, taken, same, closes⟩
          rw [stepped] at same
          cases same
          exact ⟨inner, ⟨rfl, closes⟩, rfl, rfl⟩

private theorem nameChar_range (named : isNameChar c = true) :
    48 ≤ c.toNat ∧ c.toNat ≤ 57 ∨ 65 ≤ c.toNat ∧ c.toNat ≤ 90 ∨ c.toNat = 95 ∨
      97 ≤ c.toNat ∧ c.toNat ≤ 122 := by
  have letter : c.isAlpha = (c.isUpper || c.isLower) := rfl
  have upper : c.isUpper = decide (c.val ≥ 'A'.val ∧ c.val ≤ 'Z'.val) := rfl
  have lower : c.isLower = (c.val ≥ 'a'.val && c.val ≤ 'z'.val) := rfl
  simp only [isNameChar, Char.isAlphanum, letter, upper, lower, Char.isDigit, Bool.or_eq_true,
    Bool.and_eq_true, decide_eq_true_eq, beq_iff_eq, ge_iff_le, UInt32.le_iff_toNat_le,
    Char.toNat_val, Char.reduceToNat] at named
  rcases named with ((upper | lower) | digit) | rfl
  · omega
  · omega
  · omega
  · decide

/-- The characters of names are not blank, and none of them matters to a scanner. -/
theorem nameChar_solid (named : isNameChar c = true) :
    isBlank c = false ∧ c ≠ '(' ∧ c ≠ ')' ∧ c ≠ ',' := by
  have range := nameChar_range named
  refine ⟨?_, ?_, ?_, ?_⟩
  · simp only [isBlank, Bool.or_eq_false_iff, Bool.and_eq_false_iff, decide_eq_false_iff_not,
      beq_eq_false_iff_ne]
    omega
  all_goals
    rintro rfl
    revert range
    decide

theorem isName_chars (named : isName name = true) : ∀ c ∈ name, isNameChar c = true := by
  cases name with
  | nil => simp [isName] at named
  | cons c rest =>
    simp only [isName, Bool.and_eq_true, List.all_eq_true] at named
    intro d member
    rcases List.mem_cons.mp member with rfl | member
    · have start := named.1
      simp only [isNameStart, Bool.or_eq_true] at start
      simp only [isNameChar, Char.isAlphanum, Bool.or_eq_true]
      exact start.imp .inl id
    · exact named.2 d member

theorem isName_plain (named : isName name = true) : Plain name :=
  fun c member => (nameChar_solid (isName_chars named c member)).2

theorem trim_name (named : isName name = true) : trim name = name := by
  have solid := fun c member => (nameChar_solid (isName_chars named c member)).1
  have kept : ∀ text : List Char, (∀ c ∈ text, isBlank c = false) → trimFront text = text := by
    rintro (_ | ⟨c, text⟩) solid
    · rfl
    · simp [trimFront, solid c (by simp)]
  rw [trim, kept name solid, kept name.reverse (by simpa using solid), List.reverse_reverse]

/-- The text of a call: its name, blanks at will, and its arguments in parentheses. -/
def callText (name gap arguments : List Char) : List Char :=
  name ++ gap ++ '(' :: arguments ++ [')']

private theorem callText_front (name gap arguments : List Char) :
    callText name gap arguments = (name ++ gap) ++ '(' :: (arguments ++ [')']) := by
  simp [callText]

theorem splitCall?_callText (named : isName name = true) (blank : Blank gap)
    (inner : Balanced arguments) :
    splitCall? (callText name gap arguments) = some (name, arguments) := by
  have front : ∀ c ∈ name ++ gap, decide (c ≠ '(') = true := by
    intro c member
    rcases List.mem_append.mp member with member | member
    · simpa using (isName_plain named c member).1
    · simpa using (blank.plain c member).1
  have bare : trim (name ++ gap) = name := by
    have padded := trim_padded Blank.nil blank name
    rw [List.nil_append] at padded
    rw [padded, trim_name named]
  have closed : enclosed? 0 (arguments ++ [')']) = some arguments :=
    enclosed?_eq_some.mpr ⟨rfl, inner⟩
  rw [callText_front, splitCall?, List.takeWhile_append_of_pos front,
    List.dropWhile_append_of_pos front]
  simp [bare, named, closed]

theorem opening_of_dropWhile {text : List Char}
    (behind : text.dropWhile (· ≠ '(') = c :: rest) : c = '(' := by
  have first := List.head?_dropWhile_not (fun c : Char => decide (c ≠ '(')) text
  rw [behind] at first
  simpa using first

/-- What is taken for a call is the text of one, up to blanks in front. -/
theorem splitCall?_eq_some (found : splitCall? text = some (name, arguments)) :
    isName name = true ∧ Balanced arguments ∧ ∃ before gap, Blank before ∧ Blank gap ∧
      text = before ++ callText name gap arguments := by
  unfold splitCall? at found
  cases behind : text.dropWhile (fun c => decide (c ≠ '(')) with
  | nil =>
    rw [behind] at found
    cases found
  | cons c rest =>
    have opening : c = '(' := opening_of_dropWhile behind
    simp only [behind, Option.ite_none_right_eq_some, Option.map_eq_some_iff,
      Prod.mk.injEq] at found
    obtain ⟨named, inner, closed, rfl, rfl⟩ := found
    obtain ⟨rfl, balanced⟩ := enclosed?_eq_some.mp closed
    obtain ⟨before, gap, blankBefore, blankGap, split⟩ :=
      trim_split (text.takeWhile (fun c => decide (c ≠ '(')))
    refine ⟨named, balanced, before, gap, blankBefore, blankGap, ?_⟩
    have whole := List.takeWhile_append_dropWhile (p := fun c => decide (c ≠ '(')) (l := text)
    rw [behind, opening] at whole
    rw [callText_front, ← List.append_assoc, ← List.append_assoc, ← split]
    exact whole.symm

theorem callText_slot (named : isName name = true) (blank : Blank gap)
    (inner : Balanced arguments) : Slot (callText name gap arguments) := by
  obtain ⟨balanced, inside⟩ := balanced_parenthesised inner
  have closed : Slot ('(' :: (arguments ++ [')'])) := ⟨balanced, inside⟩
  rw [callText_front]
  exact ((isName_plain named).slot.append blank.plain.slot).append closed

theorem trim_callText (named : isName name = true) (gap arguments : List Char) :
    trim (callText name gap arguments) = callText name gap arguments := by
  cases name with
  | nil => simp [isName] at named
  | cons c name =>
    have first := (nameChar_solid (isName_chars named c (by simp))).1
    have last : isBlank ')' = false := by decide
    simpa [callText] using trim_solid first last (name ++ gap ++ '(' :: arguments)

/-- A call is not taken for a name. -/
theorem isName_callText (name gap arguments : List Char) :
    isName (callText name gap arguments) = false := by
  rw [Bool.eq_false_iff]
  intro named
  exact (isName_plain named '(' (by simp [callText])).1 rfl

end Expression
end ThreatAnalysis
