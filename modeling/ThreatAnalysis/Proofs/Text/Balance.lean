import Mathlib.Data.List.Infix

/-! Parentheses in a text, and the commas that stand outside of them. Both notions are counted over
the prefixes of a text, independently of any scanner; the lemmas below say how they change when one
more character is read, which is how every scanner proceeds. -/
namespace ThreatAnalysis.Text

/-- The text closes `depth` parentheses opened before it and all that it opens itself, and at no
point more than are open there. -/
structure Closes (depth : Nat) (text : List Char) : Prop where
  total : text.count ')' = depth + text.count '('
  within : ∀ front, front <+: text → front.count ')' ≤ depth + front.count '('

/-- Parentheses balance and are never closed below zero. -/
abbrev Balanced (text : List Char) : Prop := Closes 0 text

/-- Behind `depth` parentheses opened before the text, each of its commas stands inside some. -/
def CommasInside (depth : Nat) (text : List Char) : Prop :=
  ∀ front, front ++ [','] <+: text → front.count ')' < depth + front.count '('

/-- No comma of the text stands outside parentheses. -/
abbrev NoOuterComma (text : List Char) : Prop := CommasInside 0 text

instance : Decidable (Closes depth text) :=
  decidable_of_iff (text.count ')' = depth + text.count '(' ∧
      ∀ front ∈ text.inits, front.count ')' ≤ depth + front.count '(') <| by
    simp only [List.mem_inits]
    exact ⟨fun ⟨total, within⟩ => ⟨total, within⟩, fun closes => ⟨closes.total, closes.within⟩⟩

instance : Decidable (CommasInside depth text) :=
  decidable_of_iff (∀ front ∈ text.inits, front ++ [','] <+: text →
      front.count ')' < depth + front.count '(') <| by
    simp only [List.mem_inits]
    exact ⟨fun inside front shorter => inside front ((List.prefix_append front _).trans shorter)
      shorter, fun inside front _ => inside front⟩

/-- The parentheses that are open behind one more character, unless it closes one too many. -/
def openAfter (depth : Nat) (c : Char) : Option Nat :=
  if c = '(' then some (depth + 1)
  else if c = ')' then (if depth = 0 then none else some (depth - 1))
  else some depth

theorem closes_nil : Closes depth [] ↔ depth = 0 := by
  constructor
  · intro closes
    simpa using closes.total.symm
  · rintro rfl
    exact ⟨rfl, fun front shorter => by simp [List.prefix_nil.mp shorter]⟩

private theorem count_step (stepped : openAfter depth c = some next) (text : List Char) :
    next + text.count '(' + (c :: text).count ')' =
      depth + (c :: text).count '(' + text.count ')' := by
  unfold openAfter at stepped
  by_cases opening : c = '('
  · simp only [opening, ↓reduceIte, Option.some.injEq] at stepped
    simp [opening]
    omega
  · by_cases closing : c = ')'
    · simp only [closing] at stepped
      by_cases bottom : depth = 0
      · simp [bottom] at stepped
      · simp [bottom] at stepped
        simp [closing]
        omega
    · simp [opening, closing] at stepped
      simp [opening, closing, stepped]

/-- Reading one more character leaves the rest to close what is open behind it. -/
theorem closes_cons :
    Closes depth (c :: text) ↔ ∃ next, openAfter depth c = some next ∧ Closes next text := by
  constructor
  · intro closes
    have first := closes.within [c] (by simp)
    obtain ⟨next, stepped⟩ : ∃ next, openAfter depth c = some next := by
      unfold openAfter
      split
      · exact ⟨_, rfl⟩
      · split
        · rename_i closing
          simp only [closing, List.count_singleton_self] at first
          rw [if_neg (by simp at first; omega)]
          exact ⟨_, rfl⟩
        · exact ⟨_, rfl⟩
    refine ⟨next, stepped, ?_, ?_⟩
    · have counted := count_step stepped text
      have total := closes.total
      omega
    · intro front shorter
      have counted := count_step stepped front
      have within := closes.within (c :: front) (List.prefix_cons_inj c |>.mpr shorter)
      omega
  · rintro ⟨next, stepped, closes⟩
    constructor
    · have counted := count_step stepped text
      have total := closes.total
      omega
    · intro front shorter
      cases front with
      | nil => simp
      | cons d front =>
        obtain ⟨rfl, rest⟩ := List.cons_prefix_cons.mp shorter
        have counted := count_step stepped front
        have within := closes.within front rest
        omega

/-- A comma that is read has to stand inside parentheses, and the commas of the rest stand inside
those that are open behind it. -/
theorem commasInside_cons (stepped : openAfter depth c = some next) :
    CommasInside depth (c :: text) ↔ (c = ',' → depth ≠ 0) ∧ CommasInside next text := by
  constructor
  · intro inside
    refine ⟨?_, ?_⟩
    · rintro rfl
      have first := inside [] (by simp)
      simp at first
      omega
    · intro front shorter
      have counted := count_step stepped front
      have within := inside (c :: front) (List.prefix_cons_inj c |>.mpr shorter)
      omega
  · rintro ⟨here, inside⟩ front shorter
    cases front with
    | nil =>
      obtain ⟨rfl, -⟩ := List.cons_prefix_cons.mp shorter
      have := here rfl
      simp
      omega
    | cons d front =>
      obtain ⟨rfl, rest⟩ := List.cons_prefix_cons.mp shorter
      have counted := count_step stepped front
      have within := inside front rest
      omega

theorem commasInside_nil (depth : Nat) : CommasInside depth [] := by
  intro front shorter
  simp at shorter

private theorem openAfter_add (stepped : openAfter m c = some next) (n : Nat) :
    openAfter (m + n) c = some (next + n) := by
  unfold openAfter at stepped ⊢
  split at stepped
  · cases stepped
    simp [*]
    omega
  · split at stepped
    · split at stepped
      · cases stepped
      · cases stepped
        simp [*]
        omega
    · cases stepped
      simp [*]

theorem Closes.append (first : Closes m front) (second : Closes n back) :
    Closes (m + n) (front ++ back) := by
  induction front generalizing m with
  | nil =>
    obtain rfl := closes_nil.mp first
    simpa using second
  | cons c front ih =>
    obtain ⟨next, stepped, rest⟩ := closes_cons.mp first
    exact closes_cons.mpr ⟨next + n, openAfter_add stepped n, ih rest⟩

theorem CommasInside.append (closes : Closes m front) (first : CommasInside (m + n) front)
    (second : CommasInside n back) : CommasInside (m + n) (front ++ back) := by
  induction front generalizing m with
  | nil =>
    obtain rfl := closes_nil.mp closes
    simpa using second
  | cons c front ih =>
    obtain ⟨next, stepped, rest⟩ := closes_cons.mp closes
    obtain ⟨here, inside⟩ := (commasInside_cons (openAfter_add stepped n)).mp first
    exact (commasInside_cons (openAfter_add stepped n)).mpr ⟨here, ih rest inside⟩

/-- Balanced text has all its commas inside once it stands in parentheses. -/
theorem Closes.commasInside_succ (closes : Closes depth text) : CommasInside (depth + 1) text := by
  intro front shorter
  have within := closes.within front ((List.prefix_append front [',']).trans shorter)
  omega

/-- Text of characters that are neither parentheses nor commas. -/
def Plain (text : List Char) : Prop := ∀ c ∈ text, c ≠ '(' ∧ c ≠ ')' ∧ c ≠ ','

theorem Plain.balanced (plain : Plain text) : Balanced text := by
  induction text with
  | nil => exact closes_nil.mpr rfl
  | cons c text ih =>
    obtain ⟨opening, closing, -⟩ := plain c (by simp)
    exact closes_cons.mpr ⟨0, by simp [openAfter, opening, closing],
      ih fun d member => plain d (by simp [member])⟩

theorem Plain.noOuterComma (plain : Plain text) : NoOuterComma text := by
  intro front shorter
  have member : ',' ∈ text := shorter.subset (by simp)
  exact absurd rfl (plain ',' member).2.2

/-- Balanced text in parentheses is balanced and hides its commas. -/
theorem balanced_parenthesised (inner : Balanced text) :
    Balanced ('(' :: text ++ [')']) ∧ NoOuterComma ('(' :: text ++ [')']) := by
  have closing : Closes 1 [')'] := closes_cons.mpr ⟨0, rfl, closes_nil.mpr rfl⟩
  have opened : openAfter 0 '(' = some (0 + 1) := rfl
  have behind : CommasInside 1 [')'] :=
    (commasInside_cons rfl).mpr ⟨by simp, commasInside_nil 0⟩
  exact ⟨closes_cons.mpr ⟨0 + 1, opened, inner.append closing⟩, (commasInside_cons opened).mpr
    ⟨by simp, CommasInside.append inner inner.commasInside_succ behind⟩⟩

theorem balanced_comma (first : Balanced front) (second : Balanced back) :
    Balanced (front ++ ',' :: back) := by
  have behind : Balanced (',' :: back) := closes_cons.mpr ⟨0, rfl, second⟩
  exact Closes.append first behind

/-- Balanced text either has no outer comma or is cut at the first one into balanced parts. -/
theorem Closes.outer_comma (closes : Closes depth text) :
    CommasInside depth text ∨ ∃ slot rest, text = slot ++ ',' :: rest ∧
      Closes depth slot ∧ CommasInside depth slot ∧ Balanced rest := by
  induction text generalizing depth with
  | nil => exact .inl (commasInside_nil depth)
  | cons c text ih =>
    obtain ⟨next, stepped, closesRest⟩ := closes_cons.mp closes
    by_cases outer : c = ',' ∧ depth = 0
    · obtain ⟨rfl, rfl⟩ := outer
      cases stepped
      exact .inr ⟨[], text, rfl, closes_nil.mpr rfl, commasInside_nil 0, closesRest⟩
    · have here : c = ',' → depth ≠ 0 := fun comma bottom => outer ⟨comma, bottom⟩
      rcases ih closesRest with inside | ⟨slot, rest, rfl, closesSlot, inside, balanced⟩
      · exact .inl ((commasInside_cons stepped).mpr ⟨here, inside⟩)
      · exact .inr ⟨c :: slot, rest, rfl, closes_cons.mpr ⟨next, stepped, closesSlot⟩,
          (commasInside_cons stepped).mpr ⟨here, inside⟩, balanced⟩

end ThreatAnalysis.Text
