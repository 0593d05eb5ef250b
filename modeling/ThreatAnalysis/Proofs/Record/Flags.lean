import ThreatAnalysis.Record.Readers

/-! Which values stand for a flag: null, the two truth values, the numbers one and zero, whole or
with a fraction of nothing, and twelve words in any letter case of ASCII. -/
namespace ThreatAnalysis.Readers

/-- The words for a flag. -/
def words (flag : Bool) : List String := if flag then trueWords else falseWords

/-- The flag that a value stands for. -/
inductive StandsFor : Json → Option Bool → Prop where
  | null : StandsFor .null none
  | bool (flag : Bool) : StandsFor (.bool flag) (some flag)
  | int (flag : Bool) : StandsFor (.int flag.toInt) (some flag)
  | double (x : Double) (flag : Bool) (whole : x.toInt? = some flag.toInt) :
      StandsFor (.double x) (some flag)
  | word (word : String) (flag : Bool)
      (listed : String.ofList (word.toList.map Char.toLower) ∈ words flag) :
      StandsFor (.string word) (some flag)

theorem flagOr_eq_ok_iff {found held : Option Bool} :
    flagOr found = .ok held ↔ ∃ flag, found = some flag ∧ held = some flag := by
  unfold flagOr
  cases found with
  | none => simp
  | some flag => simp [eq_comm]

theorem flagNumber?_eq_some_iff {n : Int} {flag : Bool} :
    flagNumber? n = some flag ↔ n = flag.toInt := by
  unfold flagNumber?
  cases flag <;> by_cases zero : n = 0 <;> by_cases one : n = 1 <;> simp_all

/-- No word stands for both flags, so that it does not matter which are looked up first. -/
theorem flagWord?_eq_some_iff {word : String} {flag : Bool} :
    flagWord? word = some flag ↔
      String.ofList (word.toList.map Char.toLower) ∈ words flag := by
  have apart : ∀ listed ∈ falseWords, listed ∉ trueWords := by decide
  unfold flagWord? words
  simp only [List.contains_iff_mem]
  generalize String.ofList (word.toList.map Char.toLower) = lowered
  by_cases yes : lowered ∈ trueWords
  · have unlisted : lowered ∉ falseWords := fun no => apart lowered no yes
    cases flag <;> simp [yes, unlisted]
  · by_cases no : lowered ∈ falseWords <;> cases flag <;> simp [yes, no]

/-- The two numbers that stand for a flag are words of 64 bits. -/
theorem toInt_bounds (flag : Bool) : -wordBound < flag.toInt ∧ flag.toInt < wordBound := by
  cases flag <;> decide

/-- A value is read as the flag it stands for, and refused if it stands for none. -/
theorem flag_eq_ok_iff {document : Json} {held : Option Bool} :
    flag document = .ok held ↔ StandsFor document held := by
  constructor
  · intro read
    cases document with
    | null =>
      cases read
      exact .null
    | bool value =>
      cases read
      exact .bool value
    | string word =>
      obtain ⟨flag, found, rfl⟩ := flagOr_eq_ok_iff.mp read
      exact .word word flag (flagWord?_eq_some_iff.mp found)
    | int n =>
      simp only [flag] at read
      split at read
      · obtain ⟨flag, found, rfl⟩ := flagOr_eq_ok_iff.mp read
        rw [flagNumber?_eq_some_iff] at found
        subst found
        exact .int flag
      · cases read
    | double x =>
      simp only [flag] at read
      split at read
      · rename_i n whole
        split at read
        · obtain ⟨flag, found, rfl⟩ := flagOr_eq_ok_iff.mp read
          rw [flagNumber?_eq_some_iff] at found
          subst found
          exact .double x flag whole
        · cases read
      · cases read
    | array _ => cases read
    | object _ => cases read
  · intro stands
    cases stands with
    | null => rfl
    | bool value => rfl
    | int flag =>
      have bounds := toInt_bounds flag
      simp only [Readers.flag, if_pos (And.intro (Int.le_of_lt bounds.1) bounds.2)]
      exact flagOr_eq_ok_iff.mpr ⟨flag, flagNumber?_eq_some_iff.mpr rfl, rfl⟩
    | double x flag whole =>
      simp only [Readers.flag, whole, if_pos (toInt_bounds flag)]
      exact flagOr_eq_ok_iff.mpr ⟨flag, flagNumber?_eq_some_iff.mpr rfl, rfl⟩
    | word word flag listed =>
      exact flagOr_eq_ok_iff.mpr ⟨flag, flagWord?_eq_some_iff.mpr listed, rfl⟩

end ThreatAnalysis.Readers
