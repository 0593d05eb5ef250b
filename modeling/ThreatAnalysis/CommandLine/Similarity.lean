/-!
Similarity of names: how many characters of two names agree. The longest run that both names share
counts, the first one if there are several, and so do the runs that are found in the same way in
front of it and behind it. Two names are similar if at least six of ten characters agree.
-/
namespace ThreatAnalysis.Similarity

/-- A run that two names share: where it starts in each of them, and how long it is. -/
structure Run where
  left : Nat
  right : Nat
  length : Nat
deriving DecidableEq, Repr

/-- How far two texts agree from their start. -/
def commonLength : List Char → List Char → Nat
  | c :: a, d :: b => if c = d then commonLength a b + 1 else 0
  | _, _ => 0

/-- The shared run at each pair of starts, by the first name and then by the second. -/
def runs (a b : List Char) : List Run :=
  (List.range a.length).flatMap fun (left : Nat) =>
    (List.range b.length).map fun (right : Nat) =>
      ⟨left, right, commonLength (a.drop left) (b.drop right)⟩

/-- The longest shared run, the first one if there are several. -/
def longest (a b : List Char) : Run :=
  (runs a b).foldl (fun best run => if best.length < run.length then run else best) ⟨0, 0, 0⟩

/-- The number of characters that agree. -/
def agreement (a b : List Char) : Nat :=
  let run := longest a b
  if _fits : 0 < run.length ∧ run.left + run.length ≤ a.length then
    agreement (a.take run.left) (b.take run.right) + run.length +
      agreement (a.drop (run.left + run.length)) (b.drop (run.right + run.length))
  else 0
termination_by a.length
decreasing_by
  all_goals
    simp only [run] at _fits
    simp only [List.length_take, List.length_drop]
    omega

/-- A name, the characters of it that agree with a word, and the characters there are in both. -/
structure Match where
  name : String
  agreement : Nat
  total : Nat
deriving DecidableEq, Repr

/-- The match of a name with a word. -/
def matchOf (word name : String) : Match where
  name := name
  agreement := agreement name.toList word.toList
  total := name.length + word.length

/-- Whether the name is similar to the word. -/
def Match.isSimilar (candidate : Match) : Bool :=
  6 * candidate.total ≤ 10 * (2 * candidate.agreement)

/-- Whether a match comes before another: more of it agrees or, if no more does, its name comes
later. -/
def Match.isBefore (candidate other : Match) : Bool :=
  let share := candidate.agreement * other.total
  let otherShare := other.agreement * candidate.total
  otherShare < share || (otherShare == share && other.name ≤ candidate.name)

/-- How many similar names are named at most. -/
def limit : Nat := 3

/-- The names that are most similar to a word, in ascending order. -/
def closest (names : List String) (word : String) : List String :=
  let similar := (names.map (matchOf word)).filter Match.isSimilar
  let best := (similar.mergeSort Match.isBefore).take limit
  (best.map Match.name).mergeSort fun name other => name ≤ other

end ThreatAnalysis.Similarity
