import ThreatAnalysis.Text.Blank
import ThreatAnalysis.Text.Lowercase

/-!
Severities: the four levels by which findings are ranked. A text names a level in any letter case
and with blanks around it; a text that names none ranks behind all levels.
-/
namespace ThreatAnalysis

/-- The levels of severity, the most severe first. -/
inductive Severity where
  | critical
  | high
  | medium
  | low
deriving DecidableEq, Repr

namespace Severity

/-- The name of a level. -/
def name : Severity → String
  | .critical => "Critical"
  | .high => "High"
  | .medium => "Medium"
  | .low => "Low"

/-- Every level, in order. -/
def all : List Severity := [.critical, .high, .medium, .low]

/-- The level that a text names. -/
def ofText? (text : String) : Option Severity :=
  let word := Text.lower (Text.trim text.toList)
  all.find? fun level => Text.lower level.name.toList == word

/-- The place of a level. -/
def place : Severity → Nat
  | .critical => 0
  | .high => 1
  | .medium => 2
  | .low => 3

/-- The place of a text in the order of severity. -/
def rank (text : String) : Nat :=
  match ofText? text with
  | some level => level.place
  | none => all.length

/-- Sorts by the severity of a text that goes with each item, the most severe first, and leaves
items of equal rank in their order. -/
def sortBy {α : Type} (severity : α → String) (items : List α) : List α :=
  items.mergeSort fun x y => rank (severity x) ≤ rank (severity y)

end Severity
end ThreatAnalysis
