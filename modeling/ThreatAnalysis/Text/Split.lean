/-!
Splitting a list, such as a text, at each occurrence of an element or of one of several elements.
There is always one part more than there are occurrences, and parts may be empty.
-/
namespace ThreatAnalysis.Text

variable {α : Type}

/-- The part in front of the first mark, and the parts behind it. -/
def splitFirst (isMark : α → Bool) : List α → List α × List (List α)
  | [] => ([], [])
  | c :: rest =>
    let (first, later) := splitFirst isMark rest
    if isMark c then ([], first :: later) else (c :: first, later)

/-- The parts of a list between its marks. -/
def splitWhere (isMark : α → Bool) (list : List α) : List (List α) :=
  let (first, later) := splitFirst isMark list
  first :: later

/-- The parts of a list between the occurrences of an element. -/
def split [DecidableEq α] (mark : α) (list : List α) : List (List α) :=
  splitWhere (· = mark) list

end ThreatAnalysis.Text
