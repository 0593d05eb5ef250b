import ThreatAnalysis.Text.Blank

/-!
Argument lists. Commas separate arguments only where no parenthesis is open, so the text of an
argument list is cut into slots at the commas of depth zero. Depth counts every opening
parenthesis up and every closing one down and may fall below zero, where commas do not separate
either. The last slot does not count as an argument when it is blank, so a list may end in one
extra comma, and the empty text has no argument at all.
-/
namespace ThreatAnalysis.Arguments
open Text

/-- The depth after one more character. -/
def deepen (depth : Int) (c : Char) : Int :=
  if c = '(' then depth + 1 else if c = ')' then depth - 1 else depth

/-- The slots of a text that starts at the given depth: the first one, and those behind each
separating comma. -/
def slots (depth : Int) : List Char → List Char × List (List Char)
  | [] => ([], [])
  | c :: rest =>
    if c = ',' ∧ depth = 0 then
      let (first, later) := slots depth rest
      ([], first :: later)
    else
      let (first, later) := slots (deepen depth c) rest
      (c :: first, later)

/-- Removes the last slot if it is empty. -/
def dropEmptyLast : List (List Char) → List (List Char)
  | [] => []
  | [last] => if last.isEmpty then [] else [last]
  | slot :: next :: rest => slot :: dropEmptyLast (next :: rest)

/-- The arguments of an argument list, trimmed. -/
def split (text : List Char) : List (List Char) :=
  let (first, later) := slots 0 text
  dropEmptyLast ((first :: later).map trim)

/-- The text behind the first separating comma, empty if there is none. -/
def afterFirstComma (depth : Int) : List Char → List Char
  | [] => []
  | c :: rest => if c = ',' ∧ depth = 0 then rest else afterFirstComma (deepen depth c) rest

end ThreatAnalysis.Arguments
