import ThreatAnalysis.Text.CaseTable

/-!
Lower case. Each capital letter has a small letter; the capital I with dot above has two characters
in its place. A capital sigma becomes the small sigma for the end of a word if a letter with case
stands in front of it and none behind it, where characters that do not count are passed over.
-/
namespace ThreatAnalysis.Text

/-- The lower case form of a character by itself. -/
def lowerChar (c : Char) : List Char :=
  if c.toNat < 0x80 then [c.toLower]
  else if c = '\u0130' then ['i', '\u0307']
  else [(capitalRuns.findSome? (·.lower? c)).getD c]

/-- Whether the first character that counts has case. -/
def startsWithCase (text : List Char) : Bool :=
  (text.dropWhile (isInRanges caseIgnorableRanges)).head?.any (isInRanges casedRanges)

/-- The lower case form of a text behind characters that are given with the latest one first. -/
def lowerBehind (before : List Char) : List Char → List Char
  | [] => []
  | c :: rest =>
    let small :=
      if c = '\u03A3' && startsWithCase before && !startsWithCase rest then ['\u03C2']
      else lowerChar c
    small ++ lowerBehind (c :: before) rest

/-- The lower case form of a text. -/
def lower (text : List Char) : List Char :=
  lowerBehind [] text

/-- Whether `word` occurs in `text`. -/
def contains (word : List Char) : List Char → Bool
  | [] => word.isEmpty
  | c :: rest => word.isPrefixOf (c :: rest) || contains word rest

/-- Whether `word`, itself in lower case, occurs in the lowered text. -/
def mentions (word text : String) : Bool :=
  contains word.toList (lower text.toList)

end ThreatAnalysis.Text
