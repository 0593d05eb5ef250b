import ThreatAnalysis.Json.Value
import ThreatAnalysis.Record.Issue

/-!
Readers for the values of fields. A flag is true, false or null; besides the values themselves it
may be given as the number one or zero or as one of twelve words, in any letter case of ASCII and
without blanks around it.
-/
namespace ThreatAnalysis.Readers

/-- A string. -/
def text : Json → Reading String
  | .string value => .ok value
  | _ => .error [.here .notString]

/-- A string or null. -/
def nullableText : Json → Reading (Option String)
  | .null => .ok none
  | value => (text value).map some

/-- Any value. -/
def any (value : Json) : Reading Json := .ok value

/-- The words for true and for false. -/
def trueWords : List String := ["true", "t", "yes", "y", "on", "1"]

def falseWords : List String := ["false", "f", "no", "n", "off", "0"]

/-- The flag of a word. -/
def flagWord? (word : String) : Option Bool :=
  let lowered := String.ofList (word.toList.map Char.toLower)
  if trueWords.contains lowered then some true
  else if falseWords.contains lowered then some false
  else none

/-- The flag of an integer. -/
def flagNumber? (n : Int) : Option Bool :=
  if n = 0 then some false else if n = 1 then some true else none

/-- The flag that was read, or the issue of a value that might have been one. -/
def flagOr (flag : Option Bool) : Reading (Option Bool) :=
  match flag with
  | some flag => .ok (some flag)
  | none => .error [.here .unknownFlag]

/-- The bound of the signed words of 64 bits. -/
def wordBound : Int := (Nat.pow 2 63 : Nat)

/-- A flag or null. Numbers count as possible flags if they are whole and fit into a signed word
of 64 bits; of the floating-point numbers those strictly between its bounds do. -/
def flag : Json → Reading (Option Bool)
  | .null => .ok none
  | .bool value => .ok (some value)
  | .string word => flagOr (flagWord? word)
  | .int n =>
    if -wordBound ≤ n ∧ n < wordBound then flagOr (flagNumber? n) else .error [.here .notFlag]
  | .double x =>
    match x.toInt? with
    | some n =>
      if -wordBound < n ∧ n < wordBound then flagOr (flagNumber? n) else .error [.here .notFlag]
    | none => .error [.here .notFlag]
  | _ => .error [.here .notFlag]

/-- Reads the items of an array from a position on, and collects the issues of all of them. -/
def items {α : Type} (read : Json → Reading α) : (position : Nat) → List Json → Reading (List α)
  | _, [] => .ok []
  | position, item :: rest =>
    match (read item).under (.index position), items read (position + 1) rest with
    | .ok value, .ok values => .ok (value :: values)
    | .ok _, .error found => .error found
    | .error found, later => .error (found ++ later.issues)

/-- An array. -/
def list {α : Type} (read : Json → Reading α) : Json → Reading (List α)
  | .array values => items read 0 values
  | _ => .error [.here .notList]

/-- An array or null, which stands for the empty one. -/
def nullableList {α : Type} (read : Json → Reading α) : Json → Reading (List α)
  | .null => .ok []
  | value => list read value

end ThreatAnalysis.Readers
