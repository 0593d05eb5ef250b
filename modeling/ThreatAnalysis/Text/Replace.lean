/-!
Replacing parts of a text from left to right. What is put in place of a part is not looked at again.
-/
namespace ThreatAnalysis.Text

/-- Replaces the parts of a text behind the first `skip` characters, which are left out. A part is
given by what stands in front of a text: the number of its characters behind the first one, and what
is put in its place. -/
def replaceBehind (part? : List Char → Option (Nat × List Char)) :
    (skip : Nat) → List Char → List Char
  | _, [] => []
  | skip + 1, _ :: rest => replaceBehind part? skip rest
  | 0, c :: rest =>
    match part? (c :: rest) with
    | none => c :: replaceBehind part? 0 rest
    | some (behind, replacement) => replacement ++ replaceBehind part? behind rest

/-- Replaces the parts of a text. -/
def replaceParts (part? : List Char → Option (Nat × List Char)) (text : List Char) : List Char :=
  replaceBehind part? 0 text

end ThreatAnalysis.Text
