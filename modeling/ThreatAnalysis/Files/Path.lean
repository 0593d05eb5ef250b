import ThreatAnalysis.Text.Split

/-!
Paths: where a path starts, and the names that lead on from there. Reading a path drops empty
segments and single dots and keeps double dots, so that two spellings that differ only in those
are one path. A path that starts with exactly two slashes is told apart from one with a single
slash.
-/
namespace ThreatAnalysis

/-- Where a path starts. -/
inductive Anchor where
  /-- In the working directory. -/
  | here
  | root
  /-- At the root, written with two slashes. -/
  | doubleRoot
  /-- In the directory of the rules that come with the program. -/
  | bundled
deriving DecidableEq, Repr

/-- A path. -/
structure Path where
  anchor : Anchor
  parts : List String
deriving DecidableEq, Repr

namespace Path

/-- The directory of the rules that come with the program. -/
def bundled : Path := ⟨.bundled, []⟩

/-- The start of a path by the slashes in front of its text. -/
def anchorOf : List Char → Anchor
  | '/' :: '/' :: '/' :: _ => .root
  | '/' :: '/' :: _ => .doubleRoot
  | '/' :: _ => .root
  | _ => .here

/-- The segments of a text that has to be followed segment by segment: an empty segment stays
where it is and so does a single dot, but both can only be taken in a directory. -/
def steps (text : String) : List String :=
  (Text.split '/' text.toList).map fun segment =>
    if segment.isEmpty then "." else String.ofList segment

/-- Reads a path. -/
def ofString (text : String) : Path :=
  ⟨anchorOf text.toList, (steps text).filter (· ≠ ".")⟩

/-- The path written out. -/
def toString (path : Path) : String :=
  let names := "/".intercalate path.parts
  match path.anchor, path.parts with
  | .here, [] => "."
  | .here, _ => names
  | .root, _ => "/" ++ names
  | .doubleRoot, _ => "//" ++ names
  | .bundled, [] => "<bundled>"
  | .bundled, _ => "<bundled>/" ++ names

instance : ToString Path := ⟨toString⟩

/-- The path that leads on from one path along another, which replaces it unless it starts in the
working directory. -/
def join (path other : Path) : Path :=
  match other.anchor with
  | .here => { path with parts := path.parts ++ other.parts }
  | _ => other

/-- The entry of a directory. -/
def child (path : Path) (name : String) : Path :=
  { path with parts := path.parts ++ [name] }

/-- The last name, empty if there is none. -/
def name (path : Path) : String :=
  path.parts.getLast?.getD ""

/-- A name cut in front of its last dot, if something stands before the dot and behind it. -/
def cut? (name : List Char) : Option (List Char × List Char) :=
  let behind := name.reverse.takeWhile (· ≠ '.')
  match name.reverse.dropWhile (· ≠ '.') with
  | [] => none
  | dot :: before =>
    if before.isEmpty || behind.isEmpty then none else some (before.reverse, dot :: behind.reverse)

/-- The suffix of a name from its last dot on, empty if it has none. -/
def suffix (name : String) : String :=
  match cut? name.toList with
  | some (_, suffix) => String.ofList suffix
  | none => ""

/-- A name without its suffix. -/
def stem (name : String) : String :=
  match cut? name.toList with
  | some (stem, _) => String.ofList stem
  | none => name

end Path
end ThreatAnalysis
