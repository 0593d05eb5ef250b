/-!
Kinds of values. Of a literal value only its kind is kept: as much as decides what it can be put
together with. Numbers may have a sign, and an imaginary one is added to a real one; strings that
follow each other are one string; and what can change is neither a member of a set nor a key.
-/
namespace ThreatAnalysis.Literal

/-- What kind of value an expression has. -/
inductive Kind where
  /-- An integer or a floating number. -/
  | real
  /-- An integer beyond all floating numbers. -/
  | large
  | imaginary
  /-- A real number with a sign. -/
  | signed
  | string
  | bytes
  /-- Two brackets with nothing in between. -/
  | nothing
  /-- Another value that can be a member of a set, or a key. -/
  | fixed
  /-- A set or a dictionary, or a tuple with one. -/
  | changing
  /-- The name of sets, which is no value unless it is called. -/
  | setName
deriving DecidableEq, Repr

namespace Kind

/-- Whether an expression of a kind is a value. -/
def isValue (kind : Kind) : Bool :=
  kind != .setName

/-- Whether a value of a kind can be a member of a set, or a key. -/
def isKey (kind : Kind) : Bool :=
  kind.isValue && kind != .changing

/-- The kind of an expression in brackets of its own. -/
def bracketed : Kind → Kind
  | .string => .fixed
  | .bytes => .fixed
  | .nothing => .fixed
  | kind => kind

/-- The kind of a value behind a sign. -/
def signed? : Kind → Option Kind
  | .real => some .signed
  | .large => some .fixed
  | .imaginary => some .fixed
  | _ => none

/-- The kind of a sum: only an imaginary number is added, to a real one that is a floating number or
becomes one. -/
def sum? : Kind → Kind → Option Kind
  | .real, .imaginary => some .fixed
  | .signed, .imaginary => some .fixed
  | _, _ => none

/-- The kind of what stands side by side: a single value, a call of the name of sets, or strings. -/
def sideBySide? : List Kind → Option Kind
  | [kind] => some kind
  | [.setName, .nothing] => some .changing
  | .string :: kinds => if kinds.all (· = .string) then some .string else none
  | .bytes :: kinds => if kinds.all (· = .bytes) then some .bytes else none
  | _ => none

/-- The kind of a tuple of values. -/
def tuple? (kinds : List Kind) : Option Kind :=
  if kinds.all isValue then some (if kinds.contains .changing then .changing else .fixed) else none

end Kind
end ThreatAnalysis.Literal
