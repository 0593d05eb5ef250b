import ThreatAnalysis.Number.Double

/-!
Documents: values with unbounded integers apart from floating-point numbers, and objects that
keep their keys in the order written. A key occurs once in an object: writing it again replaces
the value where the key already stands.
-/
namespace ThreatAnalysis

/-- A document value. -/
inductive Json where
  | null
  | bool (value : Bool)
  | int (value : Int)
  | double (value : Double)
  | string (value : String)
  | array (items : List Json)
  | object (fields : List (String × Json))
deriving Inhabited, Repr

/-- The members of an object, in order. -/
abbrev Fields := List (String × Json)

namespace Fields

/-- The value under a key. -/
def get? (fields : Fields) (key : String) : Option Json :=
  fields.lookup key

/-- Puts a value under a key: in place if the key is there, at the end otherwise. -/
def put (fields : Fields) (key : String) (value : Json) : Fields :=
  match fields with
  | [] => [(key, value)]
  | (k, v) :: rest => if k = key then (k, value) :: rest else (k, v) :: put rest key value

end Fields

namespace Json

/-- The member of an object under a key; other values have none. -/
def get? : Json → String → Option Json
  | .object fields, key => Fields.get? fields key
  | _, _ => none

/-- Whether a value counts as absent where a choice falls through to the next one: null, false,
zero and everything empty. -/
def isFalsy : Json → Bool
  | .null => true
  | .bool value => !value
  | .int value => value = 0
  | .double value => value.isZero
  | .string value => value.isEmpty
  | .array items => items.isEmpty
  | .object fields => fields.isEmpty

mutual

/-- How deep containers are nested in a value. -/
def depth : Json → Nat
  | .array items => depthItems items + 1
  | .object fields => depthFields fields + 1
  | _ => 0

/-- How deep containers are nested in the items of an array. -/
def depthItems : List Json → Nat
  | [] => 0
  | item :: rest => max (depth item) (depthItems rest)

/-- How deep containers are nested in the members of an object. -/
def depthFields : List (String × Json) → Nat
  | [] => 0
  | (_, value) :: rest => max (depth value) (depthFields rest)

end

mutual

/-- Equality of documents: numbers are equal by value, so that not a number, alone of all values,
differs from itself, and the order of the keys of an object does not count. -/
def equal : Json → Json → Bool
  | .null, .null => true
  | .bool x, .bool y => x == y
  | .int x, .int y => x == y
  | .double x, .double y => x.equal y
  | .string x, .string y => x == y
  | .array xs, .array ys => equalItems xs ys
  | .object xs, .object ys => xs.length == ys.length && equalFields xs ys
  | _, _ => false

/-- Equality of arrays, item by item. -/
def equalItems : List Json → List Json → Bool
  | [], [] => true
  | x :: xs, y :: ys => equal x y && equalItems xs ys
  | _, _ => false

/-- Whether each member has an equal one under its key. -/
def equalFields : List (String × Json) → List (String × Json) → Bool
  | [], _ => true
  | (key, x) :: xs, ys =>
    (match Fields.get? ys key with
      | some y => equal x y
      | none => false) && equalFields xs ys

end

end Json
end ThreatAnalysis
