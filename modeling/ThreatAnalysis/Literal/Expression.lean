import ThreatAnalysis.Literal.Token
import ThreatAnalysis.Text.Split

/-!
Literal expressions: values, sums of a real and an imaginary number, and tuples, sets and
dictionaries of them. The tokens are read from left to right. What stands behind each bracket that
is still open is kept, and becomes one value when the bracket is closed.
-/
namespace ThreatAnalysis.Literal

variable [Platform]

/-! What stands in brackets. -/

/-- The kind of a piece that is a value. -/
def Piece.kind? : Piece → Option Kind
  | .value kind => some kind
  | _ => none

/-- The kind of an expression without commas and colons. -/
def expressionKind? (pieces : List Piece) : Option Kind := do
  match ← (Text.split .sign pieces).mapM (·.mapM Piece.kind?) with
  | [kinds] => Kind.sideBySide? kinds
  | [[], kinds] => (← Kind.sideBySide? kinds).signed?
  | [left, right] => Kind.sum? (← Kind.sideBySide? left) (← Kind.sideBySide? right)
  | [[], left, right] =>
    Kind.sum? (← (← Kind.sideBySide? left).signed?) (← Kind.sideBySide? right)
  | _ => none

/-- The members of brackets, of which the last may be followed by a comma. -/
def members (pieces : List Piece) : List (List Piece) :=
  match (Text.split .comma pieces).reverse with
  | [] :: before :: earlier => (before :: earlier).reverse
  | parts => parts.reverse

/-- The kind of round brackets: a single expression stands for itself, unless a comma follows it. -/
def roundKind? (pieces : List Piece) : Option Kind :=
  if pieces.isEmpty then some .nothing
  else if pieces.contains .comma then do
    Kind.tuple? (← (members pieces).mapM expressionKind?)
  else (expressionKind? pieces).map Kind.bracketed

/-- Whether the parts of a member of curly brackets are an element of a set. -/
def isElement (parts : List (List Piece)) : Bool :=
  match parts with
  | [element] => (expressionKind? element).any Kind.isKey
  | _ => false

/-- Whether the parts of a member of curly brackets are a key and a value of a dictionary. -/
def isEntry (parts : List (List Piece)) : Bool :=
  match parts with
  | [key, value] => (expressionKind? key).any Kind.isKey && (expressionKind? value).any Kind.isValue
  | _ => false

/-- The kind of curly brackets, which hold the elements of a set or the entries of a dictionary. -/
def curlyKind? (pieces : List Piece) : Option Kind :=
  let members := (members pieces).map (Text.split .colon)
  if pieces.isEmpty || members.all isElement || members.all isEntry then some .changing else none

/-! Reading. -/

/-- What stands behind a bracket that is still open, the latest piece first, or in no brackets. -/
structure Frame where
  bracket : Option Bracket
  pieces : List Piece
  /-- How much room the open brackets take that stand around it. -/
  weight : Nat
deriving DecidableEq, Repr

namespace Frame

/-- Adds a piece. -/
def push (frame : Frame) (piece : Piece) : Frame :=
  { frame with pieces := piece :: frame.pieces }

/-- Whether the latest piece is a sign with nothing to add to. -/
def isSigned (frame : Frame) : Bool :=
  match frame.pieces with
  | .sign :: before => !(before.head?.bind Piece.kind?).isSome
  | _ => false

/-- How much room the next member takes up: somewhat more behind other members and behind a sign. -/
def memberWeight (frame : Frame) : Nat :=
  let earlier := frame.pieces.count .comma
  (match frame.bracket with
    | none => min (2 * earlier) 2
    | some .round => if earlier = 0 then 28 else min (29 + earlier) 31
    | some .curly => min (29 + earlier) 30) + (if frame.isSigned then 1 else 0)

/-- How much room there is. -/
def room : Nat := 5975

/-- How many brackets can be open. -/
def deepest : Nat := 200

/-- Whether there is room for a member. -/
def hasRoom (frame : Frame) : Bool :=
  frame.weight + frame.memberWeight ≤ room

/-- The kind of the brackets. -/
def kind? (frame : Frame) : Option Kind :=
  match frame.bracket with
  | some .curly => curlyKind? frame.pieces.reverse
  | _ => roundKind? frame.pieces.reverse

end Frame

/-- Reads a token, with what stands behind each open bracket, the innermost first. -/
def step (frames : List Frame) (token : Token) : Option (List Frame) :=
  match frames, token with
  | frame :: outer, .piece piece => if frame.hasRoom then some (frame.push piece :: outer) else none
  | frame :: outer, .opening bracket =>
    if frame.hasRoom && outer.length < Frame.deepest then
      some (⟨bracket, [], frame.weight + frame.memberWeight⟩ :: frame :: outer)
    else none
  | frame :: next :: outer, .closing bracket =>
    if frame.hasRoom && frame.bracket = some bracket then
      frame.kind?.map fun kind => next.push (.value kind) :: outer
    else none
  | _, _ => none

/-- Whether tokens are a literal value, or several with commas in between. -/
def isExpression (tokens : List Token) : Bool :=
  match tokens.foldlM step [⟨none, [], 0⟩] with
  | some [frame] => !frame.pieces.isEmpty && frame.kind?.any Kind.isValue
  | _ => false

/-- Whether a text is a literal value, or several with commas in between. -/
def accepts (text : List Char) : Bool :=
  (tokens? text).any isExpression

end ThreatAnalysis.Literal
