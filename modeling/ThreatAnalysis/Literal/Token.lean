import ThreatAnalysis.Literal.Number
import ThreatAnalysis.Literal.Quoted

/-!
Tokens of literals. An expression is one line of tokens, which goes on over the ends of lines in
brackets or behind a backslash. It is not indented. Blanks stand between tokens, comments reach from
a number sign to the end of the line, and in front of the expression and behind it there may be
lines with nothing else. What is no token of a literal ends the reading.
-/
namespace ThreatAnalysis.Literal

variable [Platform]

/-! Tokens. -/

/-- The brackets of tuples, and of sets and dictionaries. -/
inductive Bracket where
  | round
  | curly
deriving DecidableEq, Repr

/-- A part of what stands in brackets. -/
inductive Piece where
  | value (kind : Kind)
  | sign
  | comma
  | colon
deriving DecidableEq, Repr

/-- A token of a literal. -/
inductive Token where
  | piece (piece : Piece)
  | opening (bracket : Bracket)
  | closing (bracket : Bracket)
deriving DecidableEq, Repr

/-- The token that a character is by itself. -/
def Token.ofChar? : Char → Option Token
  | '(' => some (.opening .round)
  | ')' => some (.closing .round)
  | '\x7b' => some (.opening .curly)
  | '\x7d' => some (.closing .curly)
  | '+' => some (.piece .sign)
  | '-' => some (.piece .sign)
  | ',' => some (.piece .comma)
  | ':' => some (.piece .colon)
  | _ => none

/-! Words. -/

/-- The words that are values. -/
def constants : List String := ["None", "True", "False"]

/-- Other forms of the letters in the name of sets, which count as those letters. -/
def letterForms : List (Char × List Nat) := [
  ('s', [0x17F, 0x2E2, 0x209B, 0xFF53, 0x1D42C, 0x1D460, 0x1D494, 0x1D4C8, 0x1D4FC, 0x1D530,
    0x1D564, 0x1D598, 0x1D5CC, 0x1D600, 0x1D634, 0x1D668, 0x1D69C]),
  ('e', [0x1D49, 0x2091, 0x212F, 0x2147, 0xFF45, 0x1D41E, 0x1D452, 0x1D486, 0x1D4EE, 0x1D522,
    0x1D556, 0x1D58A, 0x1D5BE, 0x1D5F2, 0x1D626, 0x1D65A, 0x1D68E]),
  ('t', [0x1D57, 0x209C, 0xFF54, 0x1D42D, 0x1D461, 0x1D495, 0x1D4C9, 0x1D4FD, 0x1D531, 0x1D565,
    0x1D599, 0x1D5CD, 0x1D601, 0x1D635, 0x1D669, 0x1D69D])]

/-- The letter that a character counts as, which mostly is the character itself. -/
def plainLetter (c : Char) : Char :=
  if c.toNat < 0x80 then c
  else ((letterForms.find? fun (_, forms) => forms.contains c.toNat).map (·.1)).getD c

/-- Whether a character is part of a word. -/
def isWordPart (c : Char) : Bool :=
  (plainLetter c).isAlphanum || c = '_'

/-- The kind and the length of a word or a string with which a text starts. -/
def word? (text : List Char) : Option (Kind × Nat) :=
  let word := text.takeWhile isWordPart
  if constants.contains (String.ofList word) then some (.fixed, word.length)
  else if word.map plainLetter = "set".toList then some (.setName, word.length)
  else do
    let form ← StringForm.ofLetters? word
    let length ← form.length? (text.drop word.length)
    return (form.kind, word.length + length)

/-- The kind and the length of a value with which a text starts. -/
def value? (text : List Char) : Option (Kind × Nat) :=
  match text with
  | '.' :: '.' :: '.' :: _ => some (.fixed, 3)
  | c :: _ =>
    if c.isDigit || c = '.' then
      let number := numberText [] text
      (numberKind? number).map (·, number.length)
    else word? text
  | [] => none

/-- The token with which a text starts, and its length. -/
def token? (text : List Char) : Option (Token × Nat) :=
  match text.head?.bind Token.ofChar? with
  | some token => some (token, 1)
  | none => (value? text).map fun (kind, length) => (.piece (.value kind), length)

/-! Lines. -/

/-- Where in a text tokens are looked for. -/
inductive Place where
  /-- At a column of a line in front of the expression or behind it. A line that goes on behind a
  backslash keeps the column of the first backslash, unless that is zero. -/
  | margin (column kept : Nat) (ended : Bool)
  /-- In the expression, with a number of brackets open. -/
  | expression (depth : Nat)
deriving DecidableEq, Repr

namespace Place

/-- Whether a token may stand at a place. -/
def allowsToken : Place → Bool
  | .margin column kept ended => !ended && (if kept = 0 then column else kept) = 0
  | .expression _ => true

/-- The place behind a token. -/
def behind (place : Place) (token : Token) : Place :=
  let depth := match place with
    | .margin _ _ _ => 0
    | .expression depth => depth
  match token with
  | .piece _ => .expression depth
  | .opening _ => .expression (depth + 1)
  | .closing _ => .expression (depth - 1)

/-- The place behind a blank. -/
def behindBlank : Place → Place
  | .margin column kept ended => .margin (column + 1) kept ended
  | place => place

/-- The place behind a form feed, from which columns are counted anew. -/
def behindFeed : Place → Place
  | .margin _ kept ended => .margin 0 kept ended
  | place => place

/-- The place at the start of the next line. -/
def nextLine : Place → Place
  | .margin _ _ ended => .margin 0 0 ended
  | .expression 0 => .margin 0 0 true
  | place => place

/-- The place on the next line behind a backslash. -/
def continued : Place → Place
  | .margin column kept ended => .margin column (if kept = 0 then column else kept) ended
  | place => place

/-- What is passed over at a place: the number of characters behind the first one, and the place
behind them. -/
def pass? (place : Place) (c : Char) (rest : List Char) : Option (Nat × Place) :=
  match c, rest with
  | ' ', _ => some (0, place.behindBlank)
  | '\t', _ => some (0, place.behindBlank)
  | '\x0c', _ => some (0, place.behindFeed)
  | '\n', _ => some (0, place.nextLine)
  | '#', rest => some ((rest.takeWhile (· ≠ '\n')).length, place)
  | '\\', '\n' :: _ :: _ => some (1, place.continued)
  | _, _ => none

end Place

/-- The tokens of a text behind the first `skip` characters, which are left out. -/
def tokensBehind : (skip : Nat) → Place → List Char → Option (List Token)
  | _, _, [] => some []
  | skip + 1, place, _ :: rest => tokensBehind skip place rest
  | 0, place, c :: rest =>
    match place.pass? c rest with
    | some (skip, next) => tokensBehind skip next rest
    | none =>
      if place.allowsToken then do
        let (token, length) ← token? (c :: rest)
        let later ← tokensBehind (length - 1) (place.behind token) rest
        return token :: later
      else none

/-- A text in which every line ends in the same way. -/
def withLineEnds : List Char → List Char
  | [] => []
  | '\r' :: '\n' :: rest => '\n' :: withLineEnds rest
  | c :: rest => (if c = '\r' then '\n' else c) :: withLineEnds rest

/-- The tokens of a text, which must not contain a null character. -/
def tokens? (text : List Char) : Option (List Token) :=
  if text.contains '\x00' then none else tokensBehind 0 (.margin 0 0 false) (withLineEnds text)

end ThreatAnalysis.Literal
