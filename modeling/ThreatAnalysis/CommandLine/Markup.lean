import ThreatAnalysis.CommandLine.Action
import ThreatAnalysis.CommandLine.Emoji
import ThreatAnalysis.CommandLine.Style

/-!
Markup of texts for a terminal. A tag is a bracket, a small letter or one of `#`, `/` and `@`, and
whatever follows up to the next closing bracket, unless another bracket opens before it. A tag
switches a style on or, if it starts with a slash, off: the style it names, or the latest one if it
names none. Behind an equals sign a tag has parameters, which do not belong to the name; those of an
action, whose name starts with `@`, have to be literal values once it is switched off. A terminal
without styles shows a text without its tags, yet the styles of what is shown have to be readable
with their parameters.

A backslash in front of a bracket takes away its meaning and is not shown. In front of a tag, two
backslashes stand for one. What stands between two tags is shown with its emoji codes replaced, and
without characters that would ring, move back or return to the start of the line. A text that is
put into a line is escaped, so that each tag in it is shown; what a tag is still depends on the
whole line, where a bracket of one text may be closed by that of a later one.
-/
namespace ThreatAnalysis.Markup

variable [Platform]

/-! Tags. -/

/-- Whether a tag can start with a character. -/
def startsTag (c : Char) : Bool :=
  ('a' ≤ c && c ≤ 'z') || ['#', '/', '@'].contains c

/-- The text up to the next closing bracket, unless another bracket opens before it. -/
def upToBracket? : List Char → Option (List Char)
  | [] => none
  | c :: rest =>
    if c = ']' then some []
    else if c = '[' then none
    else (upToBracket? rest).map (c :: ·)

/-- What stands in the tag with which a text starts. -/
def tag? : List Char → Option (List Char)
  | '[' :: c :: rest => if startsTag c then (upToBracket? rest).map (c :: ·) else none
  | _ => none

/-! Escaping. -/

/-- Whether a text starts with a tag, or with backslashes in front of one. -/
def leadsToTag (text : List Char) : Bool :=
  (tag? (text.dropWhile (· = '\\'))).isSome

/-- Puts a backslash in front of the bracket of each tag and of each backslash right before it. -/
def escapeTags : List Char → List Char
  | [] => []
  | c :: rest =>
    if (c = '\\' ∨ c = '[') ∧ leadsToTag (c :: rest) then '\\' :: c :: escapeTags rest
    else c :: escapeTags rest

/-- Doubles a single backslash at the end, which would otherwise escape what follows. -/
def doubleLast (text : List Char) : List Char :=
  match text.reverse with
  | '\\' :: '\\' :: _ => text
  | '\\' :: _ => text ++ ['\\']
  | _ => text

/-- A text as it is put into a line. -/
def escape (text : String) : String :=
  String.ofList (doubleLast (escapeTags text.toList))

/-! Parts. -/

/-- A part of a text with markup. -/
inductive Part where
  | text (text : List Char)
  | tag (inside : List Char)
deriving DecidableEq, Repr

/-- The part for plain characters, unless there are none. -/
def plainPart (text : List Char) : List Part :=
  if text.isEmpty then [] else [.text text]

/-- The parts for a tag behind some backslashes. -/
def tagParts (backslashes : Nat) (inside : List Char) : List Part :=
  plainPart (List.replicate (backslashes / 2) '\\') ++
    [if backslashes % 2 = 0 then .tag inside else .text ('[' :: inside ++ [']'])]

/-- The parts of a text behind the first `skip` characters, which are left out. The plain characters
in front of it are given, the latest one first. -/
def partsBehind (plain : List Char) : (skip : Nat) → List Char → List Part
  | _, [] => plainPart plain.reverse
  | skip + 1, _ :: rest => partsBehind plain skip rest
  | 0, c :: rest =>
    match tag? ((c :: rest).dropWhile (· = '\\')) with
    | none => partsBehind (c :: plain) 0 rest
    | some inside =>
      let backslashes := ((c :: rest).takeWhile (· = '\\')).length
      plainPart plain.reverse ++ tagParts backslashes inside ++
        partsBehind [] (backslashes + inside.length + 1) rest

/-- The parts of a text. -/
def parts (text : List Char) : List Part :=
  partsBehind [] 0 text

/-! What is shown. -/

/-- Why a text cannot be shown. -/
inductive Problem where
  /-- A tag cannot switch off what it means to. -/
  | unopened
  /-- A colour lacks a number. -/
  | missingNumber
deriving DecidableEq, Repr

/-- A style of the characters from one position up to another one. -/
structure Span where
  start : Nat
  stop : Nat
  style : List Char
deriving DecidableEq, Repr

/-- A style or an action that is switched on at a position. -/
structure Opening where
  start : Nat
  name : String
  parameters : List Char
deriving DecidableEq, Repr

namespace Opening

/-- Reads what a tag at a position switches on. -/
def ofTag (position : Nat) (inside : List Char) : Except Problem Opening :=
  match Style.canonicalName? (inside.takeWhile (· ≠ '=')) with
  | some name => .ok ⟨position, name, (inside.dropWhile (· ≠ '=')).drop 1⟩
  | none => .error .missingNumber

/-- Whether it can be switched off, for which the parameters of an action are read. -/
def canClose (opening : Opening) : Bool :=
  !"@".isPrefixOf opening.name || opening.parameters.isEmpty ||
    Action.acceptsParameters opening.parameters

/-- The style up to a position: the name, followed by the parameters. -/
def span (stop : Nat) (opening : Opening) : Span :=
  ⟨opening.start, stop, opening.name.toList ++ ' ' :: opening.parameters⟩

end Opening

/-- What a tag with a name means to switch off: what has that name, or anything if it is blank. -/
def meant (name : List Char) : Except Problem (Opening → Bool) :=
  if (Text.trim name).isEmpty then .ok fun _ => true
  else
    match Style.canonicalName? (Text.trim name) with
    | some name => .ok fun opening => opening.name = name
    | none => .error .missingNumber

/-- Switches off the latest that a tag with a name means to. It comes back with all the others. -/
def close (name : List Char) (openings : List Opening) :
    Except Problem (Opening × List Opening) := do
  let isMeant ← meant name
  match openings.find? isMeant with
  | some opening =>
    if opening.canClose then return (opening, openings.eraseP isMeant) else .error .unopened
  | none => .error .unopened

/-- A backslash in front of a bracket, which is not shown. -/
def escapedBracket? : List Char → Option (Nat × List Char)
  | '\\' :: '[' :: _ => some (1, ['['])
  | _ => none

/-- Whether a character is dropped: bell, backspace, vertical tab, form feed, carriage return. -/
def isDropped (c : Char) : Bool :=
  [0x07, 0x08, 0x0B, 0x0C, 0x0D].contains c.toNat

/-- What is shown of a part without tags. -/
def shownText (text : List Char) : List Char :=
  (Emoji.replace (Text.replaceParts escapedBracket? text)).filter fun c => !isDropped c

/-- A text without its tags, and its styles. -/
structure Styled where
  text : List Char
  spans : List Span
deriving DecidableEq, Repr

namespace Styled

/-- Reads parts that start at a position where some styles are on, the latest first. What is not
switched off reaches to the end. -/
def ofParts (openings : List Opening) (position : Nat) : List Part → Except Problem Styled
  | [] => .ok ⟨[], openings.map (Opening.span position)⟩
  | .text text :: rest => do
    let text := shownText text
    let later ← ofParts openings (position + text.length) rest
    return { later with text := text ++ later.text }
  | .tag ('/' :: inside) :: rest => do
    let (opening, openings) ← close (inside.takeWhile (· ≠ '=')) openings
    let later ← ofParts openings position rest
    return { later with spans := opening.span position :: later.spans }
  | .tag inside :: rest => do
    ofParts ((← Opening.ofTag position inside) :: openings) position rest

/-- Reads a text with markup. -/
def read (text : String) : Except Problem Styled :=
  ofParts [] 0 (parts text.toList)

/-- Whether a style is a style of something that is shown. A text of several lines is divided into
its lines, and a line into the parts between its tabs, which leaves out the styles of nothing. -/
def isInUse (styled : Styled) (span : Span) : Bool :=
  if styled.text.contains '\n' then
    ((styled.text.take span.stop).drop span.start).any (· ≠ '\n')
  else !styled.text.contains '\t' || span.start < span.stop

/-- Reads the styles in use, of which one with an unknown word is none. -/
def check (styled : Styled) (isInUse : Span → Bool) : Except Problem Unit :=
  if styled.spans.any fun span =>
      isInUse span && Style.ofName span.style matches .error .missingNumber then
    .error .missingNumber
  else .ok ()

/-- What is shown. -/
def shown (styled : Styled) : Except Problem String := do
  styled.check styled.isInUse
  return String.ofList styled.text

end Styled

/-- What is shown of a text. -/
def shown (text : String) : Except Problem String := do
  (← Styled.read text).shown

end ThreatAnalysis.Markup
