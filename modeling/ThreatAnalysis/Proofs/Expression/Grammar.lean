import ThreatAnalysis.Proofs.Expression.Scanning
import ThreatAnalysis.Proofs.Expression.Structure

/-! The language of match expressions as a grammar. The rules say which text derives which tree and
mention no part of the reader: no cutting of text, no search for a closing parenthesis, no depth
limit. -/
namespace ThreatAnalysis.Expression
open Text

/-- The tree of a call from the trees of its arguments, if it takes as many. -/
def Call.tree? : Call → List Expression → Option Expression
  | .not, [operand] => some (.not operand)
  | .and, operands => some (.and operands)
  | .or, operands => some (.or operands)
  | .source, [operand] => some (.source operand)
  | .target, [operand] => some (.target operand)
  | .connects, [first, second] => some (.connects first second)
  | _, _ => none

mutual

/-- A text derives a tree. -/
inductive Derives : List Char → Expression → Prop where
  | predicate (word : Predicate) : Derives word.name.toList (.primitive word)
  | call {call : Call} {gap inner : List Char} {operands : List Expression} {tree : Expression}
      (blank : Blank gap) (arguments : DerivesAll inner operands)
      (taken : call.tree? operands = some tree) :
      Derives (callText call.name.toList gap inner) tree
  /-- The attribute is given, whatever it is; one comma may follow its name. -/
  | existence (blank : Blank gap) (slot : Slot name) (named : ¬ Blank name)
      (rest : behind = [] ∨ ∃ blanks, Blank blanks ∧ behind = ',' :: blanks) :
      Derives (callText Call.hasProperty.name.toList gap (name ++ behind))
        (.hasProperty (String.ofList (trim name)) none)
  /-- The attribute has the value behind the first comma, which may contain further ones. -/
  | value (blank : Blank gap) (slot : Slot name) (named : ¬ Blank name)
      (balanced : Balanced value) (given : ¬ Blank value) :
      Derives (callText Call.hasProperty.name.toList gap (name ++ ',' :: value))
        (.hasProperty (String.ofList (trim name)) (some (String.ofList (trim value))))
  | padded (front : Blank before) (back : Blank after) (inside : Derives text tree) :
      Derives (before ++ text ++ after) tree

/-- A text derives the trees of an argument list. As a blank text is a list without arguments, a
list with some may end in one extra comma. -/
inductive DerivesAll : List Char → List Expression → Prop where
  | none (blank : Blank text) : DerivesAll text []
  | last (argument : Derives text tree) : DerivesAll text [tree]
  | more (argument : Derives text tree) (rest : DerivesAll later trees) :
      DerivesAll (text ++ ',' :: later) (tree :: trees)

end

theorem isName_predicate (predicate : Predicate) : isName predicate.name.toList = true := by
  cases predicate <;> decide

theorem isName_call (call : Call) : isName call.name.toList = true := by
  cases call <;> decide

theorem balanced_existence (slot : Slot name)
    (rest : behind = [] ∨ ∃ blanks, Blank blanks ∧ behind = ',' :: blanks) :
    Balanced (name ++ behind) := by
  rcases rest with rfl | ⟨blanks, blank, rfl⟩
  · simpa using slot.balanced
  · exact balanced_comma slot.balanced blank.plain.balanced

mutual

/-- What derives a tree can stand as one argument. -/
theorem Derives.slot : Derives text tree → Slot text
  | .predicate word => (isName_plain (isName_predicate word)).slot
  | .call blank arguments _ => callText_slot (isName_call _) blank arguments.balanced
  | .existence blank slot _ rest =>
    callText_slot (isName_call _) blank (balanced_existence slot rest)
  | .value blank slot _ balanced _ =>
    callText_slot (isName_call _) blank (balanced_comma slot.balanced balanced)
  | .padded front back inside => (front.plain.slot.append inside.slot).append back.plain.slot

theorem DerivesAll.balanced : DerivesAll text trees → Balanced text
  | .none blank => blank.plain.balanced
  | .last argument => argument.slot.balanced
  | .more argument rest => balanced_comma argument.slot.balanced rest.balanced

end

private theorem name_not_blank (named : isName name = true) (rest : List Char) :
    ¬ Blank (name ++ rest) := by
  intro blank
  cases name with
  | nil => simp [isName] at named
  | cons c name =>
    have solid := (nameChar_solid (isName_chars named c (by simp))).1
    rw [blank c (by simp)] at solid
    cases solid

theorem callText_not_blank (named : isName name = true) (gap arguments : List Char) :
    ¬ Blank (callText name gap arguments) := by
  have given := name_not_blank named (gap ++ '(' :: arguments ++ [')'])
  simpa [callText] using given

theorem Derives.not_blank : Derives text tree → ¬ Blank text
  | .predicate word => by simpa using name_not_blank (isName_predicate word) []
  | .call .. | .existence .. | .value .. => callText_not_blank (isName_call _) _ _
  | .padded _ _ inside => fun blank => inside.not_blank fun c member => blank c (by simp [member])

end ThreatAnalysis.Expression
