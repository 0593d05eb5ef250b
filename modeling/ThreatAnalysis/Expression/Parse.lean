import ThreatAnalysis.Expression.Arguments
import ThreatAnalysis.Expression.Basic
import ThreatAnalysis.Platform

/-!
Reading match expressions. A text is a predicate name, or a call: a name, and an argument list in
parentheses that close at the very end of the text. A name that is no predicate or call, an
argument list of the wrong length and unbalanced parentheses make the whole text `unknown`;
what such a text contains is not looked at. The arguments of an accepted call are read in the same
way, and calls may nest as deep as the platform allows: beyond that there is no expression, however
much of the text could be read.
-/
namespace ThreatAnalysis.Expression
open Text

/-- The calls of the language. -/
inductive Call where
  | not
  | and
  | or
  | hasProperty
  | source
  | target
  | connects
deriving DecidableEq, Repr

namespace Call

/-- The name a call is written with. -/
def name : Call → String
  | .not => "not"
  | .and => "and"
  | .or => "or"
  | .hasProperty => "hasProperty"
  | .source => "source"
  | .target => "target"
  | .connects => "connects"

/-- Every call, once. -/
def all : List Call :=
  [.not, .and, .or, .hasProperty, .source, .target, .connects]

/-- The call of a name, which is matched exactly. -/
def ofName? (text : String) : Option Call :=
  all.find? fun call => call.name == text

theorem mem_all (call : Call) : call ∈ all := by
  cases call <;> decide

end Call

/-- A letter of ASCII or the underscore. -/
def isNameStart (c : Char) : Bool :=
  c.isAlpha || c == '_'

/-- A letter or digit of ASCII or the underscore. -/
def isNameChar (c : Char) : Bool :=
  c.isAlphanum || c == '_'

/-- Whether a text is one name. -/
def isName : List Char → Bool
  | [] => false
  | c :: rest => isNameStart c && rest.all isNameChar

/-- The text before the closing parenthesis that ends a text, if that is where the parenthesis
opened in front of the text closes; `depth` further ones are open where the text starts. -/
def enclosed? : (depth : Nat) → List Char → Option (List Char)
  | _, [] => none
  | depth, c :: rest =>
    if c = '(' then (enclosed? (depth + 1) rest).map (c :: ·)
    else if c = ')' then
      match depth with
      | 0 => if rest.isEmpty then some [] else none
      | depth + 1 => (enclosed? depth rest).map (c :: ·)
    else (enclosed? depth rest).map (c :: ·)

/-- The name and the argument list of a text that is one whole call. -/
def splitCall? (text : List Char) : Option (List Char × List Char) :=
  let name := trim (text.takeWhile (· ≠ '('))
  match text.dropWhile (· ≠ '(') with
  | [] => none
  | _ :: rest => if isName name then (enclosed? 0 rest).map (name, ·) else none

/-- Why a text has no expression at all. -/
inductive ParseError where
  /-- Calls nest deeper than the limit. -/
  | tooDeep
deriving DecidableEq, Repr

/-- How an accepted call is read: as a finished expression, or from the expressions of its
arguments. -/
inductive Form where
  | leaf (expression : Expression)
  | unary (build : Expression → Expression) (argument : List Char)
  | binary (build : Expression → Expression → Expression) (first second : List Char)
  | variadic (build : List Expression → Expression) (arguments : List (List Char))

/-- The form of a call with the given argument list, if it has the right number of arguments.
The value of an attribute test is everything behind the first separating comma. -/
def Call.form? (call : Call) (text : List Char) : Option Form :=
  let arguments := Arguments.split text
  match call, arguments with
  | .not, [argument] => some (.unary .not argument)
  | .source, [argument] => some (.unary .source argument)
  | .target, [argument] => some (.unary .target argument)
  | .connects, [first, second] => some (.binary .connects first second)
  | .and, arguments => some (.variadic .and arguments)
  | .or, arguments => some (.variadic .or arguments)
  | .hasProperty, name :: values =>
    if name.isEmpty then none
    else
      let value :=
        if values.isEmpty then none
        else some (String.ofList (trim (Arguments.afterFirstComma 0 text)))
      some (.leaf (.hasProperty (String.ofList name) value))
  | _, _ => none

/-- The form of a trimmed text. -/
def form (text : List Char) : Form :=
  let unknown := Form.leaf (.unknown (String.ofList text))
  if isName text then
    match Predicate.ofName? (String.ofList text) with
    | some predicate => .leaf (.primitive predicate)
    | none => unknown
  else
    match splitCall? text with
    | none => unknown
    | some (name, arguments) =>
      match Call.ofName? (String.ofList name) with
      | none => unknown
      | some call => (call.form? arguments).getD unknown

/-- Reads a text in which at most `limit` texts may lie within one another, the outermost one
included. -/
def parseWithin : (limit : Nat) → List Char → Except ParseError Expression
  | 0, _ => .error .tooDeep
  | limit + 1, text =>
    match form (trim text) with
    | .leaf expression => .ok expression
    | .unary build argument => build <$> parseWithin limit argument
    | .binary build first second => do
      let first ← parseWithin limit first
      let second ← parseWithin limit second
      return build first second
    | .variadic build arguments => build <$> arguments.mapM (parseWithin limit)

/-- The expression of a text. -/
def parse [Platform] (text : String) : Except ParseError Expression :=
  parseWithin Platform.deepestExpression text.toList

end ThreatAnalysis.Expression
