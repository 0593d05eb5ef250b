import ThreatAnalysis.Platform
import ThreatAnalysis.Text.Blank
import ThreatAnalysis.Text.Lowercase
import ThreatAnalysis.Text.Replace

/-!
Emoji codes. A code is a name between two colons, without blanks; case does not count. Behind the
name, `-text` and `-emoji` ask for one of the two forms of a character. Which names there are is for
the platform to say; a code whose name is unknown stays as it is, and its second colon does not
start another one.
-/
namespace ThreatAnalysis.Emoji

/-- The marks at the end of a name that ask for a form, and the characters that choose it. -/
def forms : List (List Char × List Char) :=
  [("-text".toList, ['\uFE0E']), ("-emoji".toList, ['\uFE0F'])]

/-- A name divided into the name proper and what chooses the form. -/
def divide (name : List Char) : List Char × List Char :=
  match forms.find? fun (mark, _) => mark.isSuffixOf name with
  | some (mark, form) => (name.take (name.length - mark.length), form)
  | none => (name, [])

variable [Platform]

/-- What is shown for the name in a code. -/
def shown? (name : List Char) : Option (List Char) :=
  let (name, form) := divide name
  (Platform.emoji? (Text.lower name)).map (· ++ form)

/-- The code in front of a text: the number of its characters behind the first colon, and what is
shown for it. -/
def code? : List Char → Option (Nat × List Char)
  | ':' :: rest =>
    let name := rest.takeWhile fun c => c ≠ ':' && !Text.isBlank c
    match rest.drop name.length with
    | ':' :: _ => some (name.length + 1, (shown? name).getD (':' :: name ++ [':']))
    | _ => none
  | _ => none

/-- Replaces the codes in a text. -/
def replace (text : List Char) : List Char :=
  Text.replaceParts code? text

end ThreatAnalysis.Emoji
