import ThreatAnalysis.Number.Integer
import ThreatAnalysis.Text.Blank
import ThreatAnalysis.Text.Lowercase
import ThreatAnalysis.Text.Split
import ThreatAnalysis.Text.WordCharacter

/-!
Names of styles. The name of a style consists of words: attributes, which may be abbreviated or
taken back by `not`, a colour, a colour of the background behind `on`, and an address behind `link`.
Names that say the same have one canonical name, which gives the attributes in a fixed order and
then the colours and the address, the last of each. A name with a word that says nothing of a style
is made canonical by trimming and lower case. A colour with a missing number is a failure instead:
it has no canonical name.
-/
namespace ThreatAnalysis

namespace Style

/-- Why words are no name of a style. -/
inductive NameProblem where
  /-- A word says nothing of a style. -/
  | unknownWord
  /-- A part of a colour is missing, or too long to be a number. -/
  | missingNumber
deriving DecidableEq, Repr

/-! Colours. -/

/-- The names of colours. -/
def colorNames : List String := [
  "default", "black", "red", "green", "yellow", "blue", "magenta", "cyan", "white",
  "bright_black", "bright_red", "bright_green", "bright_yellow", "bright_blue", "bright_magenta",
  "bright_cyan", "bright_white", "grey0", "gray0", "navy_blue", "dark_blue", "blue3", "blue1",
  "dark_green", "deep_sky_blue4", "dodger_blue3", "dodger_blue2", "green4", "spring_green4",
  "turquoise4", "deep_sky_blue3", "dodger_blue1", "green3", "spring_green3", "dark_cyan",
  "light_sea_green", "deep_sky_blue2", "deep_sky_blue1", "spring_green2", "cyan3",
  "dark_turquoise", "turquoise2", "green1", "spring_green1", "medium_spring_green", "cyan2",
  "cyan1", "dark_red", "deep_pink4", "purple4", "purple3", "blue_violet", "orange4", "grey37",
  "gray37", "medium_purple4", "slate_blue3", "royal_blue1", "chartreuse4", "dark_sea_green4",
  "pale_turquoise4", "steel_blue", "steel_blue3", "cornflower_blue", "chartreuse3", "cadet_blue",
  "sky_blue3", "steel_blue1", "pale_green3", "sea_green3", "aquamarine3", "medium_turquoise",
  "chartreuse2", "sea_green2", "sea_green1", "aquamarine1", "dark_slate_gray2", "dark_magenta",
  "dark_violet", "purple", "light_pink4", "plum4", "medium_purple3", "slate_blue1", "yellow4",
  "wheat4", "grey53", "gray53", "light_slate_grey", "light_slate_gray", "medium_purple",
  "light_slate_blue", "dark_olive_green3", "dark_sea_green", "light_sky_blue3", "sky_blue2",
  "dark_sea_green3", "dark_slate_gray3", "sky_blue1", "chartreuse1", "light_green", "pale_green1",
  "dark_slate_gray1", "red3", "medium_violet_red", "magenta3", "dark_orange3", "indian_red",
  "hot_pink3", "medium_orchid3", "medium_orchid", "medium_purple2", "dark_goldenrod",
  "light_salmon3", "rosy_brown", "grey63", "gray63", "medium_purple1", "gold3", "dark_khaki",
  "navajo_white3", "grey69", "gray69", "light_steel_blue3", "light_steel_blue", "yellow3",
  "dark_sea_green2", "light_cyan3", "light_sky_blue1", "green_yellow", "dark_olive_green2",
  "dark_sea_green1", "pale_turquoise1", "deep_pink3", "magenta2", "hot_pink2", "orchid",
  "medium_orchid1", "orange3", "light_pink3", "pink3", "plum3", "violet", "light_goldenrod3",
  "tan", "misty_rose3", "thistle3", "plum2", "khaki3", "light_goldenrod2", "light_yellow3",
  "grey84", "gray84", "light_steel_blue1", "yellow2", "dark_olive_green1", "honeydew2",
  "light_cyan1", "red1", "deep_pink2", "deep_pink1", "magenta1", "orange_red1", "indian_red1",
  "hot_pink", "dark_orange", "salmon1", "light_coral", "pale_violet_red1", "orchid2", "orchid1",
  "orange1", "sandy_brown", "light_salmon1", "light_pink1", "pink1", "plum1", "gold1",
  "navajo_white1", "misty_rose1", "thistle1", "yellow1", "light_goldenrod1", "khaki1", "wheat1",
  "cornsilk1", "grey100", "gray100", "grey3", "gray3", "grey7", "gray7", "grey11", "gray11",
  "grey15", "gray15", "grey19", "gray19", "grey23", "gray23", "grey27", "gray27", "grey30",
  "gray30", "grey35", "gray35", "grey39", "gray39", "grey42", "gray42", "grey46", "gray46",
  "grey50", "gray50", "grey54", "gray54", "grey58", "gray58", "grey62", "gray62", "grey66",
  "gray66", "grey70", "gray70", "grey74", "gray74", "grey78", "gray78", "grey82", "gray82",
  "grey85", "gray85", "grey89", "gray89", "grey93", "gray93"]

/-- Whether a character is a hexadecimal digit in lower case. -/
def isHexDigit (c : Char) : Bool :=
  c.isDigit || ('a' ≤ c && c ≤ 'f')

/-- The text between a word with a bracket and the closing bracket. -/
def inside? (word : String) (text : List Char) : Option (List Char) :=
  match word.toList.isPrefixOf text, text.getLast? with
  | true, some ')' => some ((text.drop word.length).dropLast)
  | _, _ => none

/-- The greatest number that stands for a colour or for a part of one. -/
def greatestPart : Nat := 255

/-- Whether a text is the number of a colour, of at most three digits. -/
def isColorNumber (text : List Char) : Bool :=
  !text.isEmpty && text.length ≤ 3 && text.all Char.isDigit &&
    (Text.number? text).any (· ≤ greatestPart)

/-- The number that a part of a colour is, unless it has too many digits. -/
def part? (text : List Char) : Option Nat :=
  if text.isEmpty || longestInteger < text.length then none else Text.number? text

/-- Whether a text consists of three parts of a colour, in digits of any scripts. -/
def checkParts (text : List Char) : Except NameProblem Unit :=
  let parts := Text.split ',' text
  if parts.length = 3 && parts.all (·.all fun c => (Text.decimal? c).isSome) then
    match parts.mapM part? with
    | some values => if values.all (· ≤ greatestPart) then .ok () else .error .unknownWord
    | none => .error .missingNumber
  else .error .unknownWord

/-- Whether a text in lower case stands for a colour by its name or number. -/
def isColorWord (text : List Char) : Bool :=
  colorNames.contains (String.ofList text) ||
    (match text with
      | '#' :: digits => digits.length == 6 && digits.all isHexDigit
      | _ => false) ||
    (inside? "color(" text).any isColorNumber

/-- Whether a text in lower case stands for a colour: by its name or number, or by three parts. -/
def checkColor (text : List Char) : Except NameProblem Unit :=
  if isColorWord text then .ok ()
  else
    match inside? "rgb(" text with
    | some parts => checkParts parts
    | none => .error .unknownWord

/-! Attributes. -/

/-- The attributes of a text, in the order of canonical names. -/
inductive Attribute where
  | bold
  | dim
  | italic
  | underline
  | blink
  | fastBlink
  | reverse
  | conceal
  | strike
  | doubleUnderline
  | frame
  | encircle
  | overline
deriving DecidableEq, Repr

namespace Attribute

/-- The name of an attribute. -/
def name : Attribute → String
  | .bold => "bold"
  | .dim => "dim"
  | .italic => "italic"
  | .underline => "underline"
  | .blink => "blink"
  | .fastBlink => "blink2"
  | .reverse => "reverse"
  | .conceal => "conceal"
  | .strike => "strike"
  | .doubleUnderline => "underline2"
  | .frame => "frame"
  | .encircle => "encircle"
  | .overline => "overline"

/-- The abbreviation of the name, if there is one. -/
def abbreviation? : Attribute → Option String
  | .bold => some "b"
  | .dim => some "d"
  | .italic => some "i"
  | .underline => some "u"
  | .reverse => some "r"
  | .conceal => some "c"
  | .strike => some "s"
  | .doubleUnderline => some "uu"
  | .overline => some "o"
  | _ => none

/-- Every attribute. -/
def all : List Attribute :=
  [.bold, .dim, .italic, .underline, .blink, .fastBlink, .reverse, .conceal, .strike,
    .doubleUnderline, .frame, .encircle, .overline]

/-- The attribute that a word names. -/
def ofWord? (word : List Char) : Option Attribute :=
  let word := String.ofList word
  all.find? fun trait => trait.name = word || trait.abbreviation? = some word

end Attribute
end Style

/-- What the words of a name say, the latest at the front. -/
structure Style where
  attributes : List (Style.Attribute × Bool)
  color : Option (List Char)
  background : Option (List Char)
  link : Option (List Char)
deriving DecidableEq, Repr

namespace Style

/-- The style that says nothing. -/
def plain : Style := ⟨[], none, none, none⟩

/-- Adds what the words of a name say to a style. -/
def readWords (style : Style) : List (List Char) → Except NameProblem Style
  | [] => .ok style
  | word :: rest =>
    match String.ofList (Text.lower word), rest with
    | "on", color :: rest => do
      let color := Text.lower color
      checkColor color
      readWords { style with background := some color } rest
    | "not", word :: rest =>
      match Attribute.ofWord? word with
      | some trait => readWords { style with attributes := (trait, false) :: style.attributes } rest
      | none => .error .unknownWord
    | "link", address :: rest => readWords { style with link := some address } rest
    | _, rest =>
      let word := Text.lower word
      match Attribute.ofWord? word with
      | some trait => readWords { style with attributes := (trait, true) :: style.attributes } rest
      | none => do
        checkColor word
        readWords { style with color := some word } rest

/-- The words of a text. -/
def words (text : List Char) : List (List Char) :=
  (Text.split ' ' (text.map fun c => if Text.isBlank c then ' ' else c)).filter (!·.isEmpty)

/-- The words for an attribute. -/
def attributeWords (style : Style) (trait : Attribute) : List String :=
  match style.attributes.lookup trait with
  | some true => [trait.name]
  | some false => ["not", trait.name]
  | none => []

/-- The words of the canonical name. -/
def canonicalWords (style : Style) : List String :=
  let word (name : Option (List Char)) := name.toList.map String.ofList
  let behind (mark : String) (name : Option (List Char)) :=
    (word name).flatMap fun name => [mark, name]
  Attribute.all.flatMap style.attributeWords ++ word style.color ++ behind "on" style.background ++
    behind "link" style.link

/-- The canonical name of a style. -/
def name (style : Style) : String :=
  match style.canonicalWords with
  | [] => "none"
  | words => " ".intercalate words

/-- The style with a name. -/
def ofName (text : List Char) : Except NameProblem Style :=
  if Text.trim text = "none".toList then .ok plain else readWords plain (words text)

/-- The canonical name for a name, unless a number is missing in it. -/
def canonicalName? (text : List Char) : Option String :=
  match ofName text with
  | .ok style => some style.name
  | .error .unknownWord => some (String.ofList (Text.lower (Text.trim text)))
  | .error .missingNumber => none

end Style
end ThreatAnalysis
