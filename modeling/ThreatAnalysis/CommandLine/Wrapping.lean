import ThreatAnalysis.Text.Blank
import ThreatAnalysis.Text.CellWidth
import ThreatAnalysis.Text.Split

/-!
Wrapping in the columns of a table. A column is as wide as the widest line of its texts, where tabs
have no width and several characters end a line. A text is then divided at line feeds only, and its
tabs are filled up with spaces, so that a line can still be too wide for the column. It is divided
between words; a word that is too wide for any line stands alone and is cut, with an ellipsis in
place of its end. Each character keeps its position in the text, which tells what of a text is left.
-/
namespace ThreatAnalysis.Terminal

/-! The width of a column. -/

/-- Whether a character ends a line where a column is measured. -/
def endsLine (c : Char) : Bool :=
  [0x0A, 0x1C, 0x1D, 0x1E, 0x85, 0x2028, 0x2029].contains c.toNat

/-- The width of the widest line of a text. -/
def widest (text : List Char) : Nat :=
  ((Text.splitWhere endsLine text).map Text.width).foldl max 0

/-! The lines of a text. -/

/-- A character with its position in a text. -/
structure Placed where
  char : Char
  position : Nat
deriving DecidableEq, Repr

/-- The characters of a text with their positions. -/
def place (text : List Char) : List Placed :=
  text.zipIdx.map fun (char, position) => ⟨char, position⟩

/-- The characters of a line. -/
def chars (line : List Placed) : List Char :=
  line.map (·.char)

/-- The distance of the columns to which tabs lead. -/
def tabDistance : Nat := 8

/-- A line behind a number of cells with spaces in place of its tabs. What stands in front of it
since the last tab is given, the latest character first. -/
def fillTabs (cells : Nat) (before : List Placed) : List Placed → List Placed
  | [] => before.reverse
  | c :: rest =>
    if c.char = '\t' then
      let cells := cells + Text.width (chars before.reverse)
      let spaces := tabDistance - cells % tabDistance
      before.reverse ++ List.replicate spaces ⟨' ', c.position⟩ ++ fillTabs (cells + spaces) [] rest
    else fillTabs cells (c :: before) rest

/-- Whether a character is blank. -/
def Placed.isBlank (c : Placed) : Bool :=
  Text.isBlank c.char

/-- Adds a character to words, the latest word and the latest character first. A word ends with its
blanks, and the first one may also start with blanks. -/
def addToWords (words : List (List Placed)) (c : Placed) : List (List Placed) :=
  match words with
  | [] => [[c]]
  | word :: before =>
    if !c.isBlank && word.head?.any Placed.isBlank && !word.all Placed.isBlank then
      [c] :: word :: before
    else (c :: word) :: before

/-- The words of a line with their blanks. -/
def wordsOf (line : List Placed) : List (List Placed) :=
  ((line.foldl addToWords []).map List.reverse).reverse

/-- Divides words among lines, of which the current one has some words that fill a number of cells.
Its latest word comes first. -/
def divide (limit : Nat) (line : List (List Placed)) (filled : Nat) :
    List (List Placed) → List (List Placed)
  | [] => [line.reverse.flatten]
  | word :: rest =>
    let needed := Text.width (chars ((word.reverse.dropWhile Placed.isBlank).reverse))
    if filled + needed ≤ limit || line.isEmpty then
      divide limit (word :: line) (filled + Text.width (chars word)) rest
    else line.reverse.flatten :: divide limit [word] (Text.width (chars word)) rest

/-- Takes blanks from the end of a line with too many characters. -/
def dropExcess (limit : Nat) (line : List Placed) : List Placed :=
  let blanks := (line.reverse.takeWhile Placed.isBlank).length
  line.take (line.length - min blanks (line.length - limit))

/-- The clusters in front that fill a number of cells. One that needs more cells than are left gives
way to a space. -/
def takeWidth (limit : Nat) : List Text.Cluster → List Char
  | [] => []
  | cluster :: rest =>
    if limit = 0 then []
    else if limit < cluster.width then [' ']
    else cluster.text ++ takeWidth (limit - cluster.width) rest

/-- A line that is cut if it is too wide. -/
def cut (limit : Nat) (line : List Char) : List Char :=
  if limit < Text.width line then takeWidth (limit - 1) (Text.clusters line) ++ ['…'] else line

/-- A line as it is shown in a column, and the positions of its characters. -/
structure ColumnLine where
  text : List Char
  positions : List Nat
deriving DecidableEq, Repr

/-- Makes a line fit into a column. -/
def fit (limit : Nat) (line : List Placed) : ColumnLine :=
  let line := dropExcess limit line
  let text := cut limit (chars line)
  ⟨text, (line.take text.length).map (·.position)⟩

/-- The lines of a text in a column. -/
def wrap (limit : Nat) (text : List Char) : List ColumnLine :=
  (Text.splitWhere (·.char = '\n') (place text)).flatMap fun line =>
    (divide limit [] 0 (wordsOf (fillTabs 0 [] line))).map (fit limit)

end ThreatAnalysis.Terminal
