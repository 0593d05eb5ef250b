import ThreatAnalysis.CommandLine.Markup
import ThreatAnalysis.CommandLine.Wrapping

/-!
Text for a terminal. All texts have markup, and one that cannot be shown ends what is shown: its
markup is wrong, or half a pair in it is no character that a terminal could write. A row of a table
is as high as its highest cell, and puts the lines of its cells side by side. Of a text in a table
only what its column has room for is written.
-/
namespace ThreatAnalysis.Terminal

/-- Why a text cannot be shown. -/
inductive Problem where
  | markup (problem : Markup.Problem)
  /-- A character of it cannot be written. -/
  | unwritable
deriving DecidableEq, Repr

/-- A text that cannot be shown, and why. -/
structure Failure where
  text : String
  problem : Problem
deriving DecidableEq, Repr

variable [Platform]

/-- Whether each character of a text can be written. -/
def isWritable (text : String) : Bool :=
  text.toList.all fun c => (Platform.unit? c).isNone

/-- What is shown of a text. -/
def shown (text : String) : Except Failure String :=
  match Markup.shown text with
  | .error problem => .error ⟨text, .markup problem⟩
  | .ok shown => if isWritable text then .ok shown else .error ⟨text, .unwritable⟩

/-- The lines of a text. -/
def lines (text : String) : List String :=
  (Text.split '\n' text.toList).map String.ofList

/-- The lines of several texts, one below the other, up to the first one that cannot be shown, and
that text if there is one. -/
def stack : List String → List String × Option Failure
  | [] => ([], none)
  | text :: rest =>
    match shown text with
    | .error failure => ([], some failure)
    | .ok shown =>
      let (below, failed) := stack rest
      (lines shown ++ below, failed)

/-- Reads the markup of a cell of a table. -/
def readCell (text : String) : Except Failure Markup.Styled :=
  (Markup.Styled.read text).mapError fun problem => ⟨text, .markup problem⟩

/-- Whether a style is a style of something that is shown in lines of a column. A text that is a
single line as it stands keeps the styles of nothing in front of where it ends or is cut. -/
def isInUse (text : List Char) (lines : List ColumnLine) (span : Markup.Span) : Bool :=
  let isDivided := lines.length ≠ 1 || text.contains '\t'
  let left := (lines.flatMap (·.positions))
  if isDivided then left.any fun position => span.start ≤ position && position < span.stop
  else span.start < left.length || left.length = text.length

/-- The lines of a cell in a column of some width. -/
def cell (width : Nat) (text : String) : Except Failure (List String) := do
  let styled ← readCell text
  let lines := wrap width styled.text
  (styled.check (isInUse styled.text lines)).mapError fun problem => ⟨text, .markup problem⟩
  return lines.map fun line => String.ofList line.text

/-- The columns of rows. -/
def columns (rows : List (List String)) : List (List String) :=
  (List.range ((rows.map List.length).foldl max 0)).map fun column =>
    rows.filterMap fun row => row[column]?

/-- The width that a column would have to have. -/
def columnWidth (column : List String) : Except Failure Nat := do
  return ((← column.mapM readCell).map fun styled => widest styled.text).foldl max 0

/-- The widths that the columns of rows have. -/
def columnWidths (rows : List (List String)) : Except Failure (List Nat) := do
  return Platform.columnWidths (← (columns rows).mapM columnWidth)

/-- The lines of a row of cells in columns of some widths. -/
def row (widths : List Nat) (cells : List String) : Except Failure (List String) := do
  let columns ← (widths.zip cells).mapM fun (width, text) => cell width text
  let height := (columns.map List.length).foldl max 0
  return (List.range height).map fun (line : Nat) =>
    "  ".intercalate (columns.map fun column => column.getD line "")

/-- The lines of rows, row by row. To find the widths of the columns the markup of all cells is read,
one column after the other, before any cell is shown. -/
def draw (rows : List (List String)) : Except Failure (List (List String)) := do
  rows.mapM (row (← columnWidths rows))

/-- The lines of a table under its title. The table is written as a whole. -/
def table (title : String) (rows : List (List String)) : Except Failure (List String) := do
  let lines := (← draw rows).flatten
  match lines.find? (!isWritable ·) with
  | some line => throw ⟨line, .unwritable⟩
  | none => return title :: lines

/-- Whether the code point of a character is in a range. -/
def isBetween (first last : Nat) (c : Char) : Bool :=
  first ≤ c.toNat && c.toNat ≤ last

/-- A control sequence in front of a text, which nothing is put in place of: an escape character, a
bracket, parameters, intermediate characters and a final one. -/
def control? : List Char → Option (Nat × List Char)
  | '\x1b' :: '[' :: rest =>
    let parameters := rest.takeWhile (isBetween 0x30 0x3F)
    let rest := rest.drop parameters.length
    let intermediates := rest.takeWhile (isBetween 0x20 0x2F)
    match rest.drop intermediates.length with
    | final :: _ =>
      if isBetween 0x40 0x7E final then some (parameters.length + intermediates.length + 2, [])
      else none
    | [] => none
  | _ => none

/-- A text without control sequences. -/
def withoutControls (text : String) : String :=
  String.ofList (Text.replaceParts control? text.toList)

end ThreatAnalysis.Terminal
