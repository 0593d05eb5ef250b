import ThreatAnalysis.Diagram.Cell

/-!
Diagrams: a title and an ordered list of cells. A payload is refused if it is no object, if it has
no array of cells, or if a title or a cell in it is invalid; the issues of all cells are reported
together, in order. Reading breaks down if a text field of a finding has a value that is nested too
deep.
-/
namespace ThreatAnalysis
namespace Diagram

/-- The fields of a diagram. -/
inductive Field where
  | title
  | cells
deriving DecidableEq, Repr

/-- The values of a field. -/
abbrev Value : Field → Type
  | .title => String
  | .cells => List Cell

/-- The fields of a diagram, their keys and their values. -/
def schema : Schema where
  Field := Field
  decEq := inferInstance
  fields := [.title, .cells]
  Value := Value
  key
    | .title => "title"
    | .cells => "cells"
  otherKey
    | .title => none
    | .cells => some "nodes"
  required
    | .title => false
    | .cells => true
  default
    | .title => ""
    | .cells => []
  read
    | .title => Readers.text
    | .cells => Readers.list Cell.read
  write
    | _, .title, title => .string title
    | detail, .cells, cells => .array (cells.map (·.encode detail))

end Diagram

/-- A data-flow diagram. -/
abbrev Diagram := Record Diagram.schema

namespace Diagram

def title (diagram : Diagram) : String := diagram.get .title
def cells (diagram : Diagram) : List Cell := diagram.get .cells

/-- The diagram with other cells. -/
def withCells (diagram : Diagram) (cells : List Cell) : Diagram :=
  diagram.set .cells cells

/-- The number of findings on all cells. -/
def threatCount (diagram : Diagram) : Nat :=
  (diagram.cells.flatMap Cell.findings).length

/-- The title by which a diagram is shown. -/
def displayTitle (diagram : Diagram) : String :=
  if diagram.title.isEmpty then "Untitled" else diagram.title

/-- Why a payload is no diagram. -/
inductive FormatError where
  /-- The payload is not an object. -/
  | notObject
  /-- There is no array of cells. -/
  | noCells
  | invalid (issues : List Issue)
deriving DecidableEq, Repr

/-- The text of an error; the issues of an invalid diagram are reported apart. -/
def FormatError.message : FormatError → String
  | .notObject => "No diagram provided"
  | .noCells => "Invalid diagram format: missing cells array"
  | .invalid _ => "Invalid diagram format"

/-- Why no diagram is read. -/
inductive ReadError where
  | format (error : FormatError)
  /-- A value is nested too deep to be written as a text, which nothing provides for. -/
  | nesting
deriving DecidableEq, Repr

/-- The value that has to be the array of cells: the one under `cells`, even if it is null, and the
one under `nodes` only if there is none. -/
def cellsOf (payload : Json) : Option Json :=
  (payload.get? "cells").or (payload.get? "nodes")

/-- Reads a diagram. -/
def read [Platform] (payload : Json) : Except ReadError Diagram :=
  match payload, cellsOf payload with
  | .object _, some (.array entries) =>
    if entries.any Cell.isTooDeep then .error .nesting
    else (schema.decode payload).mapError fun issues => .format (.invalid issues)
  | .object _, _ => .error (.format .noCells)
  | _, _ => .error (.format .notObject)

end Diagram
end ThreatAnalysis
