import ThreatAnalysis.Diagram.Finding
import ThreatAnalysis.Record.Readers

/-!
Cells: the elements of a data-flow diagram. A cell has an identifier, a type, flags and the
threats found on it; a flow also has two ends, which are kept as they were written. All further
members of a cell are attributes of its own, which expressions can test like the others.
-/
namespace ThreatAnalysis
namespace Cell

/-- The two ends of a flow. -/
inductive End where
  | source
  | target
deriving DecidableEq, Repr

/-- The flags of a cell. -/
inductive Flag where
  | encrypted
  | publicNetwork
  | publicFacing
  | outOfScope
  /-- Whether the last analysis left findings on the cell. -/
  | openThreats
deriving DecidableEq, Repr

/-- The fields of a cell. -/
inductive Field where
  | id
  | type
  | name
  | description
  | endpoint (side : End)
  | flag (flag : Flag)
  | threats
deriving DecidableEq, Repr

/-- The values of a field. A name, a description and a flag may be null. -/
abbrev Value : Field → Type
  | .id => String
  | .type => String
  | .name => Option String
  | .description => Option String
  | .endpoint _ => Json
  | .flag _ => Option Bool
  | .threats => List Finding

/-- The key a flag is written under. -/
def Flag.key : Flag → String
  | .encrypted => "isEncrypted"
  | .publicNetwork => "isPublicNetwork"
  | .publicFacing => "isPublicFacing"
  | .outOfScope => "outOfScope"
  | .openThreats => "hasOpenThreats"

/-- Another key a flag may be given under. -/
def Flag.otherKey : Flag → String
  | .encrypted => "is_encrypted"
  | .publicNetwork => "is_public_network"
  | .publicFacing => "is_public_facing"
  | .outOfScope => "out_of_scope"
  | .openThreats => "has_open_findings"

/-- The key a field is written under. -/
def Field.key : Field → String
  | .id => "id"
  | .type => "type"
  | .name => "name"
  | .description => "description"
  | .endpoint .source => "source"
  | .endpoint .target => "target"
  | .flag mark => mark.key
  | .threats => "threats"

/-- Another key a field may be given under. -/
def Field.otherKey : Field → Option String
  | .flag mark => some mark.otherKey
  | .threats => some "findings"
  | _ => none

/-- The fields in the order they are written. -/
def Field.all : List Field :=
  [.id, .type, .name, .description, .endpoint .source, .endpoint .target, .flag .encrypted,
    .flag .publicNetwork, .flag .publicFacing, .flag .outOfScope, .threats, .flag .openThreats]

/-- The field of either of its keys. -/
def Field.ofKey? (key : String) : Option Field :=
  Field.all.find? fun field => field.key == key || field.otherKey == some key

/-- A string or null. -/
def nullable : Option String → Json
  | none => .null
  | some text => .string text

/-- True, false or null. -/
def nullableFlag : Option Bool → Json
  | none => .null
  | some flag => .bool flag

/-- The fields of a cell, their keys and their values. -/
def schema : Schema where
  Field := Field
  decEq := inferInstance
  fields := Field.all
  Value := Value
  key := Field.key
  otherKey := Field.otherKey
  required
    | .id => true
    | _ => false
  default
    | .id => ""
    | .type => ""
    | .name => none
    | .description => none
    | .endpoint _ => .null
    | .flag _ => some false
    | .threats => []
  read
    | .id => Readers.text
    | .type => Readers.text
    | .name => Readers.nullableText
    | .description => Readers.nullableText
    | .endpoint _ => Readers.any
    | .flag _ => Readers.flag
    | .threats => Readers.nullableList Finding.read
  write
    | _, .id, text => .string text
    | _, .type, text => .string text
    | _, .name, text => nullable text
    | _, .description, text => nullable text
    | _, .endpoint _, value => value
    | _, .flag _, flag => nullableFlag flag
    | detail, .threats, findings => .array (findings.map (·.encode detail))

end Cell

/-- An element of a diagram. -/
abbrev Cell := Record Cell.schema

/-- The types of cells that diagrams use. -/
inductive CellType where
  | actor
  | process
  | store
  | flow
  | boundary
  | text
deriving DecidableEq, Repr

namespace CellType

/-- The tag by which a cell names its type. -/
def tag : CellType → String
  | .actor => "tm.Actor"
  | .process => "tm.Process"
  | .store => "tm.Store"
  | .flow => "tm.Flow"
  | .boundary => "tm.Boundary"
  | .text => "tm.Text"

/-- Every type, once. -/
def all : List CellType := [.actor, .process, .store, .flow, .boundary, .text]

end CellType

/-- What a cell attribute can hold: a value of the document, or the findings of the cell. -/
inductive Attribute where
  | plain (value : Json)
  | threats (findings : List Finding)

namespace Attribute

/-- The text form of an attribute, if it has one. A flag is written as in a document. -/
def text? [Platform] : Attribute → Option String
  | .plain (.bool flag) => some (if flag then "true" else "false")
  | .plain value => value.text?
  | .threats findings =>
    (findings.mapM Finding.literal?).map fun texts => "[" ++ ", ".intercalate texts ++ "]"

/-- An attribute written in full. -/
def write : Attribute → Json
  | .plain value => value
  | .threats findings => .array (findings.map (·.encode .full))

/-- The attribute, unless it is null. -/
def present? : Attribute → Option Attribute
  | .plain .null => none
  | found => some found

end Attribute

namespace Cell

def id (cell : Cell) : String := cell.get .id
def type (cell : Cell) : String := cell.get .type
def name (cell : Cell) : Option String := cell.get .name
def description (cell : Cell) : Option String := cell.get .description
def findings (cell : Cell) : List Finding := cell.get .threats

def flag (cell : Cell) (flag : Flag) : Option Bool := cell.get (.flag flag)

/-- Whether a flag is true; null counts as false. -/
def has (cell : Cell) (flag : Flag) : Bool :=
  cell.flag flag == some true

/-- Whether the cell has a type. -/
def isOf (cell : Cell) (type : CellType) : Bool :=
  cell.type == type.tag

def isFlow (cell : Cell) : Bool := cell.isOf .flow

/-- What an end of a flow refers to: the end itself, or the member `cell` of an object, or its
member `id` if `cell` is absent, null, false, zero or empty. -/
def endReferent (value : Json) : Option Json :=
  match value with
  | .object _ =>
    match value.get? "cell" with
    | some referent => if referent.isFalsy then value.get? "id" else some referent
    | none => value.get? "id"
  | value => some value

/-- The identifier an end of a flow refers to, if it is one. -/
def endId (value : Json) : Option String :=
  match endReferent value with
  | some (.string id) => some id
  | _ => none

/-- The identifier of the cell at an end of a flow. -/
def endpoint (cell : Cell) (side : End) : Option String :=
  endId (cell.get (.endpoint side))

/-- The value of a field as an attribute. -/
def attributeOf : (field : Field) → Value field → Attribute
  | .threats, findings => .threats findings
  | field, value => .plain (schema.write .given field value)

/-- An attribute by its key: a field that was given, under either of its keys, or an extra. There
is none if it is null. -/
def attribute? (cell : Cell) (key : String) : Option Attribute :=
  match Field.ofKey? key with
  | some field => (cell.given field).bind fun value => (attributeOf field value).present?
  | none => (cell.extras.get? key).bind fun value => (Attribute.plain value).present?

/-- Reads a cell. -/
def read : Json → Reading Cell := schema.decode

/-- Whether reading a cell breaks down: reading one of its findings does. -/
def isTooDeep [Platform] : Json → Bool
  | .object fields =>
    match schema.locate fields .threats with
    | some (_, .array findings) => findings.any Finding.isTooDeep
    | _ => false
  | _ => false

/-- The cell with other findings. -/
def withFindings (cell : Cell) (findings : List Finding) : Cell :=
  cell.set .threats findings

/-- The text by which a cell is shown: its name unless that is null or empty. -/
def nameOr (cell : Cell) (other : String) : String :=
  match cell.name with
  | none => other
  | some name => if name.isEmpty then other else name

end Cell
end ThreatAnalysis
