import ThreatAnalysis.Json.Value
import ThreatAnalysis.Record.Issue

/-!
Records: typed views of objects. A schema lists the fields of a record, each with the key it is
written under, another key it may also be given under, and the way its value is read and written.
A record holds the fields that were given, with their values, and all further members of the
object as extras. A field that was not given has its default value, but it is still told apart
from a field that was given with that value.

If an object has both keys of a field, the one the field is written under counts, and the other
member is an extra like any unknown one.
-/
namespace ThreatAnalysis

/-- How much of a record is written. -/
inductive Detail where
  /-- Only the fields that were given. -/
  | given
  /-- Every field, with its default if it was not given. -/
  | full
deriving DecidableEq, Repr

/-- The fields of a kind of record. -/
structure Schema where
  Field : Type
  decEq : DecidableEq Field
  /-- Every field, in the order in which issues are reported and fields are written. -/
  fields : List Field
  Value : Field → Type
  /-- The key a field is written under. -/
  key : Field → String
  /-- Another key a field may be given under. -/
  otherKey : Field → Option String
  required : Field → Bool
  default : (field : Field) → Value field
  read : (field : Field) → Json → Reading (Value field)
  write : Detail → (field : Field) → Value field → Json

/-- A record of a schema. -/
structure Record (schema : Schema) where
  /-- The value of each field that was given. -/
  given : (field : schema.Field) → Option (schema.Value field)
  /-- The members of the object that belong to no field. -/
  extras : Fields

namespace Schema

/-- The member of an object that gives a field: its key and value. -/
def locate (schema : Schema) (fields : Fields) (field : schema.Field) : Option (String × Json) :=
  match fields.get? (schema.key field) with
  | some value => some (schema.key field, value)
  | none =>
    match schema.otherKey field with
    | none => none
    | some key => (fields.get? key).map (key, ·)

/-- The keys of an object that give a field. -/
def keysUsed (schema : Schema) (fields : Fields) : List String :=
  schema.fields.filterMap fun field => (schema.locate fields field).map (·.1)

/-- What is wrong with one field of an object. -/
def issuesAt (schema : Schema) (fields : Fields) (field : schema.Field) : List Issue :=
  match schema.locate fields field with
  | some (key, value) => ((schema.read field value).under (.key key)).issues
  | none => if schema.required field then [⟨[.key (schema.key field)], .missing⟩] else []

/-- What is wrong with an object, field by field. -/
def issues (schema : Schema) (fields : Fields) : List Issue :=
  schema.fields.flatMap (schema.issuesAt fields)

/-- The record of an object without issues. -/
def accept (schema : Schema) (fields : Fields) : Record schema where
  given field :=
    (schema.locate fields field).bind fun (_, value) => (schema.read field value).toOption
  extras :=
    let used := schema.keysUsed fields
    fields.filter fun (key, _) => !used.contains key

/-- Reads a record. -/
def decode (schema : Schema) : Json → Reading (Record schema)
  | .object fields =>
    match schema.issues fields with
    | [] => .ok (schema.accept fields)
    | found => .error found
  | _ => .error [.here .notObject]

end Schema

namespace Record
variable {schema : Schema}

/-- The record in which nothing is given. -/
def empty : Record schema := ⟨fun _ => none, []⟩

/-- The value of a field, or its default. -/
def get (record : Record schema) (field : schema.Field) : schema.Value field :=
  (record.given field).getD (schema.default field)

/-- Gives a field a value. -/
def set (record : Record schema) (field : schema.Field) (value : schema.Value field) :
    Record schema :=
  { record with
    given := fun other =>
      match schema.decEq other field with
      | isTrue same => some (same ▸ value)
      | isFalse _ => record.given other }

/-- The member written for a field, if one is written. -/
def member (record : Record schema) (detail : Detail) (field : schema.Field) :
    Option (String × Json) :=
  let value := match detail with
    | .given => record.given field
    | .full => some (record.get field)
  value.map fun value => (schema.key field, schema.write detail field value)

/-- The members of the object written for a record. -/
def fields (record : Record schema) (detail : Detail) : Fields :=
  schema.fields.filterMap (record.member detail) ++ record.extras

/-- Writes a record. -/
def encode (record : Record schema) (detail : Detail) : Json :=
  .object (record.fields detail)

theorem given_set_self (record : Record schema) (field : schema.Field)
    (value : schema.Value field) : (record.set field value).given field = some value := by
  unfold set
  cases decided : schema.decEq field field with
  | isTrue same => simp [decided]
  | isFalse different => exact absurd rfl different

theorem given_set_other (record : Record schema) {field other : schema.Field}
    (value : schema.Value field) (different : other ≠ field) :
    (record.set field value).given other = record.given other := by
  unfold set
  cases decided : schema.decEq other field with
  | isTrue same => exact absurd same different
  | isFalse _ => simp [decided]

end Record
end ThreatAnalysis
