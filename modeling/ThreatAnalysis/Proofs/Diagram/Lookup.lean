import ThreatAnalysis.Proofs.Diagram.RoundTrip
import ThreatAnalysis.Proofs.Expression.AttributeTests
import ThreatAnalysis.Proofs.Expression.Observation
import ThreatAnalysis.Proofs.Record.Renaming

/-!
Attributes looked up by name, compared with what is written for the cell. A lookup knows both keys
of a field, while a field is written under one key only, and what stands under its other key is an
extra like any unknown member. So a lookup by any name shows what is written under one key, the
`place` of that name (`Record.Faithful.readsAt_place`): the name itself unless it is the other key
of a field. There a member that was given beside the field is written under its own name, and a
lookup by that name passes it over for the field.
-/
namespace ThreatAnalysis

/-- An attribute as it is written for a cell. -/
def Attribute.document : Attribute → Json
  | .plain value => value
  | .threats findings => .array (findings.map (·.encode .given))

theorem Attribute.document_ne_null {value found : Attribute}
    (kept : value.present? = some found) : found.document ≠ .null := by
  cases value with
  | threats findings =>
    cases kept
    exact nofun
  | plain value =>
    cases value <;> cases kept <;> exact nofun

namespace Cell

/-- What a lookup by a name answers; null if there is no such attribute. -/
def lookup (cell : Cell) (name : String) : Json :=
  ((cell.attribute? name).map Attribute.document).getD .null

/-- What is written for a cell under a key; null if nothing is. -/
def shown (cell : Cell) (key : String) : Json := ((cell.encode .given).get? key).getD .null

/-- The key under which the attribute of a name is written. -/
def place (name : String) : String :=
  match Field.ofKey? name with
  | some field => field.key
  | none => name

/-- Whatever is asked about the attribute of a name, the answer is about what is written for the
cell under a key. -/
structure ReadsAt [Platform] (cell : Cell) (name key : String) : Prop where
  lookup : cell.lookup name = cell.shown key
  existence (cells : Cells) :
    (Expression.hasProperty name none).holds cells cell = true ↔ cell.shown key ≠ .null
  /-- The text that is compared is the text of the value shown. -/
  test (cells : Cells) (text : String) (noThreats : key ≠ "threats") :
    (Expression.hasProperty name (some text)).holds cells cell = true ↔
      cell.shown key ≠ .null ∧ ∃ written, (Attribute.plain (cell.shown key)).Spells written ∧
        Text.trimmed written = text
  /-- No test tells apart cells that show the same. -/
  alike (cells others : Cells) (other : Cell) (faithful : other.Faithful)
    (same : other.shown key = cell.shown key) (text : Option String) :
    (Expression.hasProperty name text).holds others other =
      (Expression.hasProperty name text).holds cells cell

section Names
variable {field : Field} {name other : String}

theorem Field.ofKey?_key (field : Field) : ofKey? field.key = some field := by
  cases field with
  | endpoint side => cases side <;> rfl
  | flag flag => cases flag <;> rfl
  | _ => rfl

theorem Field.ofKey?_otherKey (second : field.otherKey = some other) :
    ofKey? other = some field := by
  cases field with
  | flag flag =>
    cases second
    cases flag <;> rfl
  | threats =>
    cases second
    rfl
  | _ => cases second

theorem Field.key_ne_of_ofKey? (unknown : Field.ofKey? name = none) (field : Field) :
    field.key ≠ name := by
  intro same
  rw [← same, Field.ofKey?_key] at unknown
  cases unknown

theorem place_of_field (found : Field.ofKey? name = some field) : place name = field.key := by
  rw [place, found]

theorem place_of_unknown (unknown : Field.ofKey? name = none) : place name = name := by
  rw [place, unknown]

theorem place_otherKey (second : field.otherKey = some other) : place other = field.key :=
  place_of_field (Field.ofKey?_otherKey second)

/-- Only the other key of a field is written elsewhere. -/
theorem place_eq_self (single : ∀ field : Field, field.otherKey ≠ some name) :
    place name = name := by
  cases found : Field.ofKey? name with
  | none => exact place_of_unknown found
  | some field =>
    rw [place_of_field found]
    rcases List.mem_cons.mp (Field.key_of_ofKey? found) with same | second
    · exact same.symm
    · exact absurd (Option.mem_toList.mp second) (single field)

end Names

section Attributes
variable {cell other : Cell} {name : String}

theorem attribute?_of_field {field : Field} (found : Field.ofKey? name = some field) :
    cell.attribute? name =
      (cell.given field).bind fun value => (attributeOf field value).present? := by
  rw [attribute?, found]

theorem attribute?_of_unknown (unknown : Field.ofKey? name = none) : cell.attribute? name =
    (cell.extras.get? name).bind fun value => (Attribute.plain value).present? := by
  rw [attribute?, unknown]

theorem shown_key (faithful : cell.Faithful) (field : Field) : cell.shown field.key =
    ((cell.given field).map (schema.write .given field)).getD .null := by
  rw [← faithful.get?_key lawful field]
  rfl

theorem shown_unknown (unknown : Field.ofKey? name = none) :
    cell.shown name = (cell.extras.get? name).getD .null := by
  have written : (cell.encode .given).get? name = cell.extras.get? name := by
    show (cell.fields .given).get? name = _
    rw [Record.fields_given, Fields.get?_append,
      Record.members_get?_unknown lawful (Field.key_ne_of_ofKey? unknown), Option.none_or]
  rw [shown, written]

theorem attributeOf_plain {field : Field} (noThreats : field ≠ .threats) (value : Value field) :
    attributeOf field value = .plain (schema.write .given field value) := by
  cases field with
  | threats => exact absurd rfl noThreats
  | _ => rfl

/-- An attribute other than the threats is what is written at its place. -/
theorem attribute?_plain (faithful : cell.Faithful)
    (noThreats : Field.ofKey? name ≠ some .threats) :
    cell.attribute? name = (Attribute.plain (cell.shown (place name))).present? := by
  cases found : Field.ofKey? name with
  | none =>
    rw [attribute?_of_unknown found, place_of_unknown found, shown_unknown found]
    cases cell.extras.get? name <;> rfl
  | some field =>
    have plain : field ≠ .threats := by
      rintro rfl
      exact noThreats found
    rw [attribute?_of_field found, place_of_field found, shown_key faithful]
    cases cell.given field with
    | none => rfl
    | some value => exact congrArg Attribute.present? (attributeOf_plain plain value)

theorem attribute?_threats (found : Field.ofKey? name = some .threats) :
    cell.attribute? name = (cell.given .threats).map .threats := by
  rw [attribute?_of_field found]
  cases cell.given .threats <;> rfl

/-- Findings that are written alike are the same findings. -/
theorem given_threats_congr (faithful : cell.Faithful) (also : other.Faithful)
    (same : other.shown "threats" = cell.shown "threats") :
    other.given .threats = cell.given .threats := by
  have here := shown_key faithful .threats
  have there := shown_key also .threats
  rw [show Field.threats.key = "threats" from rfl] at here there
  rw [here, there] at same
  cases mine : cell.given .threats with
  | none =>
    cases theirs : other.given .threats with
    | none => rfl
    | some findings =>
      rw [mine, theirs] at same
      cases same
  | some known =>
    cases theirs : other.given .threats with
    | none =>
      rw [mine, theirs] at same
      cases same
    | some findings =>
      rw [mine, theirs] at same
      have read := faithful.reread .threats known mine
      have alsoRead := also.reread .threats findings theirs
      have written : schema.write .given .threats findings =
          schema.write .given .threats known := same
      rw [written, read] at alsoRead
      rw [Except.ok.inj alsoRead]

theorem attribute?_eq_of_shown (faithful : cell.Faithful) (also : other.Faithful)
    (same : other.shown (place name) = cell.shown (place name)) :
    other.attribute? name = cell.attribute? name := by
  by_cases threats : Field.ofKey? name = some .threats
  · rw [place_of_field threats] at same
    rw [attribute?_threats threats, attribute?_threats threats,
      given_threats_congr faithful also same]
  · rw [attribute?_plain also threats, attribute?_plain faithful threats, same]

/-- A lookup answers what is written at the place of the name. -/
theorem lookup_eq_shown (faithful : cell.Faithful) (name : String) :
    cell.lookup name = cell.shown (place name) := by
  unfold lookup
  by_cases threats : Field.ofKey? name = some .threats
  · rw [attribute?_threats threats, place_of_field threats, shown_key faithful]
    cases cell.given .threats <;> rfl
  · rw [attribute?_plain faithful threats]
    cases cell.shown (place name) <;> rfl

/-- Null is no attribute, neither under a field nor among the extras. -/
theorem document_ne_null {found : Attribute} (present : cell.attribute? name = some found) :
    found.document ≠ .null := by
  cases known : Field.ofKey? name with
  | none =>
    rw [attribute?_of_unknown known] at present
    obtain ⟨value, -, kept⟩ := Option.bind_eq_some_iff.mp present
    exact Attribute.document_ne_null kept
  | some field =>
    rw [attribute?_of_field known] at present
    obtain ⟨value, -, kept⟩ := Option.bind_eq_some_iff.mp present
    exact Attribute.document_ne_null kept

theorem lookup_ne_null_iff :
    cell.lookup name ≠ .null ↔ ∃ found, cell.attribute? name = some found := by
  unfold lookup
  cases present : cell.attribute? name with
  | none => simp
  | some found => simp [document_ne_null present]

end Attributes
end Cell

/-- Every question about the attribute of a name is answered from what is written at its place. -/
theorem Record.Faithful.readsAt_place [Platform] {cell : Cell} (faithful : cell.Faithful) (name : String) :
    cell.ReadsAt name (Cell.place name) where
  lookup := Cell.lookup_eq_shown faithful name
  existence cells := by
    rw [← Cell.lookup_eq_shown faithful, Cell.lookup_ne_null_iff]
    exact Expression.propertyHolds_existence_iff
  test cells text noThreats := by
    have plain : Cell.Field.ofKey? name ≠ some .threats := by
      intro found
      exact noThreats (Cell.place_of_field found)
    rw [Expression.holds, Expression.propertyHolds_value_iff, Cell.attribute?_plain faithful plain]
    cases cell.shown (Cell.place name) <;> simp [Attribute.present?]
  alike cells others other also same text := by
    simp only [Expression.holds, Expression.propertyHolds,
      Cell.attribute?_eq_of_shown faithful also same]

namespace Cell

/-- Under the other key of a field stands what was given there beside the field. -/
theorem get?_otherKey {payload : Json} {cell : Cell} (read : Cell.read payload = .ok cell)
    {field : Field} {other : String} (second : field.otherKey = some other) :
    (cell.encode .given).get? other =
      if (payload.get? field.key).isSome then payload.get? other else none := by
  obtain ⟨fields, rfl, -, rfl⟩ := Schema.of_decode read
  have unknown (known : schema.Field) : schema.key known ≠ other := by
    intro same
    exact lawful.otherKey_ne_key field known (second.trans (congrArg some same.symm))
  have single : (schema.aliases.map Prod.snd).Nodup := by decide
  have kept : ((schema.accept fields).encode .given).get? other =
      fields.renamed schema.aliases other := by
    show ((schema.accept fields).fields .given).get? other = _
    rw [Record.fields_given, Fields.get?_append, Record.members_get?_unknown lawful unknown,
      Option.none_or, Schema.renamed_extra lawful single fields unknown]
  rw [kept]
  cases field with
  | flag flag =>
    cases second
    cases flag <;> rfl
  | threats =>
    cases second
    rfl
  | _ => cases second

/-- Of a cell that was read, a lookup by any name but the other key of a field answers what is
written under this name, or null, and a test by this name asks about nothing else. By the other key
of a field, lookup and test are about the field, even where a member that was given beside the field
is written under that key. -/
theorem attributes_as_written [Platform] {payload : Json} {cell : Cell}
    (read : Cell.read payload = .ok cell) :
    (∀ name : String, (∀ field : Field, field.otherKey ≠ some name) → cell.ReadsAt name name) ∧
    ∀ (field : Field) (other : String), field.otherKey = some other →
      cell.ReadsAt other field.key ∧
      (cell.encode .given).get? other =
        if (payload.get? field.key).isSome then payload.get? other else none := by
  have faithful := Schema.faithful_of_decode lawful read
  constructor
  · intro name single
    have reads := faithful.readsAt_place name
    rwa [place_eq_self single] at reads
  · intro field other second
    have reads := faithful.readsAt_place other
    rw [place_otherKey second] at reads
    exact ⟨reads, get?_otherKey read second⟩

open scoped Platform

/-- A cell that gives a flag under one key and something else under the other. -/
def doubledPayload : Json :=
  .object [("id", .string "c"), ("isEncrypted", .bool true), ("is_encrypted", .bool false),
    ("note", .string "kept")]

def doubled : Cell := (Cell.read doubledPayload).toOption.getD Record.empty

theorem doubled_as_written : Cell.read doubledPayload = .ok doubled ∧
    doubled.ReadsAt "note" "note" ∧ doubled.ReadsAt "isEncrypted" "isEncrypted" ∧
    doubled.ReadsAt "is_encrypted" "isEncrypted" ∧
    (doubled.encode .given).get? "is_encrypted" = some (.bool false) := by
  have read : Cell.read doubledPayload = .ok doubled := rfl
  obtain ⟨plain, others⟩ := attributes_as_written read
  have single (name : String) (notIn : name ∉ Field.all.filterMap Field.otherKey) (field : Field) :
      field.otherKey ≠ some name := by
    intro second
    exact notIn (List.mem_filterMap.mpr ⟨field, Field.mem_all field, second⟩)
  obtain ⟨reads, beside⟩ := others (.flag .encrypted) "is_encrypted" rfl
  exact ⟨read, plain "note" (single _ (by decide)), plain "isEncrypted" (single _ (by decide)),
    reads, beside⟩

/-- The cell is written with a false flag under the other key, but found to be true by it. -/
theorem doubled_looked_up_elsewhere : Cell.read doubledPayload = .ok doubled ∧
    (doubled.encode .given).get? "is_encrypted" = some (.bool false) ∧
    doubled.lookup "is_encrypted" = .bool true ∧
    Expression.evaluate [doubled] doubled "hasProperty(is_encrypted, true)" = true ∧
    Expression.evaluate [doubled] doubled "hasProperty(is_encrypted, false)" = false := by
  refine ⟨rfl, rfl, rfl, ?_, ?_⟩ <;> decide +kernel

end Cell
end ThreatAnalysis
