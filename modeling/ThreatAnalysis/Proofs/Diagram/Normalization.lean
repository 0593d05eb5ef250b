import ThreatAnalysis.Proofs.Diagram.RoundTrip
import ThreatAnalysis.Proofs.Record.Flags
import ThreatAnalysis.Proofs.Record.Renaming

/-!
What is written for a diagram that was read, compared with the document it was read from. The
normal form of a document is described apart from reading and writing: which keys are renamed, and
what becomes of the value under each key, for findings, cells and diagrams. That the document
written is the normal form of the one read follows level by level from what holds of records of any
kind.
-/
namespace ThreatAnalysis

/-- One document is another one, both objects, with its members renamed and its values changed. -/
def Json.Rewritten (aliases : List (String × String)) (value : String → Json → Json → Prop) :
    Json → Json → Prop
  | .object before, .object after => Fields.Rewritten aliases value before after
  | _, _ => False

/-- The document written for a record that was read is the one it was read from, rewritten. -/
theorem Schema.rewritten_of_decode {schema : Schema} {record : Record schema} {document : Json}
    {aliases : List (String × String)} {value : String → Json → Json → Prop}
    (lawful : schema.Lawful) (table : schema.aliases = aliases)
    (single : (aliases.map Prod.snd).Nodup) (read : schema.decode document = .ok record)
    (held : ∀ field document known, schema.read field document = .ok known →
      value (schema.key field) document (schema.write .given field known))
    (kept : ∀ key document, (∀ field, schema.key field ≠ key) → value key document document) :
    document.Rewritten aliases value (record.encode .given) := by
  obtain ⟨fields, rfl, accepted, rfl⟩ := Schema.of_decode read
  subst table
  exact Schema.rewritten lawful single accepted held kept

theorem Readers.text_eq_ok_iff {document : Json} {value : String} :
    text document = .ok value ↔ document = .string value := by
  cases document <;> simp [text]

/-- If every item that is read is written in a form, so is every list of items. -/
theorem Readers.forall₂_of_list {α : Type} {read : Json → Reading α} {write : α → Json}
    {form : Json → Json → Prop}
    (each : ∀ document value, read document = .ok value → form document (write value))
    {documents : List Json} {values : List α}
    (succeeded : list read (.array documents) = .ok values) :
    List.Forall₂ form documents (values.map write) := by
  rw [List.forall₂_map_right_iff]
  exact (items_ok_iff.mp succeeded).imp each

namespace Finding

/-- The keys of a finding, each with the other one that stands for it. -/
def aliases : List (String × String) :=
  [("type", "category"), ("modelType", "subject_type"), ("generatedBy", "origin"),
    ("isGenerated", "synthetic")]

/-- What becomes of the value under a key of a finding. -/
inductive NormalValue : String → Json → Json → Prop where
  /-- Null stands for the default of a text. -/
  | default (field : TextField) : NormalValue field.key .null (.string field.default)
  | text (field : TextField) (value : Json) (given : value ≠ .null) :
      NormalValue field.key value (.string value.text)
  | generated : NormalValue "isGenerated" (.bool true) (.bool true)
  /-- Nothing but true says that a finding was generated. -/
  | byHand (value : Json) (different : value ≠ .bool true) :
      NormalValue "isGenerated" value (.bool false)
  | kept (key : String) (value : Json) (noText : ∀ field : TextField, field.key ≠ key)
      (noMark : key ≠ "isGenerated") : NormalValue key value value

/-- The normal form of the document of a finding. -/
def NormalForm : Json → Json → Prop := Json.Rewritten aliases NormalValue

/-- Any value but null is read as its text form. -/
theorem TextField.text_of_read {field : TextField} {document : Json} {text : String}
    (given : document ≠ .null) (read : field.read document = .ok text) : text = document.text := by
  cases document with
  | null => exact absurd rfl given
  | _ =>
    simp only [TextField.read] at read
    split at read
    · cases read
    · exact (Except.ok.inj read).symm

theorem written_normalForm {document : Json} {finding : Finding}
    (read : Finding.read document = .ok finding) :
    NormalForm document (finding.encode .given) := by
  refine Schema.rewritten_of_decode lawful rfl (by decide) read ?_ ?_
  · intro field document known read
    cases field with
    | text field =>
      rcases eq_or_ne document .null with rfl | given
      · cases read
        exact .default field
      · obtain rfl := TextField.text_of_read given read
        exact .text field document given
    | generated =>
      cases read
      cases document with
      | bool flag =>
        cases flag with
        | true => exact .generated
        | false => exact .byHand _ nofun
      | _ => exact .byHand _ nofun
  · intro key document unknown
    exact .kept key document (fun field => unknown (.text field)) (unknown .generated).symm

end Finding

namespace Cell

/-- The keys of a cell, each with the other one that stands for it. -/
def aliases : List (String × String) :=
  [("isEncrypted", "is_encrypted"), ("isPublicNetwork", "is_public_network"),
    ("isPublicFacing", "is_public_facing"), ("outOfScope", "out_of_scope"),
    ("threats", "findings"), ("hasOpenThreats", "has_open_findings")]

/-- What becomes of the value under a key of a cell. -/
inductive NormalValue : String → Json → Json → Prop where
  | flag (flag : Flag) (value : Json) (held : Option Bool)
      (stands : Readers.StandsFor value held) : NormalValue flag.key value (nullableFlag held)
  | noThreats : NormalValue "threats" .null (.array [])
  | threats (documents written : List Json)
      (each : List.Forall₂ Finding.NormalForm documents written) :
      NormalValue "threats" (.array documents) (.array written)
  | kept (key : String) (value : Json) (noFlag : ∀ flag : Flag, flag.key ≠ key)
      (noThreats : key ≠ "threats") : NormalValue key value value

/-- The normal form of the document of a cell. -/
def NormalForm : Json → Json → Prop := Json.Rewritten aliases NormalValue

theorem nullableText_eq_ok_iff {document : Json} {text : Option String} :
    Readers.nullableText document = .ok text ↔ document = nullable text := by
  constructor
  · intro read
    cases document <;> cases read <;> rfl
  · rintro rfl
    cases text <;> rfl

theorem Field.key_injective : Function.Injective Field.key :=
  @Schema.Lawful.key_injective schema lawful

theorem kept_field (field : Field) (document : Json) (noFlag : ∀ flag, field ≠ .flag flag)
    (noThreats : field ≠ .threats) : NormalValue field.key document document := by
  refine .kept field.key document (fun flag same => ?_) fun same => ?_
  · exact noFlag flag (@Field.key_injective (.flag flag) field same).symm
  · exact noThreats (@Field.key_injective field .threats same)

theorem written_normalForm {document : Json} {cell : Cell} (read : Cell.read document = .ok cell) :
    NormalForm document (cell.encode .given) := by
  refine Schema.rewritten_of_decode lawful rfl (by decide) read ?_ ?_
  · intro field document known read
    cases field with
    | flag flag => exact .flag flag document known (Readers.flag_eq_ok_iff.mp read)
    | threats =>
      cases document with
      | null =>
        cases read
        exact .noThreats
      | array documents =>
        exact .threats documents _
          (Readers.forall₂_of_list (fun _ _ => Finding.written_normalForm) read)
      | _ => cases read
    | endpoint side =>
      cases read
      exact kept_field (.endpoint side) document nofun nofun
    | id => exact Readers.text_eq_ok_iff.mp read ▸ kept_field .id _ nofun nofun
    | type => exact Readers.text_eq_ok_iff.mp read ▸ kept_field .type _ nofun nofun
    | name => exact nullableText_eq_ok_iff.mp read ▸ kept_field .name _ nofun nofun
    | description => exact nullableText_eq_ok_iff.mp read ▸ kept_field .description _ nofun nofun
  · intro key document unknown
    exact .kept key document (fun flag => unknown (.flag flag)) (unknown .threats).symm

end Cell

namespace Diagram

/-- The keys of a diagram, each with the other one that stands for it. -/
def aliases : List (String × String) := [("cells", "nodes")]

/-- What becomes of the value under a key of a diagram. -/
inductive NormalValue : String → Json → Json → Prop where
  | cells (documents written : List Json)
      (each : List.Forall₂ Cell.NormalForm documents written) :
      NormalValue "cells" (.array documents) (.array written)
  | kept (key : String) (value : Json) (noCells : key ≠ "cells") : NormalValue key value value

/-- The normal form of the document of a diagram. -/
def NormalForm : Json → Json → Prop := Json.Rewritten aliases NormalValue

/-- Of every payload that is accepted the normal form is written: apart from the renamed keys and
the values of flags, threats, texts and marks, everything is kept, nothing is added and nothing is
lost. -/
theorem written_as_normal_form [Platform] {payload : Json} {diagram : Diagram}
    (read : Diagram.read payload = .ok diagram) : NormalForm payload (diagram.encode .given) := by
  refine Schema.rewritten_of_decode lawful rfl (by decide) (decode_of_read read) ?_ ?_
  · intro field document known read
    cases field with
    | title => exact Readers.text_eq_ok_iff.mp read ▸ .kept "title" _ (by decide)
    | cells =>
      cases document with
      | array documents =>
        exact .cells documents _ (Readers.forall₂_of_list (fun _ _ => Cell.written_normalForm) read)
      | _ => cases read
  · intro key document unknown
    exact .kept key document (unknown .cells).symm

open scoped Platform

/-- A payload with names of both kinds and values of every kind that changes. -/
def variedPayload : Json :=
  .object [("owner", .null), ("nodes", .array [.object [("is_encrypted", .string "YES"),
    ("isPublicNetwork", .int 1), ("is_public_network", .string "kept"), ("id", .string "a"),
    ("findings", .array [.object [("category", .null), ("title", .int 7),
      ("synthetic", .bool true), ("note", .array [])]])],
    .object [("id", .string "b"), ("threats", .null), ("out_of_scope", .null)]])]

def variedDiagram : Diagram := (Diagram.read variedPayload).toOption.getD Record.empty

/-- The number becomes the text of its digits, and null the name of the default. -/
theorem varied_normalForm : Diagram.read variedPayload = .ok variedDiagram ∧
    variedDiagram.encode .given = .object [("cells", .array [
      .object [("id", .string "a"), ("isEncrypted", .bool true), ("isPublicNetwork", .bool true),
        ("threats", .array [.object [("title", .string "7"), ("type", .string "Undefined"),
          ("isGenerated", .bool true), ("note", .array [])]]),
        ("is_public_network", .string "kept")],
      .object [("id", .string "b"), ("outOfScope", .null), ("threats", .array [])]]),
      ("owner", .null)] ∧
    NormalForm variedPayload (variedDiagram.encode .given) := by
  have read : Diagram.read variedPayload = .ok variedDiagram := rfl
  exact ⟨read, rfl, written_as_normal_form read⟩

end Diagram
end ThreatAnalysis
