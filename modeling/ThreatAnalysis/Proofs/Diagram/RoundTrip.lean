import ThreatAnalysis.Diagram.Load
import ThreatAnalysis.Proofs.Record.Reading
import ThreatAnalysis.Proofs.Record.RoundTrip

/-! Diagrams that were read are read again from what is written for them. The three kinds of record
lie within one another, and each schema is lawful because the one inside it is. -/
namespace ThreatAnalysis

namespace Finding

theorem Field.mem_all (field : Field) : field ∈ schema.fields := by
  cases field with
  | text field => exact List.mem_append_left _ (List.mem_map_of_mem (by cases field <;> decide))
  | generated => exact List.mem_append_right _ List.mem_cons_self

theorem reread (field : Field) (value : Value field) (detail : Detail) :
    schema.read field (schema.write detail field value) = .ok value := by
  cases field with
  | text _ => rfl
  | generated => cases value <;> rfl

theorem TextField.read_explained (field : TextField) (document : Json) :
    field.read document ≠ .error [] := by
  cases document with
  | null => exact nofun
  | _ =>
    simp only [TextField.read]
    split <;> exact nofun

theorem lawful : schema.Lawful where
  complete := Field.mem_all
  keys := by decide
  otherKeys := by decide
  reread field _ value _ := reread field value .given
  explained field document := by
    cases field with
    | text field => exact field.read_explained document
    | generated => exact nofun

/-- Texts are written as they are, so that nothing is in the way of reading them again. -/
theorem isTooDeep_encode [Platform] {finding : Finding} (faithful : finding.Faithful) :
    isTooDeep (finding.encode .given) = false := by
  rw [Record.encode, isTooDeep, List.any_eq_false]
  intro field _
  cases given : finding.given (.text field) with
  | none =>
    rw [faithful.locate_absent lawful given]
    exact Bool.false_ne_true
  | some text =>
    rw [Record.locate_given lawful given]
    exact Bool.false_ne_true

end Finding

namespace Cell

theorem Field.mem_all (field : Field) : field ∈ all := by
  cases field with
  | endpoint side => cases side <;> decide
  | flag flag => cases flag <;> decide
  | _ => decide

/-- A list of findings is read back if each finding is. -/
theorem reread_threats {findings : List Finding}
    (each : ∀ finding ∈ findings, Finding.read (finding.encode .given) = .ok finding) :
    schema.read .threats (schema.write .given .threats findings) = .ok findings :=
  Readers.list_reread.mpr each

theorem lawful : schema.Lawful where
  complete := Field.mem_all
  keys := by decide
  otherKeys := by decide
  reread field document value read := by
    cases field with
    | threats =>
      refine reread_threats fun finding member => ?_
      obtain ⟨inner, readInner⟩ := Readers.mem_of_nullableList read member
      exact Finding.lawful.decode_again readInner
    | name => cases value <;> rfl
    | description => cases value <;> rfl
    | flag _ => cases value <;> rfl
    | _ => rfl
  explained field document := by
    cases field with
    | threats => exact Readers.nullableList_explained Schema.decode_explained document
    | name => exact Readers.nullableText_explained document
    | description => exact Readers.nullableText_explained document
    | flag _ => exact Readers.flag_explained document
    | endpoint _ => exact fun refused => nomatch refused
    | _ => cases document <;> exact fun refused => nomatch refused

theorem isTooDeep_encode [Platform] {cell : Cell} (faithful : cell.Faithful) :
    isTooDeep (cell.encode .given) = false := by
  rw [Record.encode, isTooDeep]
  cases given : cell.given .threats with
  | none => rw [faithful.locate_absent lawful given]
  | some findings =>
    rw [Record.locate_given lawful given]
    have reread := Readers.list_reread.mp (faithful.reread .threats findings given)
    refine List.any_eq_false.mpr fun document listed => ?_
    obtain ⟨finding, member, rfl⟩ := List.mem_map.mp listed
    have inner := Schema.faithful_of_decode Finding.lawful (reread finding member)
    rw [Finding.isTooDeep_encode inner]
    exact Bool.false_ne_true

/-- The findings of a cell that is read back are read back themselves. -/
theorem findings_reread {cell : Cell} (faithful : cell.Faithful) {finding : Finding}
    (member : finding ∈ cell.findings) : Finding.read (finding.encode .given) = .ok finding := by
  rcases cell.get_cases .threats with absent | given
  · rw [Cell.findings, absent] at member
    cases member
  · exact Readers.list_reread.mp (faithful.reread .threats _ given) finding member

end Cell

namespace Diagram

theorem Field.mem_all (field : Field) : field ∈ schema.fields := by
  cases field
  · exact List.mem_cons_self
  · exact List.mem_cons_of_mem _ List.mem_cons_self

theorem reread_cells {cells : List Cell}
    (each : ∀ cell ∈ cells, Cell.read (cell.encode .given) = .ok cell) :
    schema.read .cells (schema.write .given .cells cells) = .ok cells :=
  Readers.list_reread.mpr each

theorem lawful : schema.Lawful where
  complete := Field.mem_all
  keys := by decide
  otherKeys := by decide
  reread field document value read := by
    cases field with
    | title => rfl
    | cells =>
      refine reread_cells fun cell member => ?_
      obtain ⟨inner, readInner⟩ := Readers.mem_of_list read member
      exact Cell.lawful.decode_again readInner
  explained field document := by
    cases field with
    | title => cases document <;> exact fun refused => nomatch refused
    | cells => exact Readers.list_explained Schema.decode_explained document

theorem given_cells {diagram : Diagram} (faithful : diagram.Faithful) :
    diagram.given .cells = some diagram.cells := by
  unfold Diagram.cells Record.get
  cases given : diagram.given .cells with
  | none => cases faithful.required .cells given
  | some cells => rfl

theorem cells_reread {diagram : Diagram} (faithful : diagram.Faithful) {cell : Cell}
    (member : cell ∈ diagram.cells) : Cell.read (cell.encode .given) = .ok cell :=
  Readers.list_reread.mp (faithful.reread .cells _ (given_cells faithful)) cell member

variable [Platform]

theorem decode_of_read {payload : Json} {diagram : Diagram}
    (read : Diagram.read payload = .ok diagram) : schema.decode payload = .ok diagram := by
  unfold Diagram.read at read
  split at read
  · split at read
    · cases read
    · exact ok_of_mapError read
  · cases read
  · cases read

theorem parse_eq_ok_iff {payload : Json} {diagram : Diagram} :
    parse payload = .ok diagram ↔ Diagram.read payload = .ok diagram := by
  refine ⟨ok_of_mapError, fun read => ?_⟩
  rw [parse, read]
  rfl

theorem faithful_of_read {payload : Json} {diagram : Diagram}
    (read : Diagram.read payload = .ok diagram) : diagram.Faithful :=
  Schema.faithful_of_decode lawful (decode_of_read read)

/-- A faithful diagram is written with an array of cells, as reading demands. -/
theorem read_encode {diagram : Diagram} (faithful : diagram.Faithful) :
    Diagram.read (diagram.encode .given) = .ok diagram := by
  have cells : cellsOf (diagram.encode .given) =
      some (.array (diagram.cells.map (·.encode .given))) := by
    have found := diagram.members_get?_key lawful .cells
    rw [given_cells faithful] at found
    unfold cellsOf
    show ((diagram.fields .given).get? (schema.key .cells)).or _ = _
    rw [Record.fields_given, Fields.get?_append, found]
    rfl
  have decoded := faithful.decode_encode lawful
  have shallow : (diagram.cells.map (·.encode .given)).any Cell.isTooDeep = false := by
    refine List.any_eq_false.mpr fun document listed => ?_
    obtain ⟨cell, member, rfl⟩ := List.mem_map.mp listed
    have inner := Schema.faithful_of_decode Cell.lawful (cells_reread faithful member)
    rw [Cell.isTooDeep_encode inner]
    exact Bool.false_ne_true
  unfold Diagram.read
  unfold Record.encode at cells decoded shallow ⊢
  simp only [cells, decoded, shallow, Except.mapError, Bool.false_eq_true, if_false]

end Diagram
end ThreatAnalysis
