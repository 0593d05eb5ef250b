import ThreatAnalysis.Proofs.CommandLine.Legibility
import ThreatAnalysis.Proofs.CommandLine.Wrapping
import ThreatAnalysis.Proofs.Traversal

/-!
Tables that can be shown. A text without tags has no styles, so that it fits into a cell of any
width, in one line or more (`cell_tagless`). A table of such texts is its title over the lines of
its rows, one row below the other, and no row is without lines (`draw_tagless`). Its lines can be
written if its texts can (`isWritable_of_draw`).
-/
namespace ThreatAnalysis

namespace Terminal
open Markup (Tagless)
variable {text : String} {cells : List String} {rows : List (List String)} {widths : List Nat}

theorem le_foldl_max {sizes : List Nat} {size : Nat} (member : size ∈ sizes) :
    size ≤ sizes.foldl max 0 := by
  rw [List.foldl_max]
  exact (List.le_max?_getD_of_mem member).trans (le_max_right _ _)

theorem mem_of_mem_columns {column : List String} (member : column ∈ columns rows)
    (listed : text ∈ column) : ∃ row ∈ rows, text ∈ row := by
  obtain ⟨place, -, rfl⟩ := List.mem_map.mp member
  obtain ⟨row, within, found⟩ := List.mem_filterMap.mp listed
  exact ⟨row, within, List.mem_of_getElem? found⟩

/-- There is a column for each cell of a row. -/
theorem length_le_columns (within : cells ∈ rows) : cells.length ≤ (columns rows).length := by
  unfold columns
  rw [List.length_map, List.length_range]
  exact le_foldl_max (List.mem_map_of_mem within)

variable [Platform]

theorem readCell_tagless (tagless : Tagless text.toList) :
    readCell text = .ok ⟨Markup.shownText text.toList, []⟩ := by
  have read : Markup.Styled.read text = .ok ⟨Markup.shownText text.toList, []⟩ := by
    unfold Markup.Styled.read
    rw [Markup.parts_tagless tagless]
    unfold Markup.plainPart
    cases text.toList with
    | nil => rfl
    | cons c rest =>
      have ended : Markup.Styled.ofParts [] (0 + (Markup.shownText (c :: rest)).length) [] =
          .ok ⟨[], []⟩ := rfl
      rw [List.isEmpty_cons, if_neg (by decide), Markup.ofParts_text ended, List.append_nil]
  unfold readCell
  rw [read]
  rfl

/-- A text without tags is wrapped into lines. -/
theorem cell_tagless (tagless : Tagless text.toList) (width : Nat) :
    cell width text = .ok ((wrap width (Markup.shownText text.toList)).map fun line =>
      String.ofList line.text) := by
  unfold cell Markup.Styled.check
  simp [readCell_tagless tagless, bind, Except.bind, Except.mapError, pure, Except.pure]

/-- A row without tags has the lines of its highest cell. -/
theorem row_tagless (each : ∀ text ∈ cells, Tagless text.toList) (widths : List Nat) :
    ∃ lines, row widths cells = .ok lines ∧ (widths ≠ [] → cells ≠ [] → lines ≠ []) := by
  have shown : ∀ slot ∈ widths.zip cells, ∃ lines, cell slot.1 slot.2 = .ok lines ∧ lines ≠ [] := by
    intro slot listed
    refine ⟨_, cell_tagless (each slot.2 (List.of_mem_zip listed).2) slot.1, ?_⟩
    simpa using wrap_ne_nil slot.1 (Markup.shownText slot.2.toList)
  obtain ⟨columns, read⟩ : ∃ columns,
      (widths.zip cells).mapM (fun slot => cell slot.1 slot.2) = .ok columns :=
    exists_mapM_iff.mpr fun slot listed => (shown slot listed).imp fun _ given => given.1
  refine ⟨_, by unfold row; rw [read]; rfl, fun wide full => ?_⟩
  have slots : widths.zip cells ≠ [] := by simp [List.zip_eq_nil_iff, wide, full]
  obtain ⟨slot, others, listed⟩ := List.exists_cons_of_ne_nil slots
  rw [listed, List.forall_mem_cons] at shown
  obtain ⟨lines, drawn, some⟩ := shown.1
  rw [listed] at read
  obtain ⟨first, rest, begun, -, rfl⟩ := mapM_cons_ok_iff.mp read
  obtain rfl : lines = first := Except.ok.inj (drawn.symm.trans begun)
  have high : lines.length ≤ ((lines :: rest).map List.length).foldl max 0 :=
    le_foldl_max List.mem_cons_self
  have given := List.length_pos_iff.mpr some
  rw [ne_eq, List.map_eq_nil_iff, List.range_eq_nil]
  omega

theorem columnWidth_tagless (each : ∀ text ∈ cells, Tagless text.toList) :
    ∃ width, columnWidth cells = .ok width := by
  obtain ⟨styles, read⟩ : ∃ styles, cells.mapM readCell = .ok styles :=
    exists_mapM_iff.mpr fun text listed => ⟨_, readCell_tagless (each text listed)⟩
  unfold columnWidth
  rw [read]
  exact ⟨_, rfl⟩

/-- Each column of a table without tags has a width. -/
theorem columnWidths_tagless (each : ∀ row ∈ rows, ∀ text ∈ row, Tagless text.toList) :
    ∃ widths, columnWidths rows = .ok widths ∧ widths.length = (columns rows).length := by
  obtain ⟨needed, measured⟩ : ∃ needed, (columns rows).mapM columnWidth = .ok needed := by
    refine exists_mapM_iff.mpr fun column member => columnWidth_tagless fun text listed => ?_
    obtain ⟨row, within, found⟩ := mem_of_mem_columns member listed
    exact each row within text found
  refine ⟨Platform.columnWidths needed, by unfold columnWidths; rw [measured]; rfl, ?_⟩
  rw [Platform.length_columnWidths, (mapM_ok_iff.mp measured).length_eq]

/-- The rows of a table without tags can be drawn, and a row with cells has a line. -/
theorem draw_tagless (each : ∀ row ∈ rows, ∀ text ∈ row, Tagless text.toList) :
    ∃ widths blocks, columnWidths rows = .ok widths ∧ draw rows = .ok blocks ∧
      List.Forall₂ (fun cells block => row widths cells = .ok block ∧ (cells ≠ [] → block ≠ []))
        rows blocks := by
  obtain ⟨widths, measured, same⟩ := columnWidths_tagless each
  obtain ⟨blocks, read⟩ : ∃ blocks, rows.mapM (row widths) = .ok blocks :=
    exists_mapM_iff.mpr fun cells within =>
      (row_tagless (each cells within) widths).imp fun _ given => given.1
  refine ⟨widths, blocks, measured, by unfold draw; rw [measured]; exact read, ?_⟩
  obtain ⟨long, drawn⟩ := List.forall₂_iff_zip.mp (mapM_ok_iff.mp read)
  refine List.forall₂_iff_zip.mpr ⟨long, fun {cells block} placed => ?_⟩
  have within := (List.of_mem_zip placed).1
  have shown : row widths cells = .ok block := drawn placed
  refine ⟨shown, fun given => ?_⟩
  have wide : widths ≠ [] := by
    have most := length_le_columns within
    have some := List.length_pos_iff.mpr given
    rw [← List.length_pos_iff]
    omega
  obtain ⟨lines, again, nonempty⟩ := row_tagless (each cells within) widths
  obtain rfl : lines = block := Except.ok.inj (again.symm.trans shown)
  exact nonempty wide given

/-! Lines that can be written. -/

theorem isWritable_of_wrap {shown : ColumnLine} (written : Written characters)
    (listed : shown ∈ wrap limit characters) : isWritable (String.ofList shown.text) = true := by
  refine isWritable_iff.mpr fun c member => ?_
  rw [String.toList_ofList] at member
  rcases mem_wrap listed member with source | rfl | rfl
  · exact written c source
  · exact Platform.unit?_own ' ' (by decide)
  · exact Platform.unit?_own '…' (by decide)

theorem isWritable_of_cell {lines : List String} {line : String} (tagless : Tagless text.toList)
    (written : isWritable text = true) (drawn : cell width text = .ok lines)
    (listed : line ∈ lines) : isWritable line = true := by
  rw [← Except.ok.inj ((cell_tagless tagless width).symm.trans drawn)] at listed
  obtain ⟨shown, within, rfl⟩ := List.mem_map.mp listed
  exact isWritable_of_wrap (isWritable_iff.mp written).shownText within

/-- The lines of a row can be written if its texts can. -/
theorem isWritable_of_row {lines : List String} {line : String}
    (each : ∀ text ∈ cells, Tagless text.toList ∧ isWritable text = true)
    (drawn : row widths cells = .ok lines) (listed : line ∈ lines) : isWritable line = true := by
  obtain ⟨columns, read, same⟩ := bind_ok_iff.mp drawn
  cases same
  obtain ⟨place, -, rfl⟩ := List.mem_map.mp listed
  refine isWritable_intercalate (isWritable_of_own (by decide)) fun part within => ?_
  obtain ⟨column, shown, rfl⟩ := List.mem_map.mp within
  obtain ⟨slot, given, made⟩ := exists_of_mem_mapM read shown
  rw [List.getD_eq_getElem?_getD]
  cases found : column[place]? with
  | none => rfl
  | some line =>
    obtain ⟨tagless, written⟩ := each slot.2 (List.of_mem_zip given).2
    exact isWritable_of_cell tagless written made (List.mem_of_getElem? found)

/-- The lines of a table can be written if its texts can. -/
theorem isWritable_of_draw {blocks : List (List String)} {line : String}
    (each : ∀ row ∈ rows, ∀ text ∈ row, Tagless text.toList ∧ isWritable text = true)
    (drawn : draw rows = .ok blocks) (listed : line ∈ blocks.flatten) : isWritable line = true := by
  obtain ⟨widths, -, read⟩ := bind_ok_iff.mp drawn
  obtain ⟨block, shown, within⟩ := List.mem_flatten.mp listed
  obtain ⟨cells, given, made⟩ := exists_of_mem_mapM read shown
  exact isWritable_of_row (each cells given) made within

/-- A table is shown under its title if all of its lines can be written. -/
theorem table_of_writable {blocks : List (List String)} (drawn : draw rows = .ok blocks)
    (written : ∀ line ∈ blocks.flatten, isWritable line = true) (title : String) :
    table title rows = .ok (title :: blocks.flatten) := by
  have none : blocks.flatten.find? (!isWritable ·) = none :=
    List.find?_eq_none.mpr fun line listed => by simp [written line listed]
  unfold table
  simp only [drawn, none, bind, Except.bind, pure, Except.pure]

/-- A table is not shown if one of its lines cannot be written. -/
theorem table_of_unwritable {blocks : List (List String)} {line : String}
    (drawn : draw rows = .ok blocks) (listed : line ∈ blocks.flatten)
    (unwritten : isWritable line = false) (title : String) :
    ∃ failure, table title rows = .error failure := by
  have found : (blocks.flatten.find? (!isWritable ·)).isSome := by
    rw [List.find?_isSome]
    exact ⟨line, listed, by rw [unwritten]; rfl⟩
  obtain ⟨first, reads⟩ := Option.isSome_iff_exists.mp found
  unfold table
  simp only [drawn, reads, bind, Except.bind]
  exact ⟨_, rfl⟩

end Terminal
end ThreatAnalysis
