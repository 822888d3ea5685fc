import HostOverlay.Proofs.Text.Table
import HostOverlay.Workbench.Report
import Mathlib.Data.List.Forall2

/-!
# The table of resolutions, line by line

The table says what became of each specifier, so it is of use only when nothing is cut off and the
columns stand below one another.  Both come from the three widths of the columns: `ColumnWidths.Fit`
says where they are taken from, and borders and rows are drawn by the same three.

* `ColumnWidths.border`, `ColumnWidths.Shows`: what the lines look like.
* `resolutionTable_spec`: the table is made of such lines, one for each row, all equally wide.
-/

set_option autoImplicit false

namespace HostOverlay.Workbench

open Text Text.Table

/-- The titles of the columns, as a row. -/
def columnTitles : ResolutionRow := ⟨"Specifier", "Resolved", "Extension"⟩

/-- The ends and the crossings of the three borders. -/
def corners : List (String × String × String) :=
  [("╭", "┬", "╮"), ("├", "┼", "┤"), ("╰", "┴", "╯")]

/-- The widths of the three columns, without the blanks on either side. -/
structure ColumnWidths where
  specifier : Nat
  resolved : Nat
  extension : Nat

namespace ColumnWidths

/-- The widths, from left to right. -/
def toList (w : ColumnWidths) : List Nat := [w.specifier, w.resolved, w.extension]

/-- The width of a line: each column with two blanks, and a stroke on either side of each. -/
def total (w : ColumnWidths) : Nat := w.specifier + w.resolved + w.extension + 10

/-- Every column is as wide as the widest of its cells. -/
structure Fit (w : ColumnWidths) (rows : List ResolutionRow) : Prop where
  specifier : (rows.map fun r ↦ width r.specifier).max? = some w.specifier
  resolved : (rows.map fun r ↦ width r.resolved).max? = some w.resolved
  extension : (rows.map fun r ↦ width r.extension).max? = some w.extension

/-- A border: its two ends, and a bar for each column with crossings between them. -/
def border (w : ColumnWidths) (left cross right : String) : String :=
  left ++ repeated (w.specifier + 2) '─' ++ cross ++ repeated (w.resolved + 2) '─' ++ cross
    ++ repeated (w.extension + 2) '─' ++ right

/-- The line shows the three cells of a row as they are, each filled up to its column, between
strokes and with a blank on either side. -/
def Shows (w : ColumnWidths) (r : ResolutionRow) (line : String) : Prop :=
  ∃ specifier resolved extension,
    Fills w.specifier r.specifier specifier ∧ Fills w.resolved r.resolved resolved ∧
      Fills w.extension r.extension extension ∧
      line = "│ " ++ specifier ++ " │ " ++ resolved ++ " │ " ++ extension ++ " │"

variable {w : ColumnWidths} {r : ResolutionRow}

/-! ## The width of a line -/

theorem width_border {left cross right : String} (h : (left, cross, right) ∈ corners) :
    width (w.border left cross right) = w.total := by
  have hcorners : ∀ c ∈ corners, width c.1 = 1 ∧ width c.2.1 = 1 ∧ width c.2.2 = 1 := by
    decide +kernel
  have hbar : charWidth '─' = 1 := by decide +kernel
  obtain ⟨hleft, hcross, hright⟩ := hcorners _ h
  simp only [border, total, width_append, width_repeated, hleft, hcross, hright, hbar]
  omega

theorem Shows.width_eq {line : String} (h : w.Shows r line) : width line = w.total := by
  obtain ⟨specifier, resolved, extension, hspecifier, hresolved, hextension, rfl⟩ := h
  have hleft : width "│ " = 2 := by decide +kernel
  have hbetween : width " │ " = 3 := by decide +kernel
  have hright : width " │" = 2 := by decide +kernel
  simp only [total, width_append, hspecifier.width_eq, hresolved.width_eq, hextension.width_eq,
    hleft, hbetween, hright]
  omega

/-! ## No breaks inside a line -/

theorem isOneLine_border {left cross right : String} (h : (left, cross, right) ∈ corners) :
    IsOneLine (w.border left cross right) := by
  have hcorners : ∀ c ∈ corners, IsOneLine c.1 ∧ IsOneLine c.2.1 ∧ IsOneLine c.2.2 := by decide
  have hbar (n : Nat) : IsOneLine (repeated n '─') := isOneLine_repeated (by decide) n
  obtain ⟨hleft, hcross, hright⟩ := hcorners _ h
  simp [border, hleft, hcross, hright, hbar]

theorem Shows.isOneLine {line : String} (h : w.Shows r line)
    (hcells : ∀ cell ∈ r.cells, IsOneLine cell) : IsOneLine line := by
  obtain ⟨specifier, resolved, extension, hspecifier, hresolved, hextension, rfl⟩ := h
  have hfirst := hspecifier.isOneLine (hcells _ (by simp [ResolutionRow.cells]))
  have hsecond := hresolved.isOneLine (hcells _ (by simp [ResolutionRow.cells]))
  have hthird := hextension.isOneLine (hcells _ (by simp [ResolutionRow.cells]))
  have hleft : IsOneLine "│ " := by decide
  have hbetween : IsOneLine " │ " := by decide
  have hright : IsOneLine " │" := by decide
  simp only [isOneLine_append, hfirst, hsecond, hthird, hleft, hbetween, hright, and_self]

/-! ## What is drawn -/

theorem rule_toList (left cross right : String) :
    rule left cross right w.toList = w.border left cross right := by
  apply String.toList_injective
  simp [rule, toList, border]

/-- In a column that is wide enough for all its cells, each of them is shown. -/
theorem Fit.shows_textLine {rows : List ResolutionRow} (h : w.Fit rows) (hr : r ∈ rows) :
    w.Shows r (textLine w.toList r.cells) := by
  have hspecifier := (List.max?_eq_some_iff.1 h.specifier).2 _ (List.mem_map_of_mem hr)
  have hresolved := (List.max?_eq_some_iff.1 h.resolved).2 _ (List.mem_map_of_mem hr)
  have hextension := (List.max?_eq_some_iff.1 h.extension).2 _ (List.mem_map_of_mem hr)
  refine ⟨_, _, _, fills_padded hspecifier, fills_padded hresolved, fills_padded hextension, ?_⟩
  apply String.toList_injective
  simp [textLine, toList, ResolutionRow.cells]

/-- The widths that the columns get do fit. -/
theorem exists_fit {r : ResolutionRow} {rs : List ResolutionRow}
    (h : ∀ r' ∈ r :: rs, ∀ cell ∈ r'.cells, IsOneLine cell) :
    ∃ w : ColumnWidths, w.Fit (r :: rs) ∧
      columnWidths ((r :: rs).map ResolutionRow.cells) = w.toList := by
  let widest (field : ResolutionRow → String) : Nat :=
    (rs.map fun r ↦ cellWidth (field r)).foldl max (cellWidth (field r))
  have hwidest (field : ResolutionRow → String) (hfield : ∀ r, field r ∈ r.cells) :
      ((r :: rs).map fun r ↦ width (field r)).max? = some (widest field) := by
    have hcells : ((r :: rs).map fun r ↦ width (field r)) =
        (r :: rs).map fun r ↦ cellWidth (field r) :=
      List.map_congr_left fun r' hr' ↦ (cellWidth_of_isOneLine (h r' hr' _ (hfield r'))).symm
    rw [hcells]
    exact List.max?_cons'
  refine ⟨⟨widest (·.specifier), widest (·.resolved), widest (·.extension)⟩, ⟨?_, ?_, ?_⟩, ?_⟩
  · exact hwidest _ (by simp [ResolutionRow.cells])
  · exact hwidest _ (by simp [ResolutionRow.cells])
  · exact hwidest _ (by simp [ResolutionRow.cells])
  · have hcells : ResolutionRow.cells = fun r ↦
        [ResolutionRow.specifier, ResolutionRow.resolved, ResolutionRow.extension].map
          fun field ↦ field r := rfl
    rw [hcells, columnWidths_map]
    rfl

end ColumnWidths

section

variable {w : ColumnWidths} {rows : List ResolutionRow}
  (hw : columnWidths ((columnTitles :: rows).map ResolutionRow.cells) = w.toList)
  (h : ∀ r ∈ columnTitles :: rows, ∀ cell ∈ r.cells, IsOneLine cell)

include hw h

/-- The lines of a table are its borders and one line for each row, the titles among them. -/
theorem lines_resolutionHeader :
    lines resolutionHeader (rows.map ResolutionRow.cells) =
      [w.border "╭" "┬" "╮", textLine w.toList columnTitles.cells, w.border "├" "┼" "┤"]
        ++ rows.map (fun r ↦ textLine w.toList r.cells) ++ [w.border "╰" "┴" "╯"] := by
  have hrows : ∀ row ∈ (columnTitles :: rows).map ResolutionRow.cells,
      row ≠ [] ∧ ∀ cell ∈ row, IsOneLine cell := by
    intro row hrow
    obtain ⟨r, hr, rfl⟩ := List.mem_map.1 hrow
    exact ⟨by simp [ResolutionRow.cells], h r hr⟩
  have hlines := lines_of_isOneLine (fun row hrow ↦ (hrows row hrow).1)
    fun row hrow ↦ (hrows row hrow).2
  simp only [← List.map_cons, hw, ColumnWidths.rule_toList] at hlines
  rw [show resolutionHeader = columnTitles.cells from rfl, hlines, List.map_map]
  rfl

/-- What holds of the borders and of every line that shows a row holds of all lines. -/
theorem forall_mem_lines {p : String → Prop}
    (hborder : ∀ left cross right, (left, cross, right) ∈ corners → p (w.border left cross right))
    (hrow : ∀ r ∈ columnTitles :: rows, p (textLine w.toList r.cells)) :
    ∀ line ∈ lines resolutionHeader (rows.map ResolutionRow.cells), p line := by
  obtain ⟨htitle, hdata⟩ := List.forall_mem_cons.1 hrow
  rw [lines_resolutionHeader hw h]
  simp only [List.forall_mem_append, List.forall_mem_cons, List.forall_mem_map]
  exact ⟨⟨⟨hborder _ _ _ (by decide), htitle, hborder _ _ _ (by decide), by simp⟩, hdata⟩,
    hborder _ _ _ (by decide), by simp⟩

end

/-- **The table shows every row completely and aligned.**  It has a border, the titles, a border, a
line for each row in their order, and a border.  Each row is shown as it is, in columns that are as
wide as the widest of their cells, so that all lines are equally wide. -/
theorem resolutionTable_spec {rows : List ResolutionRow} (hne : rows ≠ [])
    (h : ∀ r ∈ rows, ∀ cell ∈ r.cells, IsOneLine cell) :
    let lines := ((resolutionTable rows).toList.splitOn '\n').map String.ofList
    ∃ (w : ColumnWidths) (title : String) (data : List String),
      w.Fit (columnTitles :: rows) ∧
        lines = [w.border "╭" "┬" "╮", title, w.border "├" "┼" "┤"] ++ data
          ++ [w.border "╰" "┴" "╯"] ∧
        w.Shows columnTitles title ∧ List.Forall₂ w.Shows rows data ∧
        lines.length = rows.length + 4 ∧ ∀ line ∈ lines, width line = w.total := by
  intro lines
  have hcells : ∀ r ∈ columnTitles :: rows, ∀ cell ∈ r.cells, IsOneLine cell :=
    List.forall_mem_cons.2 ⟨by decide, h⟩
  obtain ⟨w, hfit, hw⟩ := ColumnWidths.exists_fit hcells
  have hshows (r : ResolutionRow) (hr : r ∈ columnTitles :: rows) :
      w.Shows r (textLine w.toList r.cells) := hfit.shows_textLine hr
  have hbreak : ∀ line ∈ Table.lines resolutionHeader (rows.map ResolutionRow.cells),
      IsOneLine line :=
    forall_mem_lines hw hcells (fun _ _ _ ↦ ColumnWidths.isOneLine_border)
      fun r hr ↦ (hshows r hr).isOneLine (hcells r hr)
  have hwidth : ∀ line ∈ Table.lines resolutionHeader (rows.map ResolutionRow.cells),
      width line = w.total :=
    forall_mem_lines hw hcells (fun _ _ _ ↦ ColumnWidths.width_border)
      fun r hr ↦ (hshows r hr).width_eq
  have hrender : resolutionTable rows =
      render resolutionHeader (rows.map ResolutionRow.cells) := if_neg (by simpa using hne)
  have hlines : lines = Table.lines resolutionHeader (rows.map ResolutionRow.cells) := by
    rw [← splitOn_render hbreak, ← hrender]
  have hdrawn := hlines.trans (lines_resolutionHeader hw hcells)
  refine ⟨w, _, _, hfit, hdrawn, hshows _ List.mem_cons_self, ?_, ?_, fun line hline ↦ ?_⟩
  · exact List.forall₂_map_right_iff.2
      (List.forall₂_same.2 fun r hr ↦ hshows r (List.mem_cons_of_mem _ hr))
  · rw [hdrawn]
    simp
  · exact hwidth line (hlines ▸ hline)

/-- Two rows with wide letters and with a mark that takes no column: six lines of 38 columns. -/
theorem resolutionTable_spec_of_wide_cells :
    let rows : List ResolutionRow := [⟨"日本語.tzen", "/p/é", ".d.ts"⟩, ⟨"e\u0301", "", "-"⟩]
    let lines := ((resolutionTable rows).toList.splitOn '\n').map String.ofList
    (rows ≠ [] ∧ ∀ r ∈ rows, ∀ cell ∈ r.cells, IsOneLine cell) ∧
      lines.length = 6 ∧ ∀ line ∈ lines, width line = 38 := by
  intro rows lines
  have hne : rows ≠ [] := by decide
  have hcells : ∀ r ∈ rows, ∀ cell ∈ r.cells, IsOneLine cell := by decide
  obtain ⟨w, title, data, hfit, -, -, -, hlength, hwidth⟩ := resolutionTable_spec hne hcells
  have hspecifier : ((columnTitles :: rows).map fun r ↦ width r.specifier).max? = some 11 := by
    decide +kernel
  have hresolved : ((columnTitles :: rows).map fun r ↦ width r.resolved).max? = some 8 := by
    decide +kernel
  have hextension : ((columnTitles :: rows).map fun r ↦ width r.extension).max? = some 9 := by
    decide +kernel
  obtain rfl : w = ⟨11, 8, 9⟩ := by
    have hfirst := Option.some.inj (hfit.specifier.symm.trans hspecifier)
    have hsecond := Option.some.inj (hfit.resolved.symm.trans hresolved)
    have hthird := Option.some.inj (hfit.extension.symm.trans hextension)
    cases w
    simp_all only
  exact ⟨⟨hne, hcells⟩, hlength, hwidth⟩

end HostOverlay.Workbench
