import HostOverlay.Text.Table
import Mathlib.Data.List.Basic

/-!
# How a table is drawn

A table whose cells have one line each is drawn with one line for each row.  The widths of its
columns are taken from all of its cells before anything is drawn, and the cells are then filled up
to them.

* `columnWidths_map`: a column is as wide as the widest of its cells.
* `Fills`, `fills_padded`: a cell as it is drawn.
* `lines_of_isOneLine`: the lines that are drawn.
* `splitOn_render`: they are the lines of the text.
-/

set_option autoImplicit false

namespace HostOverlay.Text

/-! ## Width -/

/-- What was counted before comes on top of the width. -/
theorem foldl_charWidth (cs : List Char) (n : Nat) :
    cs.foldl (fun n c ↦ n + charWidth c) n = n + width (String.ofList cs) := by
  rw [width, String.toList_ofList]
  induction cs generalizing n with
  | nil => rfl
  | cons c cs ih =>
    rw [List.foldl_cons, List.foldl_cons, ih, ih (0 + charWidth c)]
    omega

theorem width_cons (c : Char) (cs : List Char) :
    width (String.ofList (c :: cs)) = charWidth c + width (String.ofList cs) := by
  rw [width, String.toList_ofList, List.foldl_cons, foldl_charWidth, Nat.zero_add]

@[simp] theorem width_append (s t : String) : width (s ++ t) = width s + width t := by
  rw [width, String.toList_append, List.foldl_append, foldl_charWidth, String.ofList_toList]
  rfl

/-! ## Texts of one line -/

/-- The text has no line break. -/
def IsOneLine (s : String) : Prop :=
  '\n' ∉ s.toList

instance (s : String) : Decidable (IsOneLine s) :=
  inferInstanceAs (Decidable (_ ∉ _))

@[simp] theorem isOneLine_append {s t : String} :
    IsOneLine (s ++ t) ↔ IsOneLine s ∧ IsOneLine t := by
  rw [IsOneLine, String.toList_append, List.mem_append, not_or]
  rfl

namespace Table

theorem width_repeated (n : Nat) (c : Char) : width (repeated n c) = n * charWidth c := by
  induction n with
  | zero => exact (Nat.zero_mul _).symm
  | succ n ih =>
    rw [repeated, List.replicate_succ, width_cons, show String.ofList _ = repeated n c from rfl, ih,
      Nat.succ_mul, Nat.add_comm]

theorem isOneLine_repeated {c : Char} (hc : c ≠ '\n') (n : Nat) : IsOneLine (repeated n c) := by
  rw [IsOneLine, repeated, String.toList_ofList]
  exact fun hmem ↦ hc (List.eq_of_mem_replicate hmem).symm

/-! ## Cells -/

/-- The text `shown` is the cell with as many blanks behind it as make it `w` columns wide. -/
structure Fills (w : Nat) (cell shown : String) : Prop where
  exists_eq : ∃ n, shown = cell ++ repeated n ' '
  width_eq : width shown = w

theorem fills_padded {w : Nat} {cell : String} (h : width cell ≤ w) :
    Fills w cell (padded w cell) := by
  refine ⟨⟨w - width cell, rfl⟩, ?_⟩
  rw [padded, width_append, width_repeated, show charWidth ' ' = 1 by decide]
  omega

section

variable {cell : String} (h : IsOneLine cell)

include h

theorem cellLines_of_isOneLine : cellLines cell = [cell] := by
  rw [cellLines, List.splitOn_eq_singleton h, List.map_singleton, String.ofList_toList]

theorem cellWidth_of_isOneLine : cellWidth cell = width cell := by
  rw [cellWidth, cellLines_of_isOneLine h]
  simp

theorem Fills.isOneLine {w : Nat} {shown : String} (hfills : Fills w cell shown) :
    IsOneLine shown := by
  obtain ⟨n, rfl⟩ := hfills.exists_eq
  exact isOneLine_append.2 ⟨h, isOneLine_repeated (by decide) n⟩

end

/-! ## Columns -/

/-- **A column is as wide as the widest of its cells**, for rows that come from records by a list of
fields. -/
theorem columnWidths_map {α : Type} (fields : List (α → String)) (r : α) (rs : List α) :
    columnWidths ((r :: rs).map fun r ↦ fields.map fun field ↦ field r) =
      fields.map fun field ↦
        (rs.map fun r ↦ cellWidth (field r)).foldl max (cellWidth (field r)) := by
  -- the widths so far, whatever they are, against the rows that are left
  have hfold (rs : List α) (widest : (α → String) → Nat) :
      (rs.map fun r ↦ fields.map fun field ↦ field r).foldl
        (fun widths row ↦ List.zipWith max widths (row.map cellWidth)) (fields.map widest) =
      fields.map fun field ↦ (rs.map fun r ↦ cellWidth (field r)).foldl max (widest field) := by
    induction rs generalizing widest with
    | nil => rfl
    | cons r rs ih =>
      have hstep : List.zipWith max (fields.map widest)
          ((fields.map fun field ↦ field r).map cellWidth) =
          fields.map fun field ↦ max (widest field) (cellWidth (field r)) := by
        rw [List.map_map, List.zipWith_map, List.zipWith_self]
        rfl
      rw [List.map_cons, List.foldl_cons, hstep, ih]
      rfl
  rw [List.map_cons, columnWidths, List.map_map]
  exact hfold rs _

/-! ## Lines -/

/-- A row of cells of one line each takes one line. -/
theorem rowLines_of_isOneLine (widths : List Nat) {row : List String} (hne : row ≠ [])
    (h : ∀ cell ∈ row, IsOneLine cell) : rowLines widths row = [textLine widths row] := by
  have hcells : row.map cellLines = row.map fun cell ↦ [cell] :=
    List.map_congr_left fun cell hcell ↦ cellLines_of_isOneLine (h cell hcell)
  have hheight : ((row.map fun cell ↦ [cell]).map List.length).foldl max 0 = 1 := by
    obtain ⟨cell, rest, rfl⟩ := List.exists_cons_of_ne_nil hne
    rw [List.map_map, List.foldl_map, List.foldl_cons]
    exact List.foldl_fixed' (fun _ ↦ rfl) rest
  have hshown : (row.map fun cell ↦ [cell]).map (fun lines ↦ (lines[0]?).getD "") = row := by
    rw [List.map_map]
    exact List.map_id row
  rw [rowLines, hcells, hheight, List.range_one, List.map_singleton, hshown]

/-- **A table of cells of one line each is drawn with a line for each row.** -/
theorem lines_of_isOneLine {header : List String} {rows : List (List String)}
    (hne : ∀ row ∈ header :: rows, row ≠ [])
    (h : ∀ row ∈ header :: rows, ∀ cell ∈ row, IsOneLine cell) :
    let widths := columnWidths (header :: rows)
    lines header rows =
      [rule "╭" "┬" "╮" widths, textLine widths header, rule "├" "┼" "┤" widths]
        ++ rows.map (textLine widths) ++ [rule "╰" "┴" "╯" widths] := by
  intro widths
  have hrow (row : List String) (hmem : row ∈ header :: rows) :
      rowLines widths row = [textLine widths row] :=
    rowLines_of_isOneLine widths (hne row hmem) (h row hmem)
  have hrows : rows.flatMap (rowLines widths) = rows.map (textLine widths) := by
    rw [List.map_eq_flatMap]
    exact List.flatMap_congr fun row hmem ↦ hrow row (List.mem_cons_of_mem _ hmem)
  rw [lines, hrows, hrow header List.mem_cons_self]
  rfl

/-- **The lines that are drawn are those of the text.** -/
theorem splitOn_render {header : List String} {rows : List (List String)}
    (h : ∀ line ∈ lines header rows, IsOneLine line) :
    ((render header rows).toList.splitOn '\n').map String.ofList = lines header rows := by
  have hbreak : "\n".toList = ['\n'] := by decide
  rw [render, String.toList_intercalate, hbreak, List.splitOn_intercalate]
  · simp
  · simpa [IsOneLine] using h
  · simp [lines]

end Table

end HostOverlay.Text
