import Liquid.Proofs.Loop.Iteration

/-!
# The grid of a `tablerow`

A `tablerow` counts cells, and ends a row where the number of a cell says so. Its output is told row
by row here: all rows but the last have as many cells as there are columns, none is empty, and each
one is closed.

- `Table.rowCount`, `Table.rowLength`: the number of rows, and that of the cells in a row.
- `Table.range_eq_rows`: counting cells is counting them row by row.
- `Table.join_cells`: text that is put around each cell by its number is text around each row.
- `Node.render_grid`: what a `tablerow` renders, and what its body reads in each cell.
- `Node.render_long_grid`: what is held of a table that has too many cells for a value.
-/

namespace Liquid

open Rendering

namespace Table

/-! ### Rows -/

/-- The number of rows of `length` cells in `columns` columns. -/
def rowCount (columns length : Nat) : Nat := (length + columns - 1) / columns

/-- The number of cells in row `r`, counted from zero. -/
def rowLength (columns length r : Nat) : Nat := min ((r + 1) * columns) length - r * columns

variable {columns length : Nat}

theorem lt_rowCount_iff (hcolumns : 0 < columns) {r : Nat} :
    r < rowCount columns length ↔ r * columns < length := by
  rw [rowCount, Nat.lt_iff_add_one_le, Nat.le_div_iff_mul_le hcolumns, Nat.succ_mul]
  omega

/-- No row is empty, none has more cells than there are columns, and all but the last have as
many. -/
theorem rowLength_spec (hcolumns : 0 < columns) {r : Nat} (hr : r < rowCount columns length) :
    (r + 1 < rowCount columns length → rowLength columns length r = columns)
      ∧ 0 < rowLength columns length r ∧ rowLength columns length r ≤ columns := by
  have hlt := (lt_rowCount_iff hcolumns).1 hr
  rw [lt_rowCount_iff hcolumns, rowLength, Nat.succ_mul]
  refine ⟨fun hnext => ?_, ?_, ?_⟩ <;> omega

/-- The cells of the first `m` rows, counted row by row. -/
theorem range_min_eq_rows (columns length m : Nat) :
    List.range (min (m * columns) length) = (List.range m).flatMap fun r =>
      List.range' (r * columns) (rowLength columns length r) := by
  induction m with
  | zero => simp
  | succ m ih =>
    rw [List.range_succ, List.flatMap_append, ← ih, List.flatMap_singleton, rowLength]
    have hle : m * columns ≤ (m + 1) * columns := Nat.mul_le_mul_right _ (Nat.le_succ m)
    by_cases hm : m * columns ≤ length
    · have hsplit : m * columns + (min ((m + 1) * columns) length - m * columns) =
          min ((m + 1) * columns) length := by omega
      rw [Nat.min_eq_left hm, List.range_eq_range', List.range_eq_range', ← hsplit,
        ← List.range'_append_1, Nat.zero_add, hsplit]
    · rw [Nat.min_eq_right (by omega), Nat.min_eq_right (by omega),
        Nat.sub_eq_zero_of_le (by omega), List.range'_zero, List.append_nil]

/-- Counting cells is counting them row by row. -/
theorem range_eq_rows (hcolumns : 0 < columns) (length : Nat) :
    List.range length = (List.range (rowCount columns length)).flatMap fun r =>
      List.range' (r * columns) (rowLength columns length r) := by
  have hall : length ≤ rowCount columns length * columns := by
    refine Nat.not_lt.1 fun hlt => ?_
    exact Nat.lt_irrefl _ ((lt_rowCount_iff hcolumns).2 hlt)
  rw [← range_min_eq_rows, Nat.min_eq_right hall]

/-! ### Text -/

/-- What opens row `r`, counted from zero; behind the opening tag of the first row the line ends. -/
def rowOpening (r : Nat) : String :=
  "<tr class=\"row" ++ toString (r + 1) ++ "\">" ++ if r = 0 then "\n" else ""

/-- A cell in column `column`, counted from zero. -/
def cell (column : Nat) (contents : String) : String :=
  "<td class=\"col" ++ toString (column + 1) ++ "\">" ++ contents ++ "</td>"

/-- The cells of row `r`, where `contents` are the contents of the cells by their numbers in the
table. -/
def rowCells (columns length : Nat) (contents : Nat → String) (r : Nat) : String :=
  String.join ((List.range (rowLength columns length r)).map fun column =>
    cell column (contents (r * columns + column)))

/-- Row `r`, with its tags. -/
def row (columns length : Nat) (contents : Nat → String) (r : Nat) : String :=
  rowOpening r ++ rowCells columns length contents r ++ closing

variable {contents : Nat → String}

/-- What the text around a cell by its number is, by its row and its column. -/
theorem cell_by_number {r column : Nat} (hcolumn : column < columns) :
    cellOpening columns (r * columns + column) ++ (contents (r * columns + column)
        ++ cellClosing columns (r * columns + column) length) =
      cell column (contents (r * columns + column))
        ++ if column + 1 = columns ∧ r * columns + column + 1 ≠ length then
          closing ++ rowOpening (r + 1) else "" := by
  have hmod : (r * columns + column) % columns = column := by
    rw [Nat.mul_comm, Nat.mul_add_mod, Nat.mod_eq_of_lt hcolumn]
  have hdiv : (r * columns + column) / columns = r := by
    rw [Nat.mul_comm, Nat.mul_add_div (by omega), Nat.div_eq_of_lt hcolumn, Nat.add_zero]
  have hopening : cellOpening columns (r * columns + column) =
      "<td class=\"col" ++ toString (column + 1) ++ "\">" :=
    congrArg (fun i => "<td class=\"col" ++ toString (i + 1) ++ "\">") hmod
  have hclosing : cellClosing columns (r * columns + column) length =
      if column + 1 = columns ∧ r * columns + column + 1 ≠ length then
        "</td></tr>\n<tr class=\"row" ++ toString (r + 2) ++ "\">" else "</td>" := by
    show (if (r * columns + column) % columns + 1 = columns ∧ _ then
      _ ++ toString ((r * columns + column) / columns + 2) ++ _ else _) = _
    rw [hmod, hdiv]
  have hrow : rowOpening (r + 1) = "<tr class=\"row" ++ toString (r + 2) ++ "\">" :=
    String.append_empty
  have hbreak : "</td></tr>\n<tr class=\"row" = "</td>" ++ (closing ++ "<tr class=\"row") := rfl
  rw [hopening, hclosing, hrow]
  show _ = "<td class=\"col" ++ toString (column + 1) ++ "\">" ++ _ ++ "</td>" ++ _
  split
  · simp only [hbreak, String.append_assoc]
  · simp only [String.append_assoc, String.append_empty]

/-- The cells of a row that are counted in the table; behind the last one the next row begins, if
there is one. -/
theorem join_row (hcolumns : 0 < columns) {r : Nat} (hr : r < rowCount columns length) :
    String.join ((List.range' (r * columns) (rowLength columns length r)).map fun k =>
        cellOpening columns k ++ (contents k ++ cellClosing columns k length)) =
      rowCells columns length contents r
        ++ if r + 1 < rowCount columns length then closing ++ rowOpening (r + 1) else "" := by
  obtain ⟨hfull, hpos, hle⟩ := rowLength_spec hcolumns hr
  obtain ⟨m, hm⟩ := Nat.exists_eq_succ_of_ne_zero (Nat.pos_iff_ne_zero.1 hpos)
  have hlast : (m + 1 = columns ∧ r * columns + m + 1 ≠ length) ↔
      r + 1 < rowCount columns length := by
    rw [lt_rowCount_iff hcolumns, Nat.succ_mul]
    rw [rowLength, Nat.succ_mul] at hm
    omega
  have hfront : ∀ column ∈ List.range m, cellOpening columns (r * columns + column)
        ++ (contents (r * columns + column) ++ cellClosing columns (r * columns + column) length) =
      cell column (contents (r * columns + column)) := by
    intro column hcolumn
    have hcolumn := List.mem_range.1 hcolumn
    rw [cell_by_number (by omega), if_neg (by omega), String.append_empty]
  rw [rowCells, List.range'_eq_map_range, List.map_map, hm, List.range_succ, List.map_append,
    List.map_append, String.join_append, String.join_append, String.append_assoc]
  congr 1
  · exact congrArg String.join (List.map_congr_left hfront)
  · simp only [List.map_cons, List.map_nil, String.join_cons, String.join_nil, Function.comp_apply,
      String.append_empty, cell_by_number (show m < columns by omega), hlast]

theorem join_flatMap (items : List Nat) (f : Nat → List String) :
    String.join (items.flatMap f) = String.join (items.map fun x => String.join (f x)) := by
  induction items with
  | nil => rfl
  | cons x rest ih =>
    rw [List.flatMap_cons, String.join_append, ih, List.map_cons, String.join_cons]

/-- The rows from the first on, each of which ends where the next one opens. -/
theorem opening_join_rows (m : Nat) :
    opening ++ String.join ((List.range m).map fun r =>
        rowCells columns length contents r ++ (closing ++ rowOpening (r + 1))) =
      String.join ((List.range m).map (row columns length contents)) ++ rowOpening m := by
  induction m with
  | zero => rfl
  | succ m ih =>
    simp only [List.range_succ, List.map_append, String.join_append, List.map_cons, List.map_nil,
      String.join_cons, String.join_nil, String.append_empty]
    rw [← String.append_assoc, ih, row]
    simp only [String.append_assoc]

/-- Text that is put around each cell by its number is text around each row. -/
theorem join_cells (hcolumns : 0 < columns) (hlength : 0 < length) :
    opening ++ (String.join ((List.range length).map fun k =>
        cellOpening columns k ++ (contents k ++ cellClosing columns k length)) ++ closing) =
      String.join ((List.range (rowCount columns length)).map (row columns length contents)) := by
  have hpos : 0 < rowCount columns length := (lt_rowCount_iff hcolumns).2 (by omega)
  obtain ⟨m, hm⟩ := Nat.exists_eq_succ_of_ne_zero (Nat.pos_iff_ne_zero.1 hpos)
  -- a row opens behind each row but the last one
  have hfront : ∀ r ∈ List.range m, String.join ((List.range' (r * columns)
        (rowLength columns length r)).map fun k =>
          cellOpening columns k ++ (contents k ++ cellClosing columns k length)) =
      rowCells columns length contents r ++ (closing ++ rowOpening (r + 1)) := by
    intro r hr
    have hr := List.mem_range.1 hr
    rw [join_row hcolumns (by omega), if_pos (by omega)]
  have hlast : String.join ((List.range' (m * columns) (rowLength columns length m)).map fun k =>
        cellOpening columns k ++ (contents k ++ cellClosing columns k length)) =
      rowCells columns length contents m := by
    rw [join_row hcolumns (by omega), if_neg (by omega), String.append_empty]
  rw [range_eq_rows hcolumns, List.map_flatMap, join_flatMap, hm, List.range_succ, List.map_append,
    List.map_append, String.join_append, String.join_append, List.map_congr_left hfront,
    ← String.append_assoc, ← String.append_assoc, opening_join_rows]
  simp only [List.map_cons, List.map_nil, String.join_cons, String.join_nil, String.append_empty,
    hlast, row, String.append_assoc]

/-! ### What is known of a cell -/

/-- What is known of cell `k` of `length`, counted from zero, in the table `table`: what is known of
an iteration, and where the cell stands. -/
structure Describes (data : Keyed Value) (table : String) (columns k length : Nat) : Prop
    extends LoopItems.Describes data table k length where
  /-- The number of the row. -/
  row : LoopItems.HoldsNumber data "row" (k / columns + 1)
  /-- The number of the column. -/
  col : LoopItems.HoldsNumber data "col" (k % columns + 1)
  /-- The number of the column when counting begins at zero. -/
  col0 : LoopItems.HoldsNumber data "col0" (k % columns)
  /-- Whether the column is the first one. -/
  col_first : ∃ b : Bool, Keyed.get? "col_first" data = some (.bool b) ∧
    (b = true ↔ k % columns = 0)
  /-- Whether the column is the last one. -/
  col_last : ∃ b : Bool, Keyed.get? "col_last" data = some (.bool b) ∧
    (b = true ↔ k % columns + 1 = columns)

theorem describes_metadata (table : String) (columns : Nat) {k length : Nat} (hk : k < length) :
    Describes (metadata table columns k length) table columns k length := by
  have hget : ∀ key, Keyed.get? key (metadata table columns k length) = _ := fun key =>
    Keyed.get?_insertAll _ key _
  exact {
    name := hget "name"
    length := .of_get? (hget "length")
    index := .of_get? (hget "index")
    index0 := .of_get? (hget "index0")
    rindex := ⟨length - k, by omega, .of_get? (hget "rindex")⟩
    rindex0 := ⟨length - k - 1, by omega, .of_get? (hget "rindex0")⟩
    first := ⟨_, hget "first", beq_iff_eq⟩
    last := ⟨_, hget "last", beq_iff_eq⟩
    row := .of_get? (hget "row")
    col := .of_get? (hget "col")
    col0 := .of_get? (hget "col0")
    col_first := ⟨_, hget "col_first", beq_iff_eq⟩
    col_last := ⟨_, hget "col_last", beq_iff_eq⟩ }

end Table

/-! ### Cells one by one -/

namespace LoopHeader

variable (header : LoopHeader) (c : Context)

/-- Binds what the body reads in cell `k`: the item, and then what is known of the cell. -/
def enterCell (k : Nat) : Context → Context :=
  bindIteration header.itemName "tablerowloop" (((header.part c).values false).getD k .nil)
    (Table.metadata header.name (header.width c) k (header.part c).length)

/-- The contents of cell `k`. -/
def cell (body : List Node) (k : Nat) : Rendering := after (header.enterCell c k) (renderAll body)

variable {header c}

/-- What a `tablerow` binds, cell by cell. -/
theorem cells_eq :
    header.cells c = (List.range (header.part c).length).map fun k =>
      (((header.part c).values false).getD k .nil,
        Table.metadata header.name (header.width c) k (header.part c).length) := by
  have hlength : ((header.part c).values false).length = (header.part c).length :=
    LoopItems.length_values_segment _ _ _ _
  refine List.ext_getElem (by simp [cells, hlength]) fun k hk _ => ?_
  have hin : k < ((header.part c).values false).length := by simpa [cells] using hk
  simp only [cells, List.getElem_map, List.getElem_zipIdx, List.getElem_range, Nat.zero_add,
    List.getD_eq_getElem?_getD, List.getElem?_eq_getElem hin, Option.getD_some]

/-- A table has the columns that it asks for, if that is a positive integer, and else as many as it
has cells. -/
theorem width_eq :
    header.width c = match header.integer? "cols" c with
      | some i => if 0 < i.toInt then i.toInt.toNat else (header.part c).length
      | none => (header.part c).length := by
  rw [width, columns?]
  cases header.integer? "cols" c with
  | none => rfl
  | some i =>
    show (if i.toInt.toNat = 0 then none else some i.toInt.toNat).getD _ = _
    dsimp only
    by_cases hpos : 0 < i.toInt
    · rw [if_neg (by omega), if_pos hpos]
      rfl
    · rw [if_pos (by omega), if_neg hpos]
      rfl

theorem width_pos (h : 0 < (header.part c).length) : 0 < header.width c := by
  rw [width_eq]
  cases header.integer? "cols" c with
  | none => exact h
  | some i =>
    show 0 < if 0 < i.toInt then i.toInt.toNat else (header.part c).length
    split
    · next hpos => exact Int.lt_toNat.2 hpos
    · exact h

variable (header c) in
/-- What is known of the cell hides an item that is bound to the same name. -/
theorem find?_enterCell {d : Context} (hdepth : 0 < d.depth) (k : Nat) (name : String) :
    (header.enterCell c k d).find? name =
      if "tablerowloop" = name then
        some (.dict (Table.metadata header.name (header.width c) k (header.part c).length))
      else if header.itemName = name then some (((header.part c).values false).getD k .nil)
      else d.find? name := by
  rw [enterCell, bindIteration, Context.find?_set (by rwa [Context.depth_set]),
    Context.find?_set hdepth]

end LoopHeader

/-! ### Rendering -/

/-- A `tablerow` counts its cells, and puts their tags around them by their numbers. -/
theorem Node.render_table_eq_times {header : LoopHeader} {c : Context}
    (h : 0 < (header.part c).length) (body : List Node) :
    (Node.table header body).render c =
      inScope ((emit Table.opening).andThen
        ((times (header.part c).length (enclosed (Table.cellOpening (header.width c))
          (Table.cellClosing (header.width c) · (header.part c).length)
          (header.cell c body))).andThen (emit Table.closing))) c := by
  rw [Node.render_table (Nat.pos_iff_ne_zero.1 h), LoopHeader.cells_eq,
    LoopItems.zipIdx_map_range, each_map, ← times_eq_each]
  rfl

end Liquid
