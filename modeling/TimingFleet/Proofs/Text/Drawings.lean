import TimingFleet.Proofs.Text.Grid
import TimingFleet.Proofs.Text.Printable

/-!
# Drawings read back

Whoever looks at a drawing finds the rows between the horizontal lines and the cells between the bars.  If all rows are
equally long, and every cell is one line of printable characters with no blank at either end, these are the rows of the
grid (`ofDrawing_draw`): no row is missing, and each cell stands in its own column.
-/

namespace TimingFleet.Text.Grid

variable {grid : Grid} {row : List String} {widths : List Nat} {columns : Nat}

/-! ## Reading -/

/-- The cells between the bars of a line, without the blanks around them. -/
def lineCells (line : List Char) : List String :=
  ((split '│' line).drop 1).dropLast.map fun cell => String.ofList (trim cell)

/-- The rows in a drawing: the lines that begin with a bar. -/
def ofDrawing (text : String) : Grid :=
  ((split '\n' text.toList).filter fun line => line.head? = some '│').map lineCells

/-! ## Lines with cells -/

/-- What stands between the bars: each cell filled up to the width of its column, with a blank on either side. -/
def paddedCells (widths : List Nat) (row : List String) : List (List Char) :=
  (widths.zip row).map fun (w, cell) => ' ' :: fill w cell.toList ++ [' ']

/-- The line of a row of one-line cells. -/
def cellsLine (widths : List Nat) (row : List String) : List Char :=
  '│' :: (join ['│'] (paddedCells widths row) ++ ['│'])

theorem not_mem_paddedCells {c : Char} (hc : ¬(' ' ≤ c ∧ c ≤ '~')) (hcells : ∀ cell ∈ row, Printable cell) :
    ∀ piece ∈ paddedCells widths row, c ∉ piece := by
  intro piece hpiece
  obtain ⟨⟨w, cell⟩, hentry, rfl⟩ := List.mem_map.mp hpiece
  have hcell : c ∉ cell.toList := (hcells cell (List.of_mem_zip hentry).2).not_mem_of hc
  have hblank : c ≠ ' ' := by
    rintro rfl
    exact hc (by decide)
  simp [fill, hcell, hblank]

theorem cellAt_mem {k : Nat} (hk : k < row.length) : cellAt row k ∈ row := by
  rw [cellAt, List.getD_eq_getElem?_getD, List.getElem?_eq_getElem hk]
  exact List.getElem_mem hk

/-- With a blank on either side, cells need only a bar between them. -/
theorem join_padded {pieces : List (List Char)} (hne : pieces ≠ []) :
    ' ' :: join [' ', '│', ' '] pieces ++ [' '] = join ['│'] (pieces.map fun piece => ' ' :: piece ++ [' ']) := by
  induction pieces with
  | nil => exact absurd rfl hne
  | cons first rest ih =>
    cases rest with
    | nil => rfl
    | cons next rest =>
      have h := ih (List.cons_ne_nil next rest)
      simp only [join, List.map_cons] at h ⊢
      rw [← h]
      simp

/-- **A row of one-line cells** is drawn on one line. -/
theorem rowLines_eq (hlength : row.length = widths.length) (hne : row ≠ []) (hcells : ∀ cell ∈ row, Printable cell) :
    rowLines widths row = [cellsLine widths row] := by
  have hone : ∀ k < row.length, cellLines (cellAt row k) = [(cellAt row k).toList] := fun k hk =>
    cellLines_of_not_mem (Printable.not_mem_of (hcells _ (cellAt_mem hk)) (by decide))
  have hheight : rowHeight widths.length row = 1 := by
    refine foldr_max_of_eq ?_ fun n hn => ?_
    · simpa [← List.length_eq_zero_iff, ← hlength] using hne
    · obtain ⟨k, hk, rfl⟩ := List.mem_map.mp hn
      rw [hone k (hlength ▸ List.mem_range.mp hk), List.length_singleton]
  have hfilled : (widths.mapIdx fun k w => fill w ((cellLines (cellAt row k)).getD 0 [])) =
      (widths.zip row).map fun (w, cell) => fill w cell.toList := by
    refine List.ext_getElem (by simp [hlength]) fun k hk _ => ?_
    have hk : k < row.length := by simpa [hlength] using hk
    rw [List.getElem_mapIdx, hone k hk]
    simp [cellAt, hk]
  have hsome : (widths.zip row).map (fun (w, cell) => fill w cell.toList) ≠ [] := by
    simpa [← List.length_eq_zero_iff, ← hlength] using hne
  have hpadded := join_padded hsome
  rw [List.map_map] at hpadded
  rw [rowLines, hheight, List.range_one, List.map_singleton, rowLine, hfilled, cellsLine, paddedCells]
  refine congrArg (fun line => ['│' :: line]) ?_
  refine Eq.trans ?_ (congrArg (· ++ ['│']) hpadded)
  simp

/-- What is left of a filled cell without the blanks around it. -/
theorem trim_filled {cell : String} (h : Trimmed cell) (w : Nat) :
    trim (' ' :: fill w cell.toList ++ [' ']) = cell.toList := by
  have hblanks : blank (List.replicate (w - width cell.toList) ' ' ++ [' ']) :=
    blank_append.mpr ⟨List.all_eq_true.mpr fun c hc => by rw [List.eq_of_mem_replicate hc]; rfl, rfl⟩
  have hblank : blank [' '] := by decide
  have htrim := h.trim_append hblank hblanks
  simpa [fill] using htrim

/-- **A line shows the cells of its row.** -/
theorem lineCells_cellsLine (hlength : row.length = widths.length) (hne : row ≠ [])
    (hcells : ∀ cell ∈ row, Trimmed cell) : lineCells (cellsLine widths row) = row := by
  have hsome : paddedCells widths row ≠ [] := by
    simpa [paddedCells, ← List.length_eq_zero_iff, ← hlength] using hne
  have hbar : ∀ piece ∈ paddedCells widths row, '│' ∉ piece :=
    not_mem_paddedCells (by decide) fun cell hcell => (hcells cell hcell).printable
  have hsplit : split '│' (cellsLine widths row) = [] :: (paddedCells widths row ++ [[]]) := by
    have hline : cellsLine widths row = [] ++ '│' :: (join ['│'] (paddedCells widths row) ++ '│' :: []) := rfl
    rw [hline, split_append, split_append, split_join hsome hbar]
    rfl
  rw [lineCells, hsplit, List.drop_one, List.tail_cons, List.dropLast_concat, paddedCells, List.map_map]
  calc (widths.zip row).map
        ((fun cell => String.ofList (trim cell)) ∘ fun (w, cell) => ' ' :: fill w cell.toList ++ [' '])
      = (widths.zip row).map Prod.snd := List.map_congr_left fun (w, cell) hentry => by
        show String.ofList (trim (' ' :: fill w cell.toList ++ [' '])) = cell
        rw [trim_filled (hcells cell (List.of_mem_zip hentry).2), String.ofList_toList]
    _ = row := List.map_snd_zip (Nat.le_of_eq hlength)

/-! ## Drawings -/

/-- Rows of equal length, at least one cell long, of one-line cells without blanks at their ends. -/
structure Readable (grid : Grid) (columns : Nat) : Prop where
  length : ∀ row ∈ grid, row.length = columns + 1
  trimmed : ∀ row ∈ grid, ∀ cell ∈ row, Trimmed cell

namespace Readable

theorem row_ne_nil (h : grid.Readable columns) (hrow : row ∈ grid) : row ≠ [] :=
  List.ne_nil_of_length_pos (by simp [h.length row hrow])

/-- There is a column for each cell. -/
theorem length_row (h : grid.Readable columns) (hrow : row ∈ grid) : row.length = grid.columnWidths.length := by
  have hcount : grid.columnCount = columns + 1 :=
    foldr_max_of_eq (by simpa using List.ne_nil_of_mem hrow) (by simpa using h.length)
  rw [h.length row hrow, length_columnWidths, hcount]

theorem columnWidths_ne_nil (h : grid.Readable columns) (hrow : row ∈ grid) : grid.columnWidths ≠ [] := by
  rw [← List.length_pos_iff, ← h.length_row hrow]
  exact List.length_pos_of_ne_nil (h.row_ne_nil hrow)

theorem rowLines_eq (h : grid.Readable columns) (hrow : row ∈ grid) :
    rowLines grid.columnWidths row = [cellsLine grid.columnWidths row] :=
  Grid.rowLines_eq (h.length_row hrow) (h.row_ne_nil hrow) fun cell hcell => (h.trimmed row hrow cell hcell).printable

/-- The drawing has one line for each row, below the frame, and between the rows one rule. -/
theorem drawLines_eq {heading : List String} {body : Grid} (h : Readable (heading :: body) columns) :
    let widths := columnWidths (heading :: body)
    drawLines (heading :: body) =
      rule '╭' '┬' '╮' widths :: cellsLine widths heading :: rule '├' '┼' '┤' widths ::
        if body = [] then [] else body.map (cellsLine widths) ++ [rule '╰' '┴' '╯' widths] := by
  have hbody : body.flatMap (rowLines (columnWidths (heading :: body))) =
      body.map (cellsLine (columnWidths (heading :: body))) := by
    rw [List.map_eq_flatMap]
    exact List.flatMap_congr fun row hrow => h.rowLines_eq (List.mem_cons_of_mem heading hrow)
  have hheading : heading ∈ heading :: body := List.mem_cons_self
  rw [drawLines, if_neg (h.columnWidths_ne_nil hheading), h.rowLines_eq hheading, hbody]
  split_ifs <;> simp

/-- The lines that begin with a bar are those of the rows. -/
theorem filter_drawLines (h : grid.Readable columns) :
    (grid.drawLines.filter fun line => line.head? = some '│') = grid.map (cellsLine grid.columnWidths) := by
  cases grid with
  | nil => rfl
  | cons heading body =>
    have hrule : ∀ {left crossing right : Char} {widths : List Nat}, left ≠ '│' →
        decide ((rule left crossing right widths).head? = some '│') = false := fun hleft => by simpa [rule] using hleft
    have hrow : ∀ widths row, decide ((cellsLine widths row).head? = some '│') = true := fun _ _ => rfl
    rw [h.drawLines_eq]
    generalize columnWidths (heading :: body) = widths
    split_ifs with hnil
    · simp [hrule, hrow, hnil]
    · simp [hrule, hrow, List.filter_map, Function.comp_def]

theorem newline_not_mem (h : grid.Readable columns) : ∀ line ∈ grid.drawLines, '\n' ∉ line := by
  have hrow : ∀ row ∈ grid, '\n' ∉ cellsLine grid.columnWidths row := by
    intro row hrow hmem
    have hcells : ∀ cell ∈ row, Printable cell := fun cell hcell => (h.trimmed row hrow cell hcell).printable
    have hmem : '\n' ∈ join ['│'] (paddedCells grid.columnWidths row) := by simpa [cellsLine] using hmem
    rcases mem_join hmem with hmem | ⟨piece, hpiece, hmem⟩
    · exact absurd hmem (by decide)
    · exact not_mem_paddedCells (by decide) hcells piece hpiece hmem
  cases grid with
  | nil => exact fun line hline => absurd hline List.not_mem_nil
  | cons heading body =>
    obtain ⟨hheading, hbody⟩ := List.forall_mem_cons.mp hrow
    rw [h.drawLines_eq]
    refine List.forall_mem_cons.mpr ⟨not_mem_rule (by decide) (by decide), List.forall_mem_cons.mpr ⟨hheading,
      List.forall_mem_cons.mpr ⟨not_mem_rule (by decide) (by decide), ?_⟩⟩⟩
    split_ifs
    · exact fun line hline => absurd hline List.not_mem_nil
    · refine List.forall_mem_append.mpr ⟨List.forall_mem_map.mpr hbody, ?_⟩
      exact List.forall_mem_singleton.mpr (not_mem_rule (by decide) (by decide))

/-- **The rows of a readable grid are found again** in its drawing. -/
theorem ofDrawing_draw (h : grid.Readable columns) : ofDrawing grid.draw = grid := by
  have hlines : (split '\n' (join ['\n'] grid.drawLines)).filter (fun line => line.head? = some '│') =
      grid.map (cellsLine grid.columnWidths) := by
    cases grid with
    | nil => rfl
    | cons heading body =>
      rw [split_join ?_ h.newline_not_mem, h.filter_drawLines]
      rw [h.drawLines_eq]
      exact List.cons_ne_nil _ _
  rw [ofDrawing, draw, String.toList_ofList, hlines, List.map_map]
  refine (List.map_congr_left fun row hrow => ?_).trans (List.map_id grid)
  exact lineCells_cellsLine (h.length_row hrow) (h.row_ne_nil hrow) (h.trimmed row hrow)

end Readable

end TimingFleet.Text.Grid
