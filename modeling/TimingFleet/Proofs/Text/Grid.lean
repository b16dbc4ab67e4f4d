import Mathlib.Data.List.Infix
import TimingFleet.Proofs.Text.Pieces
import TimingFleet.Text.Grid

/-!
# What a grid shows

A grid is read by labels: the first cell of a row is its label, and the first row has the headings of the columns
(`cellsAt`).  Main statement: the drawing has the lines of every row next to each other, with every cell in full
(`draws`).
-/

namespace TimingFleet.Text.Grid

variable {grid : Grid} {row : List String}

/-! ## Reading by labels -/

/-- The cells of the row `cells` that stand under `heading`. -/
def cellsUnder (heading : String) (headings cells : List String) : List String :=
  ((headings.zip cells).filter fun entry => entry.1 = heading).map Prod.snd

/-- The cells of the rows labelled `label` that stand under `heading`, below the first row. -/
def cellsAt (label heading : String) : Grid → List String
  | [] => []
  | top :: body => (body.filter fun row => row.head? = some label).flatMap (cellsUnder heading top)

/-! ## The drawing -/

/-- A cell of one line is drawn as it is. -/
theorem cellLines_of_not_mem {cell : String} (h : '\n' ∉ cell.toList) : cellLines cell = [cell.toList] := by
  rw [cellLines, styledLines, split_of_not_mem h]

theorem le_foldr_max {n : Nat} {ns : List Nat} (h : n ∈ ns) : n ≤ ns.foldr max 0 := by
  induction ns with
  | nil => exact absurd h List.not_mem_nil
  | cons m ns ih =>
    rw [List.foldr_cons]
    rcases List.mem_cons.mp h with rfl | h
    · exact Nat.le_max_left _ _
    · exact Nat.le_trans (ih h) (Nat.le_max_right _ _)

theorem foldr_max_of_eq {ns : List Nat} {n : Nat} (hne : ns ≠ []) (h : ∀ m ∈ ns, m = n) : ns.foldr max 0 = n := by
  induction ns with
  | nil => exact absurd rfl hne
  | cons m ns ih =>
    obtain ⟨rfl, hrest⟩ := List.forall_mem_cons.mp h
    rw [List.foldr_cons]
    by_cases hnil : ns = []
    · rw [hnil, List.foldr_nil, Nat.max_zero]
    · rw [ih hnil hrest, Nat.max_self]

theorem length_columnWidths (grid : Grid) : grid.columnWidths.length = grid.columnCount := by
  simp [columnWidths]

theorem length_le_columnCount (h : row ∈ grid) : row.length ≤ grid.columnCount :=
  le_foldr_max (List.mem_map_of_mem h)

/-- Filling a text or setting others beside it leaves it in one piece. -/
theorem infix_join {line sep : List Char} {lines : List (List Char)} (h : line ∈ lines) : line <:+: join sep lines := by
  induction lines with
  | nil => exact absurd h List.not_mem_nil
  | cons first rest ih =>
    cases rest with
    | nil =>
      obtain rfl := List.mem_singleton.mp h
      exact List.infix_rfl
    | cons next rest =>
      rcases List.mem_cons.mp h with rfl | h
      · show line <:+: line ++ sep ++ join sep (next :: rest)
        rw [List.append_assoc]
        exact (List.prefix_append _ _).isInfix
      · exact (ih h).trans (List.suffix_append _ _).isInfix

/-- The characters of a horizontal line are its ends, its crossing and dashes. -/
theorem not_mem_rule {c left crossing right : Char} {widths : List Nat} (h : c ∉ [left, crossing, right]) (hdash : c ≠ '─') :
    c ∉ rule left crossing right widths := by
  simp only [List.mem_cons, List.not_mem_nil, or_false, not_or] at h
  obtain ⟨hleft, hcrossing, hright⟩ := h
  intro hmem
  rcases List.mem_append.mp hmem with hmem | hmem
  · rcases List.mem_cons.mp hmem with hmem | hmem
    · exact hleft hmem
    · rcases mem_join hmem with hmem | ⟨dashes, hdashes, hmem⟩
      · exact hcrossing (List.mem_singleton.mp hmem)
      · obtain ⟨w, -, rfl⟩ := List.mem_map.mp hdashes
        exact hdash (List.eq_of_mem_replicate hmem)
  · exact hright (List.mem_singleton.mp hmem)

theorem infix_rowLine {widths : List Nat} {k i : Nat} (hk : k < widths.length) {line : List Char}
    (hline : (cellLines (cellAt row k))[i]? = some line) : line <:+: rowLine widths row i := by
  have hcell : fill widths[k] line ∈ widths.mapIdx fun k w => fill w ((cellLines (cellAt row k)).getD i []) := by
    refine List.mem_mapIdx.mpr ⟨k, hk, ?_⟩
    rw [List.getD_eq_getElem?_getD, hline, Option.getD_some]
  have hfill : line <:+: fill widths[k] line := (List.prefix_append _ _).isInfix
  exact (hfill.trans (infix_join hcell)).trans (List.infix_append _ _ _)

/-- The drawing shows a row: its lines follow each other, and each cell stands in them line by line. -/
structure Draws (grid : Grid) (row : List String) : Prop where
  lines : rowLines grid.columnWidths row <:+: grid.drawLines
  cells : ∀ cell ∈ row, ∀ line ∈ cellLines cell, ∃ drawn ∈ rowLines grid.columnWidths row, line <:+: drawn

/-- Without columns there is nothing to draw. -/
theorem rowLines_nil (row : List String) : rowLines [] row = [] := rfl

theorem rowLines_infix_drawLines (h : row ∈ grid) : rowLines grid.columnWidths row <:+: grid.drawLines := by
  by_cases hnone : grid.columnWidths = []
  · rw [hnone, rowLines_nil]
    exact List.nil_infix
  · cases grid with
    | nil => exact absurd h List.not_mem_nil
    | cons heading body =>
      rw [drawLines, if_neg hnone]
      rcases List.mem_cons.mp h with rfl | hbody
      · split
        · exact ⟨[_], [_], rfl⟩
        · refine ⟨[rule '╭' '┬' '╮' (columnWidths (row :: body))], ?_⟩
          simp
      · rw [if_neg (List.ne_nil_of_mem hbody)]
        have hrow : rowLines (columnWidths (heading :: body)) row <:+:
            body.flatMap (rowLines (columnWidths (heading :: body))) := by
          obtain ⟨before, after, rfl⟩ := List.append_of_mem hbody
          rw [List.flatMap_append, List.flatMap_cons, ← List.append_assoc]
          exact List.infix_append _ _ _
        exact hrow.trans (List.infix_append _ _ _)

theorem exists_rowLine {cell : String} (hrow : row ∈ grid) (hcell : cell ∈ row) {line : List Char}
    (hline : line ∈ cellLines cell) : ∃ drawn ∈ rowLines grid.columnWidths row, line <:+: drawn := by
  obtain ⟨k, hk, rfl⟩ := List.mem_iff_getElem.mp hcell
  obtain ⟨i, hi⟩ := List.mem_iff_getElem?.mp hline
  have hcolumn : k < grid.columnWidths.length := by
    rw [length_columnWidths]
    exact Nat.lt_of_lt_of_le hk (length_le_columnCount hrow)
  have hat : cellAt row k = row[k] := by
    rw [cellAt, List.getD_eq_getElem?_getD, List.getElem?_eq_getElem hk, Option.getD_some]
  have hheight : i < rowHeight grid.columnWidths.length row := by
    refine Nat.lt_of_lt_of_le ?_ (le_foldr_max (List.mem_map.mpr ⟨k, List.mem_range.mpr hcolumn, rfl⟩))
    rw [hat]
    exact (List.getElem?_eq_some_iff.mp hi).1
  refine ⟨rowLine grid.columnWidths row i, List.mem_map.mpr ⟨i, List.mem_range.mpr hheight, rfl⟩, ?_⟩
  rw [← hat] at hi
  exact infix_rowLine hcolumn hi

/-- **Every row of a grid is drawn**, with all its cells. -/
theorem draws (h : row ∈ grid) : grid.Draws row :=
  ⟨rowLines_infix_drawLines h, fun _ hcell _ hline => exists_rowLine h hcell hline⟩

end TimingFleet.Text.Grid
