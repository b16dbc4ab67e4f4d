import Mathlib.Data.List.Forall2
import Mathlib.Data.List.GetD
import TimingFleet.Proofs.Text.Grid
import TimingFleet.Proofs.Text.Renderers

/-!
# Grids with dyed cells

The drawing of a grid is a frame with the lines of the cells in it, each filled up with blanks to the width of its column.
Where the lines of two grids are as wide as each other's, columns and frame are the same (`alike_draw`).  So the drawing is
one of a lawful renderer (`lawful_renderer`), and a grid of dyed cells draws as the dyed drawing of the grid.
-/

namespace TimingFleet.Text

variable {line plain cs ds : List Char} {text text' : String} {columns : Nat} {widths : List Nat}

/-! ## Lines of a text -/

namespace Style

theorem afterPiece_shownPiece (style : Style) (cs : List Char) :
    (Escape.shownPiece cs).foldl afterPiece style = style := by
  unfold Escape.shownPiece
  split_ifs <;> rfl

theorem foldl_piecesFrom (style : Style) (h : '\x1b' ∉ cs) (run : List Char) (shown : Nat) :
    (Escape.piecesFrom .text run shown cs).foldl afterPiece style = style := by
  induction cs generalizing run shown with
  | nil =>
    unfold Escape.piecesFrom Escape.cutOff Escape.orderPiece
    split_ifs
    · rfl
    · rfl
    · exact afterPiece_shownPiece style _
  | cons c cs ih =>
    obtain ⟨hc, hcs⟩ := List.ne_and_not_mem_of_not_mem_cons h
    rw [Escape.piecesFrom_step (Escape.step_text hc.symm) hc.symm]
    exact ih hcs _ _

/-- A text without escape characters changes no style. -/
theorem after_of_not_mem (style : Style) (h : '\x1b' ∉ cs) : style.after cs = style := foldl_piecesFrom style h [] 0

theorem openEach_of_not_mem {lines : List (List Char)} (h : ∀ line ∈ lines, '\x1b' ∉ line) :
    openEach {} lines = lines := by
  have hopening : Style.opening {} = [] := rfl
  have hclosing : Style.closing {} = [] := rfl
  induction lines with
  | nil => rfl
  | cons line lines ih =>
    obtain ⟨hline, hlines⟩ := List.forall_mem_cons.mp h
    rw [openEach, after_of_not_mem _ hline, ih hlines, hopening, hclosing, List.nil_append, List.append_nil, ite_self]

end Style

theorem not_mem_of_mem_split (h : '\x1b' ∉ cs) : ∀ line ∈ split '\n' cs, '\x1b' ∉ line := by
  intro line hline hmem
  have hinfix : line <:+: join ['\n'] (split '\n' cs) := Grid.infix_join hline
  exact h (join_split '\n' cs ▸ hinfix.subset hmem)

/-- Without escape characters a text is cut into lines and no more. -/
theorem styledLines_of_not_mem (h : '\x1b' ∉ cs) : styledLines cs = split '\n' cs := by
  unfold styledLines
  split
  · next hsplit => exact hsplit.symm
  · exact Style.openEach_of_not_mem (not_mem_of_mem_split h)

/-! ## Texts one after the other -/

namespace Dyed

variable {plain plain' : String}

theorem append_text (h : Dyed text.toList plain.toList) (h' : Dyed text'.toList plain'.toList) :
    Dyed (text ++ text').toList (plain ++ plain').toList := by
  rw [String.toList_append, String.toList_append]
  exact h.append h'

theorem append_printable (h : Dyed text.toList plain.toList) (h' : Printable text') :
    Dyed (text ++ text').toList (plain ++ text').toList := h.append_text (.refl h'.not_mem)

theorem printable_append (h : Printable text) (h' : Dyed text'.toList plain'.toList) :
    Dyed (text ++ text').toList (text ++ plain').toList := append_text (.refl h.not_mem) h'

end Dyed

namespace Grid

/-- The renderer that draws grids with a frame of rounded corners. -/
def renderer : Renderer := ⟨cellLines, Text.width, draw⟩

variable {row row' : List String} {grid grid' : Grid} {cs' : List Char} {lines lines' : List (List Char)}

/-! ## Columns -/

/-- Cells at the same place of rows that are equally wide line by line. -/
theorem cellExtent_eq (h : renderer.rowExtents row = renderer.rowExtents row') (k : Nat) :
    (cellLines (cellAt row k)).map Text.width = (cellLines (cellAt row' k)).map Text.width := by
  have hcell : ∀ row : List String, (renderer.rowExtents row).getD k ((cellLines "").map Text.width) =
      (cellLines (cellAt row k)).map Text.width := fun row =>
    List.getD_map row "" fun cell => (cellLines cell).map Text.width
  rw [← hcell row, h, hcell row']

theorem width_line_eq (h : renderer.rowExtents row = renderer.rowExtents row') (k i : Nat) :
    Text.width ((cellLines (cellAt row k)).getD i []) = Text.width ((cellLines (cellAt row' k)).getD i []) := by
  have hline : ∀ row : List String, ((cellLines (cellAt row k)).map Text.width).getD i (Text.width []) =
      Text.width ((cellLines (cellAt row k)).getD i []) := fun _ => List.getD_map _ _ _
  rw [← hline row, cellExtent_eq h k, hline row']

theorem rowHeight_eq (h : renderer.rowExtents row = renderer.rowExtents row') :
    rowHeight columns row = rowHeight columns row' := by
  have hheight : ∀ k, (cellLines (cellAt row k)).length = (cellLines (cellAt row' k)).length := fun k => by
    rw [← List.length_map Text.width, cellExtent_eq h k, List.length_map]
  simp only [rowHeight, hheight]

/-- Rows at the same place of two grids, of cells that are equally wide line by line. -/
structure RowAlike (grid grid' : Grid) (row row' : List String) : Prop where
  extents : renderer.rowExtents row = renderer.rowExtents row'
  line : ∀ k i, renderer.Alike grid grid' ((cellLines (cellAt row k)).getD i []) ((cellLines (cellAt row' k)).getD i [])

namespace RowAlike

theorem length_eq (h : RowAlike grid grid' row row') : row.length = row'.length := by
  simpa [Renderer.rowExtents] using congrArg List.length h.extents

theorem cellWidth_eq (h : RowAlike grid grid' row row') (k : Nat) :
    cellWidth (cellAt row k) = cellWidth (cellAt row' k) := by
  rw [cellWidth, cellWidth, cellExtent_eq h.extents k]

end RowAlike

theorem rowAlike_rows (h : renderer.extents grid = renderer.extents grid') :
    List.Forall₂ (RowAlike grid grid') grid grid' := by
  have hlength : grid.length = grid'.length := by simpa [Renderer.extents] using congrArg List.length h
  refine List.forall₂_iff_get.mpr ⟨hlength, fun n hn hn' => ⟨?_, fun k i => ?_⟩⟩
  · have hrow : (renderer.extents grid)[n]? = (renderer.extents grid')[n]? := by rw [h]
    simpa [Renderer.extents, hn, hn'] using hrow
  · have hline : renderer.Alike grid grid' (renderer.lineAt (grid.getD n []) k i)
        (renderer.lineAt (grid'.getD n []) k i) := .line n k i
    simpa [Renderer.lineAt, renderer, cellAt, hn, hn'] using hline

/-- **Columns stay where they are.** -/
theorem columnWidths_eq (h : List.Forall₂ (RowAlike grid grid') grid grid') :
    grid.columnWidths = grid'.columnWidths := by
  have hcount : grid.columnCount = grid'.columnCount := by
    rw [columnCount, columnCount, map_eq_of_rel h fun _ _ hrow => hrow.length_eq]
  have hcolumn : ∀ k, grid.columnWidth k = grid'.columnWidth k := by
    intro k
    rw [columnWidth, columnWidth, map_eq_of_rel h fun _ _ hrow => hrow.cellWidth_eq k]
  rw [columnWidths, columnWidths, hcount, funext hcolumn]

/-! ## The drawing -/

theorem alike_fill (h : renderer.Alike grid grid' cs cs') (hwidth : Text.width cs = Text.width cs') :
    renderer.Alike grid grid' (fill columns cs) (fill columns cs') := by
  have hblanks : '\x1b' ∉ List.replicate (columns - Text.width cs') ' ' :=
    fun hmem => absurd (List.eq_of_mem_replicate hmem) (by decide)
  rw [fill, fill, hwidth]
  exact h.append (.frame hblanks)

theorem alike_join {sep : List Char} (hsep : '\x1b' ∉ sep) (h : List.Forall₂ (renderer.Alike grid grid') lines lines') :
    renderer.Alike grid grid' (join sep lines) (join sep lines') := by
  induction h with
  | nil => exact .frame List.not_mem_nil
  | cons hline hrest ih =>
    cases hrest with
    | nil => exact hline
    | cons _ _ => exact (hline.append (.frame hsep)).append ih

theorem alike_rowLine (h : RowAlike grid grid' row row') (widths : List Nat) (i : Nat) :
    renderer.Alike grid grid' (rowLine widths row i) (rowLine widths row' i) := by
  have hcells : List.Forall₂ (renderer.Alike grid grid')
      (widths.mapIdx fun k w => fill w ((cellLines (cellAt row k)).getD i []))
      (widths.mapIdx fun k w => fill w ((cellLines (cellAt row' k)).getD i [])) := by
    rw [List.mapIdx_eq_zipIdx_map, List.mapIdx_eq_zipIdx_map]
    exact rel_map_self fun entry _ => alike_fill (h.line entry.2 i) (width_line_eq h.extents entry.2 i)
  exact (Renderer.Alike.append (.frame (by decide)) (alike_join (by decide) hcells)).append (.frame (by decide))

theorem alike_rule {left crossing right : Char} (h : '\x1b' ∉ [left, crossing, right]) (widths : List Nat) :
    renderer.Alike grid grid' (rule left crossing right widths) (rule left crossing right widths) :=
  .frame (not_mem_rule h (by decide))

theorem alike_rowLines (h : RowAlike grid grid' row row') (widths : List Nat) :
    List.Forall₂ (renderer.Alike grid grid') (rowLines widths row) (rowLines widths row') := by
  rw [rowLines, rowLines, rowHeight_eq h.extents]
  exact rel_map_self fun i _ => alike_rowLine h widths i

theorem alike_drawLines (h : List.Forall₂ (RowAlike grid grid') grid grid') :
    List.Forall₂ (renderer.Alike grid grid') grid.drawLines grid'.drawLines := by
  unfold drawLines
  rw [columnWidths_eq h]
  generalize grid'.columnWidths = widths
  rcases grid with _ | ⟨heading, body⟩
  · obtain rfl := List.forall₂_nil_left_iff.mp h
    exact .nil
  rcases grid' with _ | ⟨heading', body'⟩
  · exact absurd (List.forall₂_nil_right_iff.mp h) (List.cons_ne_nil _ _)
  obtain ⟨hheading, hbody⟩ := List.forall₂_cons.mp h
  have htop : List.Forall₂ (renderer.Alike (heading :: body) (heading' :: body'))
      (rule '╭' '┬' '╮' widths :: rowLines widths heading ++ [rule '├' '┼' '┤' widths])
      (rule '╭' '┬' '╮' widths :: rowLines widths heading' ++ [rule '├' '┼' '┤' widths]) :=
    .cons (alike_rule (by decide) widths) (List.rel_append (alike_rowLines hheading widths)
      (.cons (alike_rule (by decide) widths) .nil))
  have hlines : List.Forall₂ (renderer.Alike (heading :: body) (heading' :: body')) (body.flatMap (rowLines widths))
      (body'.flatMap (rowLines widths)) := List.rel_flatMap hbody fun _ _ hrow => alike_rowLines hrow widths
  have hempty : body = [] ↔ body' = [] := by
    rw [← List.length_eq_zero_iff, ← List.length_eq_zero_iff, hbody.length_eq]
  simp only [hempty]
  split_ifs
  · exact .nil
  · exact htop
  · exact List.rel_append (List.rel_append htop hlines) (.cons (alike_rule (by decide) widths) .nil)

/-- **Equally wide lines draw alike.** -/
theorem alike_draw (h : renderer.extents grid = renderer.extents grid') :
    renderer.Alike grid grid' grid.draw.toList grid'.draw.toList := by
  rw [draw, draw, String.toList_ofList, String.toList_ofList]
  exact alike_join (by decide) (alike_drawLines (rowAlike_rows h))

/-! ## The renderer -/

/-- Colours take no columns in a cell. -/
theorem width_eq {plain : String} (h : Dyed line plain.toList) (hplain : Printable plain) :
    Text.width line = Text.width plain.toList := by
  have hlow : ∀ c ∈ plain.toList, c ≤ '\u00a0' := fun c hc => Char.le_trans (hplain c hc).2 (by decide)
  rw [width_of_dyed h hlow, width_of_dyed (.refl hplain.not_mem) hlow]

/-- Grids are drawn by a lawful renderer. -/
theorem lawful_renderer : renderer.Lawful where
  arranges _ _ h := alike_draw h
  width_eq _ _ h hplain := width_eq h hplain
  lines_single _ h := cellLines_of_not_mem h
  lines_plain cell h line hline := by
    have hline : line ∈ split '\n' cell.toList := styledLines_of_not_mem h ▸ hline
    exact not_mem_of_mem_split h line hline

end Grid

end TimingFleet.Text
