import Mathlib.Data.List.Forall2
import TimingFleet.Proofs.Text.Dyed
import TimingFleet.Proofs.Text.Printable
import TimingFleet.Text.Grid

/-!
# Renderers of grids

A renderer cuts cells into lines, measures the lines, and arranges them in a frame by their widths alone.  A cell may hold
a dyed text.  Where colours take no columns, its lines are as wide as those of the text itself, so they stand at the same
places in the same frame.

* `Renderer.Alike r grid grid' cs cs'`: the texts are made of the same frame, and of lines at the same places of the grids.
* `Renderer.Lawful r`: what is asked of a renderer.
* `Renderer.DyedCell r cell plain`: line by line, `cell` is dyed from `plain` and as wide.

Main statement: a grid of dyed cells draws as the dyed drawing of the grid (`Renderer.Lawful.dyed_draw`).
-/

namespace TimingFleet.Text

/-! ## Lists made alike -/

section Lists

variable {α β : Type}

/-- What related entries have in common the lists have in common. -/
theorem map_eq_of_rel {R : α → α → Prop} {as bs : List α} {f : α → β} (h : List.Forall₂ R as bs)
    (hf : ∀ a b, R a b → f a = f b) : as.map f = bs.map f := by
  have hsame : List.Forall₂ (· = ·) (as.map f) (bs.map f) := List.rel_map (fun a b hab => hf a b hab) h
  rwa [List.forall₂_eq_eq_eq] at hsame

/-- Lists made from the same entries. -/
theorem rel_map_self {R : β → β → Prop} {f g : α → β} {as : List α} (h : ∀ a ∈ as, R (f a) (g a)) :
    List.Forall₂ R (as.map f) (as.map g) :=
  List.forall₂_map_left_iff.mpr (List.forall₂_map_right_iff.mpr (List.forall₂_same.mpr h))

/-- Entries at the same place of related lists are related. -/
theorem rel_getD {R : α → α → Prop} {as bs : List α} {a b : α} (h : List.Forall₂ R as bs) (hab : R a b) (k : Nat) :
    R (as.getD k a) (bs.getD k b) := by
  induction h generalizing k with
  | nil => exact hab
  | cons hfirst _ ih =>
    cases k with
    | zero => exact hfirst
    | succ k => exact ih k

end Lists

/-! ## Renderers -/

/-- A part of a drawing: text of its own, or a line of a cell. -/
inductive Fragment where
  | frame (cs : List Char)
  | line (row column i : Nat)

/-- A way to draw grids. -/
structure Renderer where
  /-- The lines of a cell. -/
  lines : String → List (List Char)
  /-- The columns that a line takes. -/
  width : List Char → Nat
  draw : Grid → String

namespace Renderer

variable {r : Renderer} {grid grid' : Grid} {row row' : List String} {cell plain : String}
  {cs cs' ds ds' : List Char}

/-- The widths of the lines of each cell of a row. -/
def rowExtents (r : Renderer) (row : List String) : List (List Nat) := row.map fun cell => (r.lines cell).map r.width

/-- The widths of the lines of each cell. -/
def extents (r : Renderer) (grid : Grid) : List (List (List Nat)) := grid.map r.rowExtents

/-- Line `i` of the cell in a column of a row, empty where there is none. -/
def lineAt (r : Renderer) (row : List String) (column i : Nat) : List Char := (r.lines (row.getD column "")).getD i []

/-- The characters of a fragment in a drawing of the grid. -/
def chars (r : Renderer) (grid : Grid) : Fragment → List Char
  | .frame cs => cs
  | .line row column i => r.lineAt (grid.getD row []) column i

/-- The texts are made of the same frame, and of lines at the same places of the two grids. -/
def Alike (r : Renderer) (grid grid' : Grid) (cs cs' : List Char) : Prop :=
  ∃ fragments : List Fragment, (∀ frame, .frame frame ∈ fragments → '\x1b' ∉ frame) ∧
    cs = fragments.flatMap (r.chars grid) ∧ cs' = fragments.flatMap (r.chars grid')

namespace Alike

theorem frame (h : '\x1b' ∉ cs) : r.Alike grid grid' cs cs := by
  refine ⟨[.frame cs], fun _ hframe => ?_, (List.append_nil _).symm, (List.append_nil _).symm⟩
  obtain rfl := Fragment.frame.inj (List.mem_singleton.mp hframe)
  exact h

theorem line (row column i : Nat) : r.Alike grid grid' (r.lineAt (grid.getD row []) column i)
    (r.lineAt (grid'.getD row []) column i) := by
  refine ⟨[.line row column i], fun _ hframe => ?_, (List.append_nil _).symm, (List.append_nil _).symm⟩
  exact nomatch List.mem_singleton.mp hframe

theorem append (h : r.Alike grid grid' cs cs') (h' : r.Alike grid grid' ds ds') :
    r.Alike grid grid' (cs ++ ds) (cs' ++ ds') := by
  obtain ⟨fragments, hframes, rfl, rfl⟩ := h
  obtain ⟨more, hmore, rfl, rfl⟩ := h'
  refine ⟨fragments ++ more, fun frame hframe => ?_, List.flatMap_append.symm, List.flatMap_append.symm⟩
  exact (List.mem_append.mp hframe).elim (hframes frame) (hmore frame)

end Alike

/-- What is asked of a renderer.  The widths of lines decide where they stand in the frame, and the frame has no escape
sequences.  Colour sequences take no columns.  A cell without line breaks is one line, and lines of a cell without escape
sequences have none. -/
structure Lawful (r : Renderer) : Prop where
  arranges : ∀ grid grid', r.extents grid = r.extents grid' →
    r.Alike grid grid' (r.draw grid).toList (r.draw grid').toList
  width_eq : ∀ line (plain : String), Dyed line plain.toList → Printable plain → r.width line = r.width plain.toList
  lines_single : ∀ cell : String, '\n' ∉ cell.toList → r.lines cell = [cell.toList]
  lines_plain : ∀ cell : String, '\x1b' ∉ cell.toList → ∀ line ∈ r.lines cell, '\x1b' ∉ line

/-! ## Dyed cells -/

/-- A line that is dyed from another one and as wide. -/
structure DyedLine (r : Renderer) (line plain : List Char) : Prop where
  dyed : Dyed line plain
  width : r.width line = r.width plain

/-- The lines of a cell are dyed from those of another one and as wide. -/
def DyedCell (r : Renderer) (cell plain : String) : Prop := List.Forall₂ r.DyedLine (r.lines cell) (r.lines plain)

/-- Rows of dyed cells. -/
abbrev DyedRow (r : Renderer) : List String → List String → Prop := List.Forall₂ r.DyedCell

namespace Lawful

variable (hr : r.Lawful)

include hr

/-- A cell without escape characters is a dyed form of itself. -/
theorem dyedCell_refl (h : '\x1b' ∉ cell.toList) : r.DyedCell cell cell :=
  List.forall₂_same.mpr fun line hline => ⟨.refl (hr.lines_plain cell h line hline), rfl⟩

/-- **A dyed cell**: a printable text with colours put in. -/
theorem dyedCell_of_dyed (h : Dyed cell.toList plain.toList) (hplain : Printable plain) : r.DyedCell cell plain := by
  have hone : '\n' ∉ plain.toList := hplain.not_mem_of (by decide)
  rw [DyedCell, hr.lines_single cell (h.newline_not_mem hone), hr.lines_single plain hone]
  exact .cons ⟨h, hr.width_eq _ plain h hplain⟩ .nil

theorem dyed_lineAt (h : r.DyedRow row row') (column i : Nat) :
    Dyed (r.lineAt row column i) (r.lineAt row' column i) := by
  have hcell : r.DyedCell (row.getD column "") (row'.getD column "") := rel_getD h (hr.dyedCell_refl (by decide)) column
  exact (rel_getD hcell ⟨.nil, rfl⟩ i : r.DyedLine _ _).dyed

/-- Fragments of grids with dyed cells. -/
theorem dyed_chars (h : List.Forall₂ r.DyedRow grid grid') {fragments : List Fragment}
    (hframes : ∀ frame, .frame frame ∈ fragments → '\x1b' ∉ frame) :
    Dyed (fragments.flatMap (r.chars grid)) (fragments.flatMap (r.chars grid')) := by
  induction fragments with
  | nil => exact .nil
  | cons fragment fragments ih =>
    refine Dyed.append ?_ (ih fun frame hframe => hframes frame (List.mem_cons_of_mem _ hframe))
    cases fragment with
    | frame cs => exact .refl (hframes cs List.mem_cons_self)
    | line row column i => exact hr.dyed_lineAt (rel_getD h (.nil : r.DyedRow [] []) row) column i

/-- **Dyed cells dye the drawing** and change nothing else of it. -/
theorem dyed_draw (h : List.Forall₂ r.DyedRow grid grid') : Dyed (r.draw grid).toList (r.draw grid').toList := by
  have hextents : r.extents grid = r.extents grid' :=
    map_eq_of_rel h fun _ _ hrow => map_eq_of_rel hrow fun _ _ hcell => map_eq_of_rel hcell fun _ _ hline => hline.width
  obtain ⟨fragments, hframes, hdraw, hdraw'⟩ := hr.arranges grid grid' hextents
  rw [hdraw, hdraw']
  exact hr.dyed_chars h hframes

end Lawful

end Renderer

end TimingFleet.Text
