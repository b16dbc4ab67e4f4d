import TimingFleet.Proofs.Report.Colours
import TimingFleet.Proofs.Report.StatusTable
import TimingFleet.Proofs.Text.Columns
import TimingFleet.Proofs.Text.Drawings

/-!
# The table of command counters

The drawn table has a column for each endpoint, in the order of their ids, and a row for each code up to the longest
counter block; where a block is shorter there is a dash.  No two commands have one label (`commandLabel_injective`), so
each counter is found by the label of its command and the id of its endpoint.

* `ShowsCounters s grid`: the grid has these rows.

Main statement: `counters_account`, on the rows that are read off the drawn table.
-/

namespace TimingFleet.Report

open Text Grid

variable {s : Snapshot}

/-! ## Labels -/

/-- The label of a command: its name, or its code. -/
theorem commandLabel_eq (code : Nat) : commandLabel code = commandNames.getD code (Numeral.hex code) :=
  List.getD_eq_getElem?_getD.symm

theorem commandLabel_injective {code other : Nat} (h : commandLabel code = commandLabel other) : code = other := by
  -- no name begins like a code
  have hnames : ∀ name ∈ commandNames, name.toList.head? ≠ some '0' := by decide
  have hcode : ∀ n, (Numeral.hex n).toList.head? = some '0' := fun n => by simp [Numeral.hex]
  have hapart : ∀ {n m : Nat} {name : String}, commandNames[n]? = some name → name ≠ Numeral.hex m :=
    fun hname heq => hnames _ (List.mem_of_getElem? hname) (heq ▸ hcode _)
  unfold commandLabel commandName? at h
  cases hname : commandNames[code]? with
  | none =>
    cases hother : commandNames[other]? with
    | none =>
      rw [hname, hother] at h
      exact Numeral.hex_injective h
    | some name =>
      rw [hname, hother] at h
      exact absurd h.symm (hapart hother)
  | some name =>
    cases hother : commandNames[other]? with
    | none =>
      rw [hname, hother] at h
      exact absurd h (hapart hname)
    | some name' =>
      rw [hname, hother] at h
      obtain rfl : name = name' := h
      obtain ⟨hlt, -⟩ := List.getElem?_eq_some_iff.mp hname
      exact (List.getElem?_inj hlt (by decide)).mp (hname.trans hother.symm)

/-! ## Rows -/

/-- The cell of an endpoint in the row of a code. -/
def counterCell (code : Nat) (e : EndpointSnapshot) : String := (e.counters[code]?.map decimalWord).getD noValue

/-- The table has a heading row with the ids of the endpoints and a row for each code up to the longest counter block.
Behind the label, place `k` of a row belongs to endpoint `k` of the snapshot. -/
structure ShowsCounters (s : Snapshot) (grid : Grid) : Prop where
  heading : grid.head? = some ("Endpoint" :: s.toList.map fun entry => Numeral.decimal entry.1.toNat)
  longest : Columns.Largest (s.toList.map fun entry => entry.2.counters.length) (grid.length - 1)
  cells : ∀ row ∈ grid, row.length = s.size + 1
  label : ∀ code row, grid[code + 1]? = some row → row.head? = some (commandNames.getD code (Numeral.hex code))
  counter : ∀ code row, grid[code + 1]? = some row → ∀ k id e, s.toList[k]? = some (id, e) →
    row[k + 1]? = some (if h : code < e.counters.length then Numeral.decimal e.counters[code].toNat else "-")

theorem longest_counters (s : Snapshot) :
    Columns.Largest (s.toList.map fun entry => entry.2.counters.length) (counterRowCount s) := by
  rw [counterRowCount, values_eq_map_toList, List.map_map]
  exact Columns.largest_foldr_max _

theorem counterRows_succ {row : List String} {code : Nat} (h : (counterRows s)[code + 1]? = some row) :
    row = snapshotRow s (commandLabel code) (counterCell code) := by
  rw [counterRows, List.getElem?_cons_succ, List.getElem?_map] at h
  obtain ⟨place, hplace, rfl⟩ := Option.map_eq_some_iff.mp h
  obtain ⟨hlt, rfl⟩ := List.getElem?_eq_some_iff.mp hplace
  rw [List.getElem_range]
  rfl

theorem length_counterRow : ∀ row ∈ counterRows s, row.length = s.size + 1 :=
  List.forall_mem_cons.mpr ⟨length_headingRow s, List.forall_mem_map.mpr fun _ _ => length_snapshotRow s _ _⟩

theorem showsCounters_counterRows (s : Snapshot) : ShowsCounters s (counterRows s) where
  heading := congrArg some (headingRow_eq s)
  longest := by
    rw [counterRows, List.length_cons, List.length_map, List.length_range, Nat.add_sub_cancel]
    exact longest_counters s
  cells := length_counterRow
  label code row hrow := by
    rw [counterRows_succ hrow, ← commandLabel_eq]
    rfl
  counter code row hrow k id e he := by
    rw [counterRows_succ hrow, snapshotRow_eq, List.getElem?_cons_succ, List.getElem?_map, he]
    show some (counterCell code e) = _
    unfold counterCell
    split_ifs with hcode
    · rw [List.getElem?_eq_getElem hcode]
      rfl
    · rw [List.getElem?_eq_none (Nat.not_lt.mp hcode)]
      rfl

/-- A code has one row if some block is long enough, and otherwise none. -/
theorem cellsAt_counterRows {id : UInt32} {e : EndpointSnapshot} (he : s[id]? = some e) (code : Nat) :
    cellsAt (commandLabel code) (decimalWord id) (counterRows s) =
      if code < counterRowCount s then [counterCell code e] else [] := by
  have hcells : cellsAt (commandLabel code) (decimalWord id) (counterRows s) =
      if code ∈ List.range (counterRowCount s) then [counterCell code e] else [] :=
    cellsAt_rows commandLabel_injective List.nodup_range he code
  simpa only [List.mem_range] using hcells

/-! ## The drawn table -/

theorem solid_counterCell (code : Nat) (e : EndpointSnapshot) : Solid (counterCell code e) := by
  unfold counterCell
  cases e.counters[code]? with
  | none => exact (by decide : Solid noValue)
  | some value => exact .decimal _

theorem solid_headingRow : ∀ cell ∈ headingRow s, Solid cell :=
  List.forall_mem_cons.mpr ⟨by decide, List.forall_mem_map.mpr fun _ _ => .decimal _⟩

theorem solid_counterRow (code : Nat) : ∀ cell ∈ snapshotRow s (commandLabel code) (counterCell code), Solid cell :=
  List.forall_mem_cons.mpr ⟨solid_commandLabel code, List.forall_mem_map.mpr fun e _ => solid_counterCell code e⟩

theorem readable_counterRows (s : Snapshot) : (counterRows s).Readable s.size where
  length := length_counterRow
  trimmed := List.forall_mem_cons.mpr ⟨fun cell hcell => (solid_headingRow cell hcell).trimmed,
    List.forall_mem_map.mpr fun code _ cell hcell => (solid_counterRow code cell hcell).trimmed⟩

/-- **The table of command counters** has a row for each counter of the longest block, and in it a cell for each
endpoint, in the order of the headings.  So each counter is the one cell under its endpoint's id in the row of its
command. -/
theorem counters_account (s : Snapshot) :
    ShowsCounters s (ofDrawing (counters s)) ∧ (s.toList.Pairwise fun x y => x.1 < y.1) ∧
      ∀ (id : UInt32) (e : EndpointSnapshot) (code : Nat) (value : UInt32), s[id]? = some e →
        e.counters[code]? = some value →
        cellsAt (commandLabel code) (decimalWord id) (ofDrawing (counters s)) = [decimalWord value] := by
  have hread : ofDrawing (counters s) = counterRows s := (readable_counterRows s).ofDrawing_draw
  rw [hread]
  refine ⟨showsCounters_counterRows s, ascending_entries s, fun id e code value he hvalue => ?_⟩
  obtain ⟨hlt, -⟩ := List.getElem?_eq_some_iff.mp hvalue
  have hle : e.counters.length ≤ counterRowCount s :=
    (longest_counters s).le _ (List.mem_map_of_mem (mem_entries.mpr he))
  rw [cellsAt_counterRows he, if_pos (Nat.lt_of_lt_of_le hlt hle), counterCell, hvalue]
  rfl

/-- Two endpoints, of which the first has the shorter block. -/
def unequalBlocks : Snapshot := .ofList [(10, ⟨0, 0, 0, ∅, ∅, [6, 7]⟩), (9, ⟨0, 0, 0, ∅, ∅, [5]⟩)] compare

/-- The last counter of endpoint 10 stands in its own column, beside a dash for endpoint 9. -/
theorem unequalBlocks_shows_counter :
    unequalBlocks[(10 : UInt32)]?.bind (fun e => e.counters[1]?) = some 7 ∧
      cellsAt "Echo" "10" (ofDrawing (counters unequalBlocks)) = ["7"] ∧
      counters unequalBlocks = "\n".intercalate
        ["╭──────────┬───┬────╮",
          "│ Endpoint │ 9 │ 10 │",
          "├──────────┼───┼────┤",
          "│ TimeSync │ 5 │ 6  │",
          "│ Echo     │ - │ 7  │",
          "╰──────────┴───┴────╯"] := by
  have hcounter : (unequalBlocks[(10 : UInt32)]?.map fun e => e.counters[1]?) = some (some 7) := by decide +kernel
  obtain ⟨e, he, hvalue⟩ := Option.map_eq_some_iff.mp hcounter
  obtain ⟨-, -, hcells⟩ := counters_account unequalBlocks
  exact ⟨by rw [he]; exact hvalue, hcells 10 e 1 7 he hvalue, by decide +kernel⟩

end TimingFleet.Report
