import Mathlib.Algebra.Ring.Nat
import TimingFleet.Proofs.Text.Grid
import TimingFleet.Proofs.Text.Pieces
import TimingFleet.Text.Columns

/-!
# Reading columns back

Blocks that were set side by side are still there: block `j` begins on every line at the place that the widths of the
blocks before it give, and what stands there, as far as the block is wide, is its line.  Only blanks at the end of a
line are lost, those that fill a line up and those of the block itself.

* `Columns.Largest sizes n`: `n` is the largest of the sizes, or zero if there is none.
* `Columns.start blocks j`: the place at which block `j` begins.
-/

namespace TimingFleet.Text

/-! ## Joined pieces -/

/-- **A joined piece** stands behind the pieces before it, each with its separator. -/
theorem take_drop_join (sep : List Char) (pieces : List (List Char)) (j : Nat) :
    ((join sep pieces).drop ((pieces.take j).map fun piece => piece.length + sep.length).sum).take
      (pieces.getD j []).length = pieces.getD j [] := by
  induction pieces generalizing j with
  | nil => simp [join]
  | cons piece rest ih =>
    cases rest with
    | nil =>
      cases j with
      | zero => simp [join]
      | succ j => simp
    | cons next rest =>
      have hjoin : join sep (piece :: next :: rest) = (piece ++ sep) ++ join sep (next :: rest) := by simp [join]
      rw [hjoin]
      cases j with
      | zero => simp
      | succ j =>
        have hlength : piece.length + sep.length = (piece ++ sep).length := List.length_append.symm
        rw [List.take_succ_cons, List.map_cons, List.sum_cons, List.getD_cons_succ, hlength, ← List.drop_drop,
          List.drop_left, ih j]

/-! ## Lines -/

theorem newline_not_mem_of_mem_lines {cs line : List Char} (h : line ∈ lines cs) : '\n' ∉ line := by
  have hpiece : ∀ piece ∈ split '\n' cs, '\n' ∉ piece := fun piece => sep_not_mem_of_mem_split
  rcases List.mem_append.mp h with h | h
  · obtain ⟨piece, hmem, rfl⟩ := List.mem_map.mp h
    have hno := hpiece piece (List.mem_of_mem_dropLast hmem)
    unfold dropReturn
    split_ifs
    · exact fun hc => hno (List.mem_of_mem_dropLast hc)
    · exact hno
  · split_ifs at h with hlast
    · exact absurd h List.not_mem_nil
    · obtain rfl := List.mem_singleton.mp h
      refine hpiece _ ?_
      rw [List.getLastD_eq_getLast?, List.getLast?_eq_some_getLast (split_ne_nil '\n' cs)]
      exact List.getLast_mem _

/-! ## Blanks at the end -/

section Trim

variable {cs after : List Char}

/-- What is cut out of a text that has lost the blanks at its end differs by such blanks only. -/
theorem trimEnd_cut (hafter : blank after) (n m : Nat) :
    trimEnd ((cs.drop n).take m) = trimEnd (((cs ++ after).drop n).take m) := by
  have hblank : blank ((after.drop (n - cs.length)).take (m - (cs.drop n).length)) := by
    refine List.all_eq_true.mpr fun c hc => ?_
    exact List.all_eq_true.mp hafter c (List.mem_of_mem_drop (List.mem_of_mem_take hc))
  rw [List.drop_append, List.take_append, trimEnd_append_of_blank hblank]

end Trim

/-! ## Columns -/

namespace Columns

variable {block : List (List Char)} {blocks : List (List (List Char))}

/-- `n` is the largest of the sizes, or zero if there is none. -/
structure Largest (sizes : List Nat) (n : Nat) : Prop where
  le : ∀ size ∈ sizes, size ≤ n
  reached : n ∈ sizes ∨ sizes = [] ∧ n = 0

theorem largest_foldr_max (sizes : List Nat) : Largest sizes (sizes.foldr max 0) := by
  refine ⟨fun size => Grid.le_foldr_max, ?_⟩
  induction sizes with
  | nil => exact Or.inr ⟨rfl, rfl⟩
  | cons size sizes ih =>
    refine Or.inl ?_
    rw [List.foldr_cons]
    rcases Nat.le_total (sizes.foldr max 0) size with hle | hle
    · rw [Nat.max_eq_left hle]
      exact List.mem_cons_self
    · rw [Nat.max_eq_right hle]
      rcases ih with h | ⟨rfl, -⟩
      · exact List.mem_cons_of_mem size h
      · exact List.mem_singleton.mpr (Nat.le_zero.mp hle).symm

/-- The place on each line at which block `j` begins: behind the blocks before it, with two blanks after each. -/
def start (blocks : List (List (List Char))) (j : Nat) : Nat :=
  ((blocks.take j).map fun block => blockWidth block + 2).sum

/-- **No line is wider than its block**, so that there is never less than nothing to fill up. -/
theorem length_le_blockWidth (block : List (List Char)) (i : Nat) : (block.getD i []).length ≤ blockWidth block := by
  rw [List.getD_eq_getElem?_getD]
  cases h : block[i]? with
  | none => exact Nat.zero_le _
  | some line => exact Grid.le_foldr_max (List.mem_map_of_mem (List.mem_of_getElem? h))

theorem length_blockLine (block : List (List Char)) (i : Nat) : (blockLine block i).length = blockWidth block := by
  have hle := length_le_blockWidth block i
  simp only [blockLine, List.length_append, List.length_replicate]
  omega

theorem trimEnd_blockLine (block : List (List Char)) (i : Nat) :
    trimEnd (blockLine block i) = trimEnd (block.getD i []) := by
  refine trimEnd_append_of_blank (List.all_eq_true.mpr fun c hc => ?_) _
  rw [List.eq_of_mem_replicate hc]
  decide

/-- **A block on a line**: what stands at its place is the block's line, but for blanks at the end. -/
theorem trimEnd_outputLine (blocks : List (List (List Char))) (i j : Nat) :
    trimEnd (((outputLine blocks i).drop (start blocks j)).take (blockWidth (blocks.getD j []))) =
      trimEnd ((blocks.getD j []).getD i []) := by
  obtain ⟨after, hafter, hline⟩ := exists_eq_trimEnd (join [' ', ' '] (blocks.map (blockLine · i)))
  have hstart : start blocks j = (((blocks.map (blockLine · i)).take j).map fun piece => piece.length + 2).sum := by
    simp only [start, ← List.map_take, List.map_map, Function.comp_def, length_blockLine]
  have hpiece : (blocks.map (blockLine · i)).getD j [] = blockLine (blocks.getD j []) i := by
    have hnil : blockLine [] i = [] := by simp [blockLine, blockWidth]
    simp only [List.getD_eq_getElem?_getD, List.getElem?_map]
    cases blocks[j]? with
    | none => exact hnil.symm
    | some block => rfl
  have hcut := take_drop_join [' ', ' '] (blocks.map (blockLine · i)) j
  rw [hpiece, length_blockLine] at hcut
  rw [outputLine, trimEnd_cut hafter, ← hline, hstart]
  exact (congrArg trimEnd hcut).trans (trimEnd_blockLine _ i)

theorem newline_not_mem_outputLine (h : ∀ block ∈ blocks, ∀ line ∈ block, '\n' ∉ line) (i : Nat) :
    '\n' ∉ outputLine blocks i := by
  intro hmem
  obtain ⟨after, -, hline⟩ := exists_eq_trimEnd (join [' ', ' '] (blocks.map (blockLine · i)))
  have hjoin : '\n' ∈ join [' ', ' '] (blocks.map (blockLine · i)) := by
    rw [hline]
    exact List.mem_append_left after hmem
  rcases mem_join hjoin with hsep | ⟨piece, hpiece, hmem⟩
  · exact absurd hsep (by decide)
  obtain ⟨block, hblock, rfl⟩ := List.mem_map.mp hpiece
  rcases List.mem_append.mp hmem with hmem | hmem
  · rw [List.getD_eq_getElem?_getD] at hmem
    cases hi : block[i]? with
    | none => simp [hi] at hmem
    | some line =>
      rw [hi] at hmem
      exact h block hblock line (List.mem_of_getElem? hi) hmem
  · exact absurd (List.eq_of_mem_replicate hmem) (by decide)

/-- Behind the last line there is nothing, in any block. -/
theorem getD_of_height_le {i : Nat} (h : height blocks ≤ i) (j : Nat) : (blocks.getD j []).getD i [] = [] := by
  rw [List.getD_eq_getElem?_getD (l := blocks)]
  cases hj : blocks[j]? with
  | none => rfl
  | some block =>
    have hlength : block.length ≤ height blocks :=
      Grid.le_foldr_max (List.mem_map_of_mem (List.mem_of_getElem? hj))
    rw [Option.getD_some, List.getD_eq_getElem?_getD,
      List.getElem?_eq_none (Nat.le_trans hlength h), Option.getD_none]

/-- Text blocks as lists of their lines. -/
def ofTexts (texts : List String) : List (List (List Char)) := texts.map fun text => lines text.toList

theorem split_collate {texts : List String} (h : height (ofTexts texts) ≠ 0) :
    split '\n' (collate texts).toList = collateLines (ofTexts texts) := by
  rw [collate, String.toList_ofList]
  refine split_join (fun hnil => h ?_) fun line hline => ?_
  · exact List.range_eq_nil.mp (List.map_eq_nil_iff.mp hnil)
  · obtain ⟨i, -, rfl⟩ := List.mem_map.mp hline
    refine newline_not_mem_outputLine (fun block hblock line hline => ?_) i
    obtain ⟨text, -, rfl⟩ := List.mem_map.mp hblock
    exact newline_not_mem_of_mem_lines hline

/-- The lines of the output, and nothing behind them. -/
theorem getD_split_collate (texts : List String) (i : Nat) :
    (split '\n' (collate texts).toList).getD i [] =
      if i < height (ofTexts texts) then outputLine (ofTexts texts) i else [] := by
  by_cases hnone : height (ofTexts texts) = 0
  · have hempty : split '\n' (collate texts).toList = [[]] := by
      show split '\n' (String.ofList (join ['\n'] (collateLines (ofTexts texts)))).toList = _
      simp [collateLines, hnone, join, split]
    cases i <;> simp [hempty, hnone]
  · rw [split_collate hnone, collateLines, List.getD_eq_getElem?_getD, List.getElem?_map]
    split_ifs with hi
    · rw [List.getElem?_range hi]
      rfl
    · rw [List.getElem?_eq_none (by simpa using hi)]
      rfl

/-- **Text blocks side by side can be read back.** -/
theorem collate_columns (texts : List String) :
    (∀ block ∈ ofTexts texts, Largest (block.map List.length) (blockWidth block)) ∧
      Largest ((ofTexts texts).map List.length) (height (ofTexts texts)) ∧
      (∀ block ∈ ofTexts texts, ∀ i, (block.getD i []).length ≤ blockWidth block) ∧
      (height (ofTexts texts) = 0 → collate texts = "") ∧
      (height (ofTexts texts) ≠ 0 → (split '\n' (collate texts).toList).length = height (ofTexts texts)) ∧
      ∀ i j, let place := ((split '\n' (collate texts).toList).getD i []).drop (start (ofTexts texts) j)
        let block := (ofTexts texts).getD j []
        trimEnd (place.take (blockWidth block)) = trimEnd (block.getD i []) := by
  refine ⟨fun block _ => largest_foldr_max _, largest_foldr_max _, fun block _ => length_le_blockWidth block,
    fun hnone => ?_, fun hsome => ?_, fun i j => ?_⟩
  · show String.ofList (join ['\n'] (collateLines (ofTexts texts))) = ""
    simp [collateLines, hnone, join]
  · rw [split_collate hsome, collateLines, List.length_map, List.length_range]
  · intro place block
    rw [show place = _ from congrArg (List.drop _) (getD_split_collate texts i)]
    split_ifs with hi
    · exact trimEnd_outputLine (ofTexts texts) i j
    · rw [show block.getD i [] = [] from getD_of_height_le (Nat.not_lt.mp hi) j]
      simp

-- A line that a block does not have leaves its place empty; at the end of the output line nothing of it is left.
example : collate ["ab\ncd\nef", "xyz"] = "ab  xyz\ncd\nef" := by decide +kernel

end Columns

end TimingFleet.Text
