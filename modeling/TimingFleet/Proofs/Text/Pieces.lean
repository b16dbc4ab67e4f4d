import TimingFleet.Text.Blank
import TimingFleet.Text.Split

/-!
# Pieces and blanks, taken apart and put together

What `split` makes of a text that was put together from pieces, where `splitOnce` cuts a text, and what `trim` takes off
a text: blanks at either end and no more.
-/

namespace TimingFleet.Text

/-! ## Pieces -/

section Split

variable {sep : Char} {cs piece : List Char}

theorem split_cons_of_ne {c : Char} (h : c ≠ sep) {rest : List (List Char)} (hs : split sep cs = piece :: rest) :
    split sep (c :: cs) = (c :: piece) :: rest := by
  simp only [split, if_neg h, hs]

/-- A text without separators is one piece. -/
theorem split_of_not_mem (h : sep ∉ cs) : split sep cs = [cs] := by
  induction cs with
  | nil => rfl
  | cons c cs ih =>
    obtain ⟨hc, hcs⟩ := List.ne_and_not_mem_of_not_mem_cons h
    exact split_cons_of_ne hc.symm (ih hcs)

/-- **Cutting at a separator** cuts what is before it and what is after it. -/
theorem split_append (before after : List Char) :
    split sep (before ++ sep :: after) = split sep before ++ split sep after := by
  induction before with
  | nil => simp [split]
  | cons c before ih =>
    by_cases hc : c = sep
    · simp only [List.cons_append, split, if_pos hc, ih]
    · obtain ⟨piece, rest, hs⟩ := List.exists_cons_of_ne_nil (split_ne_nil sep before)
      rw [hs, List.cons_append] at ih
      rw [List.cons_append, split_cons_of_ne hc ih, split_cons_of_ne hc hs, List.cons_append]

/-- The text before the first separator is the first piece. -/
theorem split_append_sep (h : sep ∉ piece) (cs : List Char) :
    split sep (piece ++ sep :: cs) = piece :: split sep cs := by
  rw [split_append, split_of_not_mem h, List.singleton_append]

/-- The first piece, whatever follows. -/
theorem exists_split_eq (sep : Char) (cs : List Char) : ∃ rest, split sep cs = cs.takeWhile (· ≠ sep) :: rest := by
  induction cs with
  | nil => exact ⟨[], rfl⟩
  | cons c cs ih =>
    obtain ⟨rest, hrest⟩ := ih
    by_cases hc : c = sep
    · exact ⟨split sep cs, by simp [split, hc]⟩
    · exact ⟨rest, by simp [split_cons_of_ne hc hrest, hc]⟩

theorem eq_of_split_eq_one (h : split sep cs = [piece]) : cs = piece := by
  have hjoin := join_split sep cs
  rw [h] at hjoin
  exact hjoin.symm

theorem eq_of_split_eq_two {piece' : List Char} (h : split sep cs = [piece, piece']) :
    cs = piece ++ sep :: piece' := by
  have hjoin := join_split sep cs
  rw [h] at hjoin
  simpa [join] using hjoin.symm

/-- No piece holds a separator. -/
theorem sep_not_mem_of_mem_split (h : piece ∈ split sep cs) : sep ∉ piece := by
  induction cs generalizing piece with
  | nil =>
    obtain rfl := List.mem_singleton.mp h
    exact List.not_mem_nil
  | cons c cs ih =>
    by_cases hc : c = sep
    · rw [split, if_pos hc, List.mem_cons] at h
      rcases h with rfl | h
      · exact List.not_mem_nil
      · exact ih h
    · obtain ⟨first, rest, hs⟩ := List.exists_cons_of_ne_nil (split_ne_nil sep cs)
      rw [split_cons_of_ne hc hs, List.mem_cons] at h
      rcases h with rfl | h
      · exact List.not_mem_cons_of_ne_of_not_mem (Ne.symm hc) (ih (hs ▸ List.mem_cons_self))
      · exact ih (hs ▸ List.mem_cons_of_mem first h)

/-- A joined text has the characters of its pieces and of the separator, and no others. -/
theorem mem_join {sep : List Char} {pieces : List (List Char)} {c : Char} (h : c ∈ join sep pieces) :
    c ∈ sep ∨ ∃ piece ∈ pieces, c ∈ piece := by
  induction pieces with
  | nil => exact absurd h List.not_mem_nil
  | cons piece rest ih =>
    cases rest with
    | nil => exact Or.inr ⟨piece, List.mem_cons_self, h⟩
    | cons next rest =>
      rw [join, List.mem_append, List.mem_append] at h
      · rcases h with (h | h) | h
        · exact Or.inr ⟨piece, List.mem_cons_self, h⟩
        · exact Or.inl h
        · rcases ih h with h | ⟨other, hother, h⟩
          · exact Or.inl h
          · exact Or.inr ⟨other, List.mem_cons_of_mem piece hother, h⟩
      · simp

/-- Pieces that are joined are found again. -/
theorem split_join {pieces : List (List Char)} (hne : pieces ≠ []) (h : ∀ piece ∈ pieces, sep ∉ piece) :
    split sep (join [sep] pieces) = pieces := by
  induction pieces with
  | nil => exact absurd rfl hne
  | cons first rest ih =>
    have hfirst := h first List.mem_cons_self
    cases rest with
    | nil => exact split_of_not_mem hfirst
    | cons next rest =>
      have hjoin : join [sep] (first :: next :: rest) = first ++ sep :: join [sep] (next :: rest) := by simp [join]
      rw [hjoin, split_append_sep hfirst,
        ih (List.cons_ne_nil next rest) fun piece hp => h piece (List.mem_cons_of_mem first hp)]

end Split

/-! ## The first mark -/

/-- `before` and `after` are what stands in `cs` before the first `mark` and after it. -/
structure FirstMark (mark cs before after : List Char) : Prop where
  eq : cs = before ++ mark ++ after
  first : ∀ before' after', cs = before' ++ mark ++ after' → before.length ≤ before'.length

section FirstMark

variable {mark cs before after before' after' : List Char}

theorem FirstMark.unique (h : FirstMark mark cs before after) (h' : FirstMark mark cs before' after') :
    before = before' ∧ after = after' := by
  have hlength : before.length = before'.length := Nat.le_antisymm (h.first _ _ h'.eq) (h'.first _ _ h.eq)
  have happend : before ++ (mark ++ after) = before' ++ (mark ++ after') := by
    rw [← List.append_assoc, ← List.append_assoc, ← h.eq, ← h'.eq]
  obtain ⟨hbefore, htail⟩ := List.append_inj happend hlength
  exact ⟨hbefore, List.append_cancel_left htail⟩

theorem firstMark_of_splitOnce (hmark : mark ≠ []) (h : splitOnce mark cs = some (before, after)) :
    FirstMark mark cs before after := by
  induction cs generalizing before with
  | nil =>
    rw [splitOnce, if_neg hmark] at h
    cases h
  | cons c cs ih =>
    rw [splitOnce] at h
    split at h
    · next hlead =>
      obtain ⟨rfl, rfl⟩ := Prod.mk.inj (Option.some.inj h)
      exact ⟨(List.prefix_iff_eq_append.mp (List.isPrefixOf_iff_prefix.mp hlead)).symm, fun _ _ _ => Nat.zero_le _⟩
    · next hlead =>
      obtain ⟨⟨before₀, after₀⟩, hrest, heq⟩ := Option.map_eq_some_iff.mp h
      obtain ⟨rfl, rfl⟩ := Prod.mk.inj heq
      obtain ⟨hcs, hfirst⟩ := ih hrest
      refine ⟨by rw [hcs]; rfl, fun before' after' hbefore => ?_⟩
      cases before' with
      | nil => exact absurd (List.isPrefixOf_iff_prefix.mpr ⟨after', hbefore.symm⟩) hlead
      | cons c' before' => exact Nat.succ_le_succ (hfirst before' after' (List.cons.inj hbefore).2)

theorem no_mark_of_splitOnce (hmark : mark ≠ []) (h : splitOnce mark cs = none) (before after : List Char) :
    cs ≠ before ++ mark ++ after := by
  induction cs generalizing before with
  | nil => exact fun heq => hmark (List.append_eq_nil_iff.mp (List.append_eq_nil_iff.mp heq.symm).1).2
  | cons c cs ih =>
    rw [splitOnce] at h
    split at h
    · cases h
    · next hlead =>
      intro heq
      cases before with
      | nil => exact hlead (List.isPrefixOf_iff_prefix.mpr ⟨after, heq.symm⟩)
      | cons c' before => exact ih (Option.map_eq_none_iff.mp h) before (List.cons.inj heq).2

/-- **A text is cut once**, at the first mark. -/
theorem splitOnce_eq_some_iff (hmark : mark ≠ []) :
    splitOnce mark cs = some (before, after) ↔ FirstMark mark cs before after := by
  refine ⟨firstMark_of_splitOnce hmark, fun h => ?_⟩
  cases hcut : splitOnce mark cs with
  | none => exact absurd h.eq (no_mark_of_splitOnce hmark hcut before after)
  | some parts =>
    obtain ⟨rfl, rfl⟩ := (firstMark_of_splitOnce hmark hcut).unique h
    rfl

theorem splitOnce_eq_none_iff (hmark : mark ≠ []) :
    splitOnce mark cs = none ↔ ∀ before after, cs ≠ before ++ mark ++ after := by
  refine ⟨no_mark_of_splitOnce hmark, fun h => ?_⟩
  cases hcut : splitOnce mark cs with
  | none => rfl
  | some parts => exact absurd (firstMark_of_splitOnce hmark hcut).eq (h _ _)

/-- The first mark of one character is the one that has no such character before it. -/
theorem firstMark_singleton {sep : Char} :
    FirstMark [sep] cs before after ↔ cs = before ++ sep :: after ∧ sep ∉ before := by
  constructor
  · rintro ⟨heq, hfirst⟩
    refine ⟨by simpa using heq, fun hmem => ?_⟩
    obtain ⟨front, back, rfl⟩ := List.append_of_mem hmem
    have hle := hfirst front (back ++ sep :: after) (by simp [heq])
    rw [List.length_append, List.length_cons] at hle
    omega
  · rintro ⟨rfl, hbefore⟩
    refine ⟨by simp, fun front back heq => Nat.not_lt.mp fun hlt => hbefore ?_⟩
    have hget : (before ++ sep :: after)[front.length]? = some sep := by simp [heq]
    rw [List.getElem?_append_left hlt] at hget
    exact List.mem_of_getElem? hget

theorem splitOnce_singleton_eq_none_iff {sep : Char} : splitOnce [sep] cs = none ↔ sep ∉ cs := by
  rw [splitOnce_eq_none_iff (List.cons_ne_nil sep [])]
  constructor
  · intro h hmem
    obtain ⟨before, after, heq⟩ := List.append_of_mem hmem
    exact h before after (by simp [heq])
  · rintro h before after rfl
    exact h (by simp)

theorem splitOnce_singleton_eq_some_iff {sep : Char} :
    splitOnce [sep] cs = some (before, after) ↔ cs = before ++ sep :: after ∧ sep ∉ before := by
  rw [splitOnce_eq_some_iff (List.cons_ne_nil sep []), firstMark_singleton]

end FirstMark

/-! ## Blanks -/

section Trim

variable {cs before after : List Char}

theorem blank_takeWhile (cs : List Char) : blank (cs.takeWhile isBlank) := List.all_takeWhile

theorem blank_append : blank (before ++ after) ↔ blank before ∧ blank after := by
  simp [blank, List.all_append]

/-- Only blanks are trimmed at the end. -/
theorem exists_eq_trimEnd (cs : List Char) : ∃ after, blank after ∧ cs = trimEnd cs ++ after := by
  refine ⟨(cs.reverse.takeWhile isBlank).reverse, ?_, ?_⟩
  · have h := blank_takeWhile cs.reverse
    simpa only [blank, List.all_reverse] using h
  · have h := congrArg List.reverse (List.takeWhile_append_dropWhile (p := isBlank) (l := cs.reverse))
    rw [List.reverse_append, List.reverse_reverse] at h
    exact h.symm

/-- **Only blanks are trimmed**, at the front and at the end. -/
theorem exists_eq_trim (cs : List Char) :
    ∃ before after, blank before ∧ blank after ∧ cs = before ++ trim cs ++ after := by
  have hfront : cs = cs.takeWhile isBlank ++ trimStart cs := List.takeWhile_append_dropWhile.symm
  obtain ⟨after, hafter, hback⟩ := exists_eq_trimEnd (trimStart cs)
  refine ⟨cs.takeWhile isBlank, after, blank_takeWhile cs, hafter, ?_⟩
  rw [List.append_assoc, trim, ← hback, ← hfront]

/-- A text that begins with no blank keeps its front. -/
theorem trimStart_of_head (h : ∀ c ∈ cs.head?, isBlank c = false) : trimStart cs = cs := by
  cases cs with
  | nil => rfl
  | cons c cs => exact List.dropWhile_cons_of_neg (by simp [h c rfl])

/-- A text that ends with no blank keeps its end. -/
theorem trimEnd_of_getLast (h : ∀ c ∈ cs.getLast?, isBlank c = false) : trimEnd cs = cs := by
  have hrev : trimStart cs.reverse = cs.reverse := trimStart_of_head (by rwa [List.head?_reverse])
  show (trimStart cs.reverse).reverse = cs
  rw [hrev, List.reverse_reverse]

/-- **All blanks at the ends are trimmed**: what is left of a text with blanks around it. -/
theorem trim_append (hb : blank before) (ha : blank after) (hhead : ∀ c ∈ cs.head?, isBlank c = false)
    (hlast : ∀ c ∈ cs.getLast?, isBlank c = false) : trim (before ++ cs ++ after) = cs := by
  cases cs with
  | nil =>
    have hall : blank (before ++ [] ++ after) := by
      rw [List.append_nil]
      exact blank_append.mpr ⟨hb, ha⟩
    have hstart := trimStart_append_of_blank hall []
    rw [List.append_nil] at hstart
    rw [trim, hstart]
    rfl
  | cons c cs =>
    have hhead' : ∀ x ∈ (c :: cs ++ after).head?, isBlank x = false := hhead
    rw [trim, List.append_assoc, trimStart_append_of_blank hb, trimStart_of_head hhead',
      trimEnd_append_of_blank ha, trimEnd_of_getLast hlast]

theorem isBlank_head_trimStart : ∀ c ∈ (trimStart cs).head?, isBlank c = false := by
  intro c hc
  have hhead := List.head?_dropWhile_not isBlank cs
  rw [← trimStart, Option.mem_def.mp hc] at hhead
  exact hhead

/-- Trimming leaves no blank at the end. -/
theorem isBlank_getLast_trim : ∀ c ∈ (trim cs).getLast?, isBlank c = false := by
  intro c hc
  rw [trim, trimEnd, List.getLast?_reverse] at hc
  exact isBlank_head_trimStart c hc

/-- Trimming leaves no blank at the front. -/
theorem isBlank_head_trim : ∀ c ∈ (trim cs).head?, isBlank c = false := by
  intro c hc
  obtain ⟨after, -, hback⟩ := exists_eq_trimEnd (trimStart cs)
  have hhead : c ∈ (trimStart cs).head? := by
    rw [trim] at hc
    rw [hback, List.head?_append, Option.mem_def.mp hc]
    rfl
  exact isBlank_head_trimStart c hhead

end Trim

end TimingFleet.Text
