import Mathlib.Tactic.IntervalCases
import TimingFleet.Proofs.Text.Decimal
import TimingFleet.Text.Colour
import TimingFleet.Text.Width

/-!
# Dyed texts

A colour sequence is an escape character, a bracket, digits and the letter `m`.  A text is dyed by putting colour
sequences between its characters.

* `uncoloured cs`: the text without its colour sequences.
* `Dyed cs ds`: the text `cs` is `ds` with colour sequences put in.
* `Palette.Wraps palette`: the palette writes colours as such sequences.

Taking the sequences of a dyed text out again gives the text (`uncoloured_of_dyed`).  Painting dyes, also what has been
dyed before (`Dyed.paint`), and a terminal shows the same of both texts (`shown_of_dyed`), so they are equally wide
where each character takes one column (`width_of_dyed`).
-/

namespace TimingFleet.Text

variable {c : Char} {cs cs' ds ds' digits rest : List Char}

/-! ## Taking colours off -/

/-- What follows the colour sequence that the text begins with, if it begins with one. -/
def afterColour? : List Char → Option (List Char)
  | '\x1b' :: '[' :: d :: cs =>
    if d.isDigit then
      match cs.dropWhile Char.isDigit with
      | 'm' :: rest => some rest
      | _ => none
    else none
  | _ => none

theorem length_of_afterColour? (h : afterColour? cs = some rest) : rest.length < cs.length := by
  unfold afterColour? at h
  split at h
  · next d cs =>
    split_ifs at h
    split at h
    · next rest' hdrop =>
      obtain rfl := Option.some.inj h
      have hle : ('m' :: rest').length ≤ cs.length := hdrop ▸ (List.dropWhile_suffix _).length_le
      simp only [List.length_cons] at hle ⊢
      omega
    · cases h
  · cases h

/-- The text without its colour sequences. -/
def uncoloured : List Char → List Char
  | [] => []
  | c :: cs =>
    match _h : afterColour? (c :: cs) with
    | some rest => uncoloured rest
    | none => c :: uncoloured cs
termination_by cs => cs.length
decreasing_by
  · exact length_of_afterColour? _h
  · exact Nat.lt_succ_self _

theorem uncoloured_cons_of_ne (hc : c ≠ '\x1b') (cs : List Char) : uncoloured (c :: cs) = c :: uncoloured cs := by
  have hnone : afterColour? (c :: cs) = none := by
    unfold afterColour?
    split
    · next h => exact absurd (List.cons.inj h).1 hc
    · rfl
  rw [uncoloured]
  split
  · next h => exact nomatch hnone.symm.trans h
  · rfl

theorem afterColour?_colour (hne : digits ≠ []) (hdigits : ∀ c ∈ digits, c.isDigit) (cs : List Char) :
    afterColour? ('\x1b' :: '[' :: (digits ++ 'm' :: cs)) = some cs := by
  obtain ⟨d, digits, rfl⟩ := List.exists_cons_of_ne_nil hne
  obtain ⟨hd, hdigits⟩ := List.forall_mem_cons.mp hdigits
  have hdrop : (digits ++ 'm' :: cs).dropWhile Char.isDigit = 'm' :: cs := by
    rw [List.dropWhile_append_of_pos hdigits]
    rfl
  simp only [List.cons_append, afterColour?, hd, if_true, hdrop]

theorem uncoloured_colour (hne : digits ≠ []) (hdigits : ∀ c ∈ digits, c.isDigit) (cs : List Char) :
    uncoloured ('\x1b' :: '[' :: (digits ++ 'm' :: cs)) = uncoloured cs := by
  have hafter := afterColour?_colour hne hdigits cs
  rw [uncoloured]
  split
  · next h => exact congrArg uncoloured (Option.some.inj (h.symm.trans hafter))
  · next h => exact nomatch h.symm.trans hafter

/-! ## Palettes -/

/-- The palette writes colours as escape sequences.  In front of the text stands the sequence of the colour, which has
digits as its parameter, and behind it the sequence that resets; after each reset within the text stands the sequence of
the colour again. -/
def Palette.Wraps (palette : Palette) : Prop :=
  ∀ c, ∃ digits, digits ≠ [] ∧ (∀ d ∈ digits, d.isDigit) ∧ ∀ text, (palette.paint c text).toList =
    Colour.sequence digits ++ Colour.reopen (Colour.sequence digits) text.toList ++ Colour.reset

theorem Palette.wraps_coloured : Palette.coloured.Wraps := by
  intro c
  have hcode : c.code.toList ≠ [] ∧ ∀ d ∈ c.code.toList, d.isDigit := by
    rw [← List.all_eq_true]
    cases c <;> decide
  exact ⟨c.code.toList, hcode.1, hcode.2, fun _ => String.toList_ofList⟩

/-! ## Dyed texts -/

/-- The first text is the second one with colour sequences put in. -/
inductive Dyed : List Char → List Char → Prop where
  | nil : Dyed [] []
  | char {c : Char} {cs ds : List Char} (hc : c ≠ '\x1b') (h : Dyed cs ds) : Dyed (c :: cs) (c :: ds)
  | colour {digits cs ds : List Char} (hne : digits ≠ []) (hdigits : ∀ c ∈ digits, c.isDigit) (h : Dyed cs ds) :
      Dyed ('\x1b' :: '[' :: (digits ++ 'm' :: cs)) ds

/-- **Colours can be taken off** a dyed text, and what is left is the text itself. -/
theorem uncoloured_of_dyed (h : Dyed cs ds) : uncoloured cs = ds := by
  induction h with
  | nil => rw [uncoloured]
  | char hc _ ih => rw [uncoloured_cons_of_ne hc, ih]
  | colour hne hdigits _ ih => rw [uncoloured_colour hne hdigits, ih]

namespace Dyed

/-- A text without escape characters is a dyed form of itself. -/
theorem refl (h : '\x1b' ∉ cs) : Dyed cs cs := by
  induction cs with
  | nil => exact .nil
  | cons c cs ih =>
    obtain ⟨hc, hcs⟩ := List.ne_and_not_mem_of_not_mem_cons h
    exact .char hc.symm (ih hcs)

theorem append (h : Dyed cs ds) (h' : Dyed cs' ds') : Dyed (cs ++ cs') (ds ++ ds') := by
  induction h with
  | nil => exact h'
  | char hc _ ih => exact .char hc ih
  | colour hne hdigits _ ih =>
    rw [List.cons_append, List.cons_append, List.append_assoc]
    exact .colour hne hdigits ih

/-- A dyed form of one line is one line. -/
theorem newline_not_mem (h : Dyed cs ds) (hds : '\n' ∉ ds) : '\n' ∉ cs := by
  induction h with
  | nil => exact hds
  | char _ _ ih =>
    obtain ⟨hc, hds⟩ := List.ne_and_not_mem_of_not_mem_cons hds
    exact List.not_mem_cons_of_ne_of_not_mem hc (ih hds)
  | @colour digits cs ds _ hdigits _ ih =>
    have hno : '\n' ∉ digits := fun h => absurd (hdigits '\n' h) (by decide)
    simpa [hno] using ih hds

/-! ### Painting -/

/-- A colour sequence in front. -/
theorem sequence (h : Dyed cs ds) (hne : digits ≠ []) (hdigits : ∀ c ∈ digits, c.isDigit) :
    Dyed (Colour.sequence digits ++ cs) ds := by
  have hdyed := Dyed.colour hne hdigits h
  simpa [Colour.sequence] using hdyed

theorem reset (h : Dyed cs ds) : Dyed (Colour.reset ++ cs) ds := by
  have hzero : ∀ c ∈ ['0'], c.isDigit := List.forall_mem_singleton.mpr (by decide)
  exact .colour (by decide) hzero h

/-- Nothing is put behind characters that are no escape characters. -/
theorem reopen_append (style : List Char) (h : '\x1b' ∉ cs) (rest : List Char) :
    Colour.reopen style (cs ++ rest) = cs ++ Colour.reopen style rest := by
  induction cs with
  | nil => rfl
  | cons c cs ih =>
    obtain ⟨hc, hcs⟩ := List.ne_and_not_mem_of_not_mem_cons h
    rw [List.cons_append, Colour.reopen, ih hcs, List.cons_append]
    exact fun _ heq => absurd heq hc.symm

/-- A sequence other than the one that resets is left alone. -/
theorem reopen_colour (style : List Char) (hdigits : ∀ c ∈ digits, c.isDigit) (hne : digits ≠ ['0'])
    (cs : List Char) : Colour.reopen style ('\x1b' :: '[' :: (digits ++ 'm' :: cs)) =
      '\x1b' :: '[' :: (digits ++ 'm' :: Colour.reopen style cs) := by
  have hescape : '\x1b' ∉ '[' :: (digits ++ ['m']) := by
    have hno : '\x1b' ∉ digits := fun h => absurd (hdigits '\x1b' h) (by decide)
    simp [hno]
  have htail := reopen_append style hescape cs
  rw [Colour.reopen]
  · simpa using htail
  · rintro more - heq
    have heq := (List.cons.inj heq).2
    cases digits with
    | nil => exact absurd (List.cons.inj heq).1 (by decide)
    | cons d digits =>
      obtain ⟨rfl, hrest⟩ := List.cons.inj heq
      cases digits with
      | nil => exact hne rfl
      | cons e digits =>
        obtain ⟨rfl, -⟩ := List.cons.inj hrest
        exact absurd (hdigits 'm' (by simp)) (by decide)

/-- A dyed text stays one when a colour is switched on again after each reset. -/
theorem reopen {style : List Char} (h : Dyed cs ds) (hne : style ≠ []) (hstyle : ∀ c ∈ style, c.isDigit) :
    Dyed (Colour.reopen (Colour.sequence style) cs) ds := by
  induction h with
  | nil => exact .nil
  | @char d cs ds hd _ ih =>
    have hone : '\x1b' ∉ [d] := by simpa using Ne.symm hd
    exact (reopen_append (Colour.sequence style) hone cs).symm ▸ .char hd ih
  | @colour digits cs ds hdigits_ne hdigits _ ih =>
    by_cases hreset : digits = ['0']
    · subst hreset
      show Dyed (Colour.reset ++ Colour.sequence style ++ Colour.reopen (Colour.sequence style) cs) ds
      rw [List.append_assoc]
      exact (ih.sequence hne hstyle).reset
    · rw [reopen_colour (Colour.sequence style) hdigits hreset]
      exact .colour hdigits_ne hdigits ih

/-- **Painting dyes**, also what has been dyed before. -/
theorem paint {palette : Palette} {text : String} (hp : palette.Wraps) (h : Dyed text.toList ds) (c : Colour) :
    Dyed (c.paint palette text).toList ds := by
  obtain ⟨digits, hne, hdigits, hpaint⟩ := hp c
  have hclosed : Dyed (Colour.reopen (Colour.sequence digits) text.toList ++ Colour.reset) (ds ++ []) :=
    (h.reopen hne hdigits).append (by simpa using Dyed.nil.reset)
  rw [List.append_nil] at hclosed
  rw [Colour.paint, hpaint, List.append_assoc]
  exact hclosed.sequence hne hdigits

end Dyed

/-! ## What is shown -/

namespace Escape

/-- The bytes of a text. -/
def bytes (cs : List Char) : Nat := (cs.map Char.utf8Size).sum

theorem splitBytes_bytes (cs ds : List Char) : splitBytes (bytes cs) (cs ++ ds) = (cs, ds) := by
  induction cs with
  | nil => cases ds <;> rfl
  | cons c cs ih =>
    obtain ⟨n, hn⟩ := Nat.exists_eq_succ_of_ne_zero (Nat.ne_of_gt c.utf8Size_pos)
    have hbytes : bytes (c :: cs) = n + bytes cs + 1 := by
      rw [bytes, List.map_cons, List.sum_cons, hn, bytes]
      omega
    rw [hbytes, List.cons_append, splitBytes, hn, show n + bytes cs + 1 - n.succ = bytes cs by omega, ih]

/-- Outside sequences every character but the escape character is shown. -/
theorem step_text (hc : c ≠ '\x1b') : step .text c = ⟨.text, c.utf8Size, none⟩ := by
  have hsize : c < '\u0080' → c.utf8Size = 1 := by
    intro h
    have hval : c.val.toNat < 128 := UInt32.lt_iff_toNat_lt.mp h
    rw [Char.utf8Size_eq_one_iff, UInt32.le_iff_toNat_le]
    exact Nat.le_of_lt_succ hval
  unfold step
  rw [if_neg hc]
  split_ifs with hcancel hcontrol hascii
  · have hlt : c < '\u0080' := by
      simp only [Bool.or_eq_true, decide_eq_true_eq] at hcancel
      rcases hcancel with rfl | rfl <;> decide
    rw [hsize hlt]
    rfl
  · have hlt : c < '\u0080' := Char.lt_trans hcontrol (by decide)
    rw [hsize hlt]
    rfl
  · rw [hsize hascii]
    rfl
  · rfl

theorem ne_escape_of_isDigit (h : c.isDigit) : c ≠ '\x1b' := by
  rintro rfl
  exact absurd h (by decide)

/-- Digits are the parameters of a sequence. -/
theorem step_digit (h : c.isDigit) :
    step .bracket c = ⟨.parameters 0 0, 0, none⟩ ∧ step (.parameters 0 0) c = ⟨.parameters 0 0, 0, none⟩ := by
  obtain ⟨hlo, hhi⟩ := Numeral.isDigit_iff.mp h
  rw [← Char.ofNat_toNat c]
  generalize c.toNat = n at hlo hhi
  interval_cases n <;> exact ⟨rfl, rfl⟩

theorem piecesFrom_step {r r' : Reading} {n shown : Nat} (hstep : step r c = ⟨r', n, none⟩) (hc : c ≠ '\x1b')
    (run cs : List Char) : piecesFrom r run shown (c :: cs) = piecesFrom r' (c :: run) (shown + n) cs := by
  have hsingle : isDoubled r run c = false := by simp [isDoubled, hc]
  simp [piecesFrom, hstep, hsingle]

theorem piecesFrom_digits (hdigits : ∀ c ∈ digits, c.isDigit) (run : List Char) (shown : Nat) (cs : List Char) :
    piecesFrom (.parameters 0 0) run shown (digits ++ cs) =
      piecesFrom (.parameters 0 0) (digits.reverse ++ run) shown cs := by
  induction digits generalizing run with
  | nil => rfl
  | cons d digits ih =>
    obtain ⟨hd, hdigits⟩ := List.forall_mem_cons.mp hdigits
    rw [List.cons_append, piecesFrom_step (step_digit hd).2 (ne_escape_of_isDigit hd), Nat.add_zero, ih hdigits,
      List.reverse_cons, List.append_assoc]
    rfl

/-- A colour sequence ends the text before it, and reading goes on as at the beginning. -/
theorem piecesFrom_colour (hne : digits ≠ []) (hdigits : ∀ c ∈ digits, c.isDigit) (run : List Char) (shown : Nat)
    (cs : List Char) : piecesFrom .text run shown ('\x1b' :: '[' :: (digits ++ 'm' :: cs)) =
      cut shown (run.reverse ++ '\x1b' :: '[' :: (digits ++ ['m'])) .style ++ piecesFrom .text [] 0 cs := by
  obtain ⟨d, digits, rfl⟩ := List.exists_cons_of_ne_nil hne
  obtain ⟨hd, hdigits⟩ := List.forall_mem_cons.mp hdigits
  have hfirst : ∀ more, piecesFrom .text run shown ('\x1b' :: more) = piecesFrom .escape ('\x1b' :: run) shown more :=
    fun _ => rfl
  have hbracket : step .escape '[' = ⟨.bracket, 0, none⟩ := rfl
  have hlast : ∀ run more, piecesFrom (.parameters 0 0) run shown ('m' :: more) =
      cut shown ('m' :: run).reverse .style ++ piecesFrom .text [] 0 more := fun _ _ => rfl
  rw [hfirst, piecesFrom_step hbracket (by decide), List.cons_append,
    piecesFrom_step (step_digit hd).1 (ne_escape_of_isDigit hd), piecesFrom_digits hdigits, Nat.add_zero, hlast]
  simp

theorem text_shownPiece (cs : List Char) : (shownPiece cs).flatMap Piece.text = cs := by
  unfold shownPiece
  split_ifs with h
  · exact h.symm
  · exact List.append_nil cs

theorem bytes_eq_zero (h : bytes cs = 0) : cs = [] := by
  cases cs with
  | nil => rfl
  | cons c cs =>
    rw [bytes, List.map_cons, List.sum_cons] at h
    exact absurd (Nat.add_eq_zero_iff.mp h).1 (Nat.ne_of_gt c.utf8Size_pos)

theorem bytes_reverse (cs : List Char) : bytes cs.reverse = bytes cs := by
  rw [bytes, List.map_reverse, List.sum_reverse, bytes]

/-- What is shown of a dyed text after a run of text. -/
theorem shown_piecesFrom (h : Dyed cs ds) (run : List Char) :
    (piecesFrom .text run (bytes run) cs).flatMap Piece.text = run.reverse ++ ds := by
  induction h generalizing run with
  | nil =>
    rw [piecesFrom, List.append_nil, cutOff]
    split_ifs with hnone
    · rw [bytes_eq_zero hnone]
      rfl
    · exact text_shownPiece run.reverse
  | @char c cs ds hc _ ih =>
    have hrun : bytes run + c.utf8Size = bytes (c :: run) := by
      rw [bytes, bytes, List.map_cons, List.sum_cons, Nat.add_comm]
    rw [piecesFrom_step (step_text hc) hc, hrun, ih, List.reverse_cons, List.append_assoc]
    rfl
  | @colour digits cs ds hne hdigits _ ih =>
    have hrest : (piecesFrom .text [] 0 cs).flatMap Piece.text = ds := ih []
    have hcut : cut (bytes run) (run.reverse ++ '\x1b' :: '[' :: (digits ++ ['m'])) .style =
        shownPiece run.reverse ++ [.style ('\x1b' :: '[' :: (digits ++ ['m']))] := by
      rw [cut, ← bytes_reverse, splitBytes_bytes]
      rfl
    rw [piecesFrom_colour hne hdigits, hcut, List.flatMap_append, List.flatMap_append, text_shownPiece, hrest]
    simp [Piece.text]

end Escape

/-- **A terminal shows** of a dyed text the text itself. -/
theorem shown_of_dyed (h : Dyed cs ds) : (pieces cs).flatMap Piece.text = ds := Escape.shown_piecesFrom h []

/-! ## Width -/

/-- A text of characters that stand by themselves is as wide as it is long. -/
theorem measure_eq (h : ∀ c ∈ cs, c ≤ '\u00a0') : Width.measure cs = ((cs.length : Int), {}) := by
  induction cs with
  | nil => rfl
  | cons c cs ih =>
    obtain ⟨hc, hcs⟩ := List.forall_mem_cons.mp h
    have hadd : Width.add c {} = (1, {}) := by
      unfold Width.add
      simp only [Bool.false_and, Bool.false_eq_true, if_false]
      exact if_pos hc
    have hstep : Width.measure (c :: cs) =
        ((Width.add c (Width.measure cs).2).1 + (Width.measure cs).1, (Width.add c (Width.measure cs).2).2) := rfl
    rw [hstep, ih hcs, hadd, List.length_cons, Int.add_comm]
    rfl

theorem width_eq_length (h : ∀ c ∈ (pieces cs).flatMap Piece.text, c ≤ '\u00a0') :
    width cs = ((pieces cs).flatMap Piece.text).length := by
  unfold width
  generalize pieces cs = parts at h
  induction parts with
  | nil => rfl
  | cons piece parts ih =>
    rw [List.flatMap_cons, List.forall_mem_append] at h
    rw [List.map_cons, List.map_cons, List.foldr_cons, ih h.2, Width.ofText, measure_eq h.1, List.flatMap_cons,
      List.length_append]
    rfl

/-- **Colours take no columns.** -/
theorem width_of_dyed (h : Dyed cs ds) (hds : ∀ c ∈ ds, c ≤ '\u00a0') : width cs = ds.length := by
  have hshown := shown_of_dyed h
  rw [width_eq_length (hshown ▸ hds), hshown]

end TimingFleet.Text
