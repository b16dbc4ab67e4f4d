import TimingFleet.Proofs.Text.Numerals
import TimingFleet.Proofs.Text.Pieces

/-!
# Printable texts

The printable characters are those of ASCII from the blank to the tilde; the only blank among them is that first one.
A text of them that neither begins nor ends with it is found again between any blanks (`Trimmed.trim_append`), and
trimming leaves no other texts of printable characters (`trimmed_trim`).  A written number has no blank at all.

* `Printable text`, `Solid text`: printable characters, with blanks among them or without.
* `Trimmed text`: printable characters without a blank at either end.
-/

namespace TimingFleet.Text

variable {text text' : String} {c : Char} {cs before after : List Char}

/-- Every character is a printable one of ASCII. -/
def Printable (text : String) : Prop := ∀ c ∈ text.toList, ' ' ≤ c ∧ c ≤ '~'

instance : Decidable (Printable text) := List.decidableBAll _ text.toList

namespace Printable

theorem not_mem_of (h : Printable text) (hc : ¬(' ' ≤ c ∧ c ≤ '~')) : c ∉ text.toList := fun hmem => hc (h c hmem)

theorem not_mem (h : Printable text) : '\x1b' ∉ text.toList := h.not_mem_of (by decide)

theorem append (h : Printable text) (h' : Printable text') : Printable (text ++ text') := by
  intro c hc
  rw [String.toList_append] at hc
  exact (List.mem_append.mp hc).elim (h c) (h' c)

end Printable

/-- Every character is a printable one of ASCII other than the blank. -/
def Solid (text : String) : Prop := ∀ c ∈ text.toList, ' ' < c ∧ c ≤ '~'

instance : Decidable (Solid text) := List.decidableBAll _ text.toList

namespace Solid

theorem printable (h : Solid text) : Printable text := fun c hc => ⟨UInt32.le_of_lt (h c hc).1, (h c hc).2⟩

theorem append (h : Solid text) (h' : Solid text') : Solid (text ++ text') := by
  intro c hc
  rw [String.toList_append] at hc
  exact (List.mem_append.mp hc).elim (h c) (h' c)

theorem ofList_toDigits {base : Nat} (hlt : 1 < base) (hle : base ≤ 16) (n : Nat) :
    Solid (String.ofList (Nat.toDigits base n)) := by
  have hall : ∀ d < 16, (' ' < Nat.digitChar d ∧ Nat.digitChar d ≤ '~') ∧
      ' ' < (Nat.digitChar d).toUpper ∧ (Nat.digitChar d).toUpper ≤ '~' := by decide
  intro c hc
  rw [String.toList_ofList] at hc
  obtain ⟨d, hd, hchar⟩ := (Numeral.digits_toDigits hlt n).exists_isDigit c hc
  obtain ⟨hlower, hupper⟩ := hall d (Nat.lt_of_lt_of_le hd hle)
  rcases hchar with rfl | rfl
  · exact hlower
  · exact hupper

theorem decimal (n : Nat) : Solid (Numeral.decimal n) := ofList_toDigits (by decide) (by decide) n

theorem hex (n : Nat) : Solid (Numeral.hex n) :=
  append (by decide) (ofList_toDigits (by decide) (by decide) n)

end Solid

theorem isBlank_of_printable (h : ' ' ≤ c ∧ c ≤ '~') : isBlank c = decide (c = ' ') := by
  obtain ⟨hlo, hhi⟩ := h
  have hlo : 0x20 ≤ c.toNat := hlo
  have hhi : c.toNat ≤ 0x7e := hhi
  have hblank : c = ' ' ↔ c.toNat = 0x20 := Char.toNat_inj.symm
  rw [Bool.eq_iff_iff, decide_eq_true_iff, hblank]
  simp only [isBlank, Bool.or_eq_true, Bool.and_eq_true, decide_eq_true_iff, beq_iff_eq]
  omega

/-- Printable characters without a blank at either end. -/
structure Trimmed (text : String) : Prop where
  printable : Printable text
  head : text.toList.head? ≠ some ' '
  last : text.toList.getLast? ≠ some ' '

theorem Solid.trimmed (h : Solid text) : Trimmed text where
  printable := h.printable
  head := fun hhead => absurd (h ' ' (List.mem_of_mem_head? hhead)).1 (by decide)
  last := fun hlast => absurd (h ' ' (List.mem_of_mem_getLast? hlast)).1 (by decide)

/-- **A trimmed text** is what trimming leaves of it with blanks around it. -/
theorem Trimmed.trim_append (h : Trimmed text) (hb : blank before) (ha : blank after) :
    trim (before ++ text.toList ++ after) = text.toList := by
  refine Text.trim_append hb ha (fun c hc => ?_) fun c hc => ?_
  · rw [isBlank_of_printable (h.printable c (List.mem_of_mem_head? hc)), decide_eq_false_iff_not]
    rintro rfl
    exact h.head hc
  · rw [isBlank_of_printable (h.printable c (List.mem_of_mem_getLast? hc)), decide_eq_false_iff_not]
    rintro rfl
    exact h.last hc

theorem trimmed_trim (h : ∀ c ∈ cs, ' ' ≤ c ∧ c ≤ '~') : Trimmed (String.ofList (trim cs)) := by
  obtain ⟨before, after, -, -, hcs⟩ := exists_eq_trim cs
  constructor
  · rw [Printable, String.toList_ofList]
    exact fun c hc => h c (by rw [hcs]; simp [hc])
  · rw [String.toList_ofList]
    exact fun hhead => absurd (isBlank_head_trim ' ' hhead) (by decide)
  · rw [String.toList_ofList]
    exact fun hlast => absurd (isBlank_getLast_trim ' ' hlast) (by decide)

end TimingFleet.Text
