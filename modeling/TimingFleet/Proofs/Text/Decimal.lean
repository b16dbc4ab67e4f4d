import TimingFleet.Proofs.Text.Numerals

/-!
# Decimal numerals

The digits of base ten are the ten figures, and their value is the one that `Nat.ofDigitChars` gives
(`digits_ten_iff`).  So figures are read as the word of that value, if there is one, however many zeros lead them.
-/

namespace TimingFleet.Text.Numeral

variable {c : Char} {cs : List Char} {n : Nat}

theorem isDigit_iff : c.isDigit = true ↔ 0x30 ≤ c.toNat ∧ c.toNat ≤ 0x39 := by
  simp only [Char.isDigit, Bool.and_eq_true, decide_eq_true_eq, ge_iff_le, UInt32.le_iff_toNat_le]
  rfl

/-- No letter is a digit of base ten. -/
theorem isDigit_ten_iff {d : Nat} : IsDigit 10 c d ↔ c.isDigit = true ∧ c.toNat = 0x30 + d := by
  rw [isDigit_iff]
  constructor
  · rintro ⟨hlt, hchar⟩
    obtain ⟨hlower, hupper⟩ := digitChar_toNat (Nat.lt_of_lt_of_le hlt (by decide))
    rw [← Char.toNat_inj, ← Char.toNat_inj, hlower, hupper, if_pos hlt, if_pos hlt, or_self] at hchar
    omega
  · rintro ⟨⟨-, hhi⟩, hc⟩
    have hlt : d < 10 := by omega
    refine ⟨hlt, .inl (Char.toNat_inj.mp ?_)⟩
    rw [hc, (digitChar_toNat (Nat.lt_of_lt_of_le hlt (by decide))).1, if_pos hlt]

/-- **Digits of base ten** are figures with their value. -/
theorem digits_ten_iff : Digits 10 cs n ↔ cs ≠ [] ∧ (∀ c ∈ cs, c.isDigit) ∧ Nat.ofDigitChars 10 cs 0 = n := by
  have hvalue : ∀ (cs : List Char) {c : Char} {d : Nat}, IsDigit 10 c d →
      Nat.ofDigitChars 10 (cs ++ [c]) 0 = Nat.ofDigitChars 10 cs 0 * 10 + d := by
    intro cs c d h
    have hd : c.toNat - '0'.toNat = d := by
      rw [(isDigit_ten_iff.mp h).2]
      exact Nat.add_sub_cancel_left 0x30 d
    rw [Nat.ofDigitChars_append, Nat.ofDigitChars_cons, Nat.ofDigitChars_nil, hd, Nat.mul_comm]
  constructor
  · intro h
    refine ⟨h.ne_nil, fun c hc => ?_, ?_⟩
    · obtain ⟨d, hd⟩ := h.exists_isDigit c hc
      exact (isDigit_ten_iff.mp hd).1
    · induction h with
      | single h => simpa using hvalue [] h
      | concat _ h ih => rw [hvalue _ h, ih]
  · rintro ⟨hne, hcs, rfl⟩
    induction cs using List.reverseRecOn with
    | nil => exact absurd rfl hne
    | append_singleton cs c ih =>
      obtain ⟨hcs, hc⟩ := List.forall_mem_append.mp hcs
      have hc := List.forall_mem_singleton.mp hc
      have hdigit : IsDigit 10 c (c.toNat - 0x30) := by
        have hlo := (isDigit_iff.mp hc).1
        exact isDigit_ten_iff.mpr ⟨hc, by omega⟩
      rw [hvalue cs hdigit]
      cases cs with
      | nil => simpa using Digits.single hdigit
      | cons first rest => exact .concat (ih (List.cons_ne_nil first rest) hcs) hdigit

/-- **A word in decimal**: digits are read as the word of their value, if there is one. -/
theorem readWord_ten_eq_ok_iff (hne : cs ≠ []) (hcs : ∀ c ∈ cs, c.isDigit) {word : UInt32} :
    readWord 10 cs = .ok word ↔ Nat.ofDigitChars 10 cs 0 = word.toNat := by
  constructor
  · intro h
    cases written_of_readWord (by decide) h with
    | plain h => exact (digits_ten_iff.mp h).2.2
    | plus _ => exact absurd (hcs '+' List.mem_cons_self) (by decide)
  · intro h
    have hwritten : Written 10 cs word.toNat := .plain (digits_ten_iff.mpr ⟨hne, hcs, h⟩)
    rw [hwritten.readWord_eq (by decide), if_pos word.toNat_lt_size, UInt32.ofNat_toNat]

/-- A plus sign before digits is skipped. -/
theorem readWord_plus (hne : cs ≠ []) (hcs : ∀ c ∈ cs, c.isDigit) : readWord 10 ('+' :: cs) = readWord 10 cs := by
  have h : Digits 10 cs _ := digits_ten_iff.mpr ⟨hne, hcs, rfl⟩
  rw [(Written.plus h).readWord_eq (by decide), (Written.plain h).readWord_eq (by decide)]

/-- What is read as a word is digits, perhaps with a plus sign before them. -/
theorem digits_of_readWord {word : UInt32} (h : readWord 10 cs = .ok word) :
    ∃ digits, digits ≠ [] ∧ (∀ c ∈ digits, c.isDigit) ∧ (cs = digits ∨ cs = '+' :: digits) := by
  cases written_of_readWord (by decide) h with
  | plain h => exact ⟨cs, h.ne_nil, (digits_ten_iff.mp h).2.1, .inl rfl⟩
  | plus h => exact ⟨_, h.ne_nil, (digits_ten_iff.mp h).2.1, .inr rfl⟩

end TimingFleet.Text.Numeral
