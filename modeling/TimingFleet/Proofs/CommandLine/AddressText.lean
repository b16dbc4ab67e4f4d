import TimingFleet.CommandLine.Address
import TimingFleet.Proofs.Text.Decimal

/-!
# The addresses that texts denote

An address is written as a numeral of base ten, or as one of base sixteen behind its lead.  `AddressText` says so of
texts and numbers of any size, words or not.

Main statement: `readAddress_exact`.  A text is read just if it denotes an endpoint address, and then as that address.
Every other one is refused: with its value, if it denotes a word, and as no numeral of a word if it does not.
-/

namespace TimingFleet.CommandLine

open Text Numeral

variable {cs : List Char} {n : Nat} {address value : UInt32}

/-- The text denotes the number: in decimal, or in hexadecimal behind a lead of either case. -/
inductive AddressText : List Char → Nat → Prop where
  | decimal {cs : List Char} {n : Nat} (h : Written 10 cs n) : AddressText cs n
  | hex {cs : List Char} {n : Nat} (h : Written 16 cs n) : AddressText ('0' :: 'x' :: cs) n
  | upperHex {cs : List Char} {n : Nat} (h : Written 16 cs n) : AddressText ('0' :: 'X' :: cs) n

/-! ## Numerals of addresses -/

/-- The second character of a decimal numeral is no letter, so no lead is taken from it. -/
theorem not_written_lead {x : Char} (hx : x = 'x' ∨ x = 'X') : ¬Written 10 ('0' :: x :: cs) n := by
  intro h
  generalize heq : '0' :: x :: cs = text at h
  cases h with
  | plain h =>
    obtain ⟨d, hd⟩ := h.exists_isDigit x (heq ▸ by simp)
    have hvalue := (digitValue_eq_some_iff (by decide)).mpr hd
    rcases hx with rfl | rfl <;> exact absurd (hvalue.symm.trans (rfl : _ = none)) (Option.some_ne_none d)
  | plus _ => cases heq

/-- **A denoted number is read** if it fits a word. -/
theorem AddressText.readNumeral (h : AddressText cs n) :
    readAddressNumeral cs = if n < UInt32.size then .ok (.ofNat n) else .error .tooLarge := by
  cases h with
  | hex h => exact h.readWord_eq (by decide)
  | upperHex h => exact h.readWord_eq (by decide)
  | decimal h =>
    rw [readAddressNumeral.eq_def]
    split
    · exact absurd h (not_written_lead (.inl rfl))
    · exact absurd h (not_written_lead (.inr rfl))
    · exact h.readWord_eq (by decide)

/-- Nothing is read that does not denote the number. -/
theorem addressText_of_readNumeral (h : readAddressNumeral cs = .ok value) : AddressText cs value.toNat := by
  rw [readAddressNumeral.eq_def] at h
  split at h
  · exact .hex (written_of_readWord (by decide) h)
  · exact .upperHex (written_of_readWord (by decide) h)
  · exact .decimal (written_of_readWord (by decide) h)

/-! ## Addresses -/

theorem isEndpointAddress_iff_toNat :
    isEndpointAddress address = true ↔ 1 ≤ address.toNat ∧ address.toNat ≤ 0x100 :=
  isEndpointAddress_iff.trans (and_congr UInt32.le_iff_toNat_le UInt32.le_iff_toNat_le)

/-- What becomes of a text that denotes a number. -/
theorem AddressText.readAddress_eq {text : String} (h : AddressText text.toList n) :
    readAddress text =
      if 1 ≤ n ∧ n ≤ 0x100 then .ok (.ofNat n)
      else if n < UInt32.size then .error (.outOfRange (.ofNat n))
      else .error (.notANumeral text .tooLarge) := by
  have hsize : n ≤ 0x100 → n < UInt32.size := fun hle => Nat.lt_of_le_of_lt hle (by decide)
  rw [readAddress, h.readNumeral]
  by_cases hword : n < UInt32.size
  · have hvalue : (UInt32.ofNat n).toNat = n := UInt32.toNat_ofNat_of_lt' hword
    simp only [if_pos hword, isEndpointAddress_iff_toNat, hvalue]
  · simp only [if_neg hword, if_neg (fun hrange : 1 ≤ n ∧ n ≤ 0x100 => hword (hsize hrange.2))]

/-- **Addresses are read exactly**: what denotes an endpoint address, as this address, and nothing else. -/
theorem readAddress_exact (text : String) :
    (∀ address, readAddress text = .ok address ↔
      AddressText text.toList address.toNat ∧ 1 ≤ address.toNat ∧ address.toNat ≤ 0x100) ∧
    (∀ n, AddressText text.toList n → ¬(1 ≤ n ∧ n ≤ 0x100) → readAddress text =
      .error (if n < UInt32.size then .outOfRange (.ofNat n) else .notANumeral text .tooLarge)) ∧
    ((∀ n, ¬AddressText text.toList n) → ∃ fault, readAddress text = .error (.notANumeral text fault)) := by
  refine ⟨fun address => ⟨fun h => ?_, fun ⟨h, hrange⟩ => ?_⟩, fun n h hrange => ?_, fun h => ?_⟩
  · cases hread : readAddressNumeral text.toList with
    | error fault => simp [readAddress, hread] at h
    | ok value =>
      have hdenotes := addressText_of_readNumeral hread
      rw [hdenotes.readAddress_eq] at h
      split_ifs at h with hrange
      obtain rfl : value = address := UInt32.ofNat_toNat.symm.trans (Except.ok.inj h)
      exact ⟨hdenotes, hrange⟩
  · rw [h.readAddress_eq, if_pos hrange, UInt32.ofNat_toNat]
  · rw [h.readAddress_eq, if_neg hrange]
    exact (apply_ite Except.error (n < UInt32.size) _ _).symm
  · cases hread : readAddressNumeral text.toList with
    | error fault => exact ⟨fault, by rw [readAddress, hread]⟩
    | ok value => exact absurd (addressText_of_readNumeral hread) (h _)

/-- Zeros in front of the digits and a sign behind the lead do not count; nor does a value past the words come back as
a small one. -/
theorem readAddress_exact_samples :
    readAddress "0X+000fF" = .ok 255 ∧
      readAddress "4294967297" = .error (.notANumeral "4294967297" .tooLarge) ∧
      ∃ fault, readAddress "+0x1" = .error (.notANumeral "+0x1" fault) := by
  have hzero : IsDigit 16 '0' 0 := ⟨by decide, by decide⟩
  have hlower : IsDigit 16 'f' 15 := ⟨by decide, by decide⟩
  have hupper : IsDigit 16 'F' 15 := ⟨by decide, by decide⟩
  have hhex : Digits 16 ['0', '0', '0', 'f', 'F'] 255 :=
    ((((Digits.single hzero).concat hzero).concat hzero).concat hlower).concat hupper
  have hlarge : Digits 10 "4294967297".toList 4294967297 := by
    have hdigits : "4294967297".toList = Nat.toDigits 10 4294967297 := rfl
    rw [hdigits]
    exact digits_toDigits (by decide) _
  have hnone : ∀ n, ¬AddressText "+0x1".toList n := by
    intro n h
    rw [show "+0x1".toList = ['+', '0', 'x', '1'] from rfl] at h
    cases h with
    | decimal h =>
      cases h with
      | plain h => exact h.plus_not_mem (by decide) List.mem_cons_self
      | plus h => exact absurd ((digits_ten_iff.mp h).2.1 'x' (by simp)) (by decide)
  exact ⟨((readAddress_exact "0X+000fF").1 255).mpr ⟨.upperHex (.plus hhex), by decide, by decide⟩,
    (readAddress_exact "4294967297").2.1 4294967297 (.decimal (.plain hlarge)) (by decide),
    (readAddress_exact "+0x1").2.2 hnone⟩

end TimingFleet.CommandLine
