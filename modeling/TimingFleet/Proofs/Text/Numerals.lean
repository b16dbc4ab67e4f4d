import Mathlib.Data.List.Induction
import Mathlib.Tactic.SplitIfs
import TimingFleet.Text.Numeral

/-!
# Numerals by their grammar

A numeral is a run of digits, perhaps with a plus sign before it, and zeros may lead it.  Its value is that of the
digits, however many there are.  No text is cut apart to say so: digits are put behind digits.

- `IsDigit base c d`: the character is the digit `d`.
- `Digits base cs n`: digits with the value `n`.
- `Written base cs n`: a numeral with the value `n`.

A numeral in a base up to sixteen is read just if its value is below the bound (`Written.read_eq`), and nothing else is
read (`written_of_read`).  What is written for a number are digits with its value (`digits_toDigits`), so numbers are
told apart by their digits.
-/

namespace TimingFleet.Text.Numeral

variable {base bound n d : Nat} {c : Char} {cs : List Char}

/-- The character is the digit `d` of `base`; a digit above nine is a letter of either case. -/
structure IsDigit (base : Nat) (c : Char) (d : Nat) : Prop where
  lt : d < base
  char : c = Nat.digitChar d ∨ c = (Nat.digitChar d).toUpper

/-- One or more digits, the highest first, and their value. -/
inductive Digits (base : Nat) : List Char → Nat → Prop where
  | single {c : Char} {d : Nat} (h : IsDigit base c d) : Digits base [c] d
  | concat {cs : List Char} {n : Nat} {c : Char} {d : Nat} (hcs : Digits base cs n) (h : IsDigit base c d) :
      Digits base (cs ++ [c]) (n * base + d)

/-- Digits, perhaps with a plus sign before them, and their value. -/
inductive Written (base : Nat) : List Char → Nat → Prop where
  | plain {cs : List Char} {n : Nat} (h : Digits base cs n) : Written base cs n
  | plus {cs : List Char} {n : Nat} (h : Digits base cs n) : Written base ('+' :: cs) n

/-! ## Digits -/

theorem digitChar_toNat (hd : d < 16) :
    (Nat.digitChar d).toNat = (if d < 10 then 0x30 + d else 0x57 + d) ∧
      (Nat.digitChar d).toUpper.toNat = if d < 10 then 0x30 + d else 0x37 + d := by
  have hall : ∀ d < 16, (Nat.digitChar d).toNat = (if d < 10 then 0x30 + d else 0x57 + d) ∧
      (Nat.digitChar d).toUpper.toNat = if d < 10 then 0x30 + d else 0x37 + d := by decide
  exact hall d hd

/-- The figures and the first six letters of either case are the digits. -/
theorem digitValue_eq_some_iff (hbase : base ≤ 16) : digitValue base c = some d ↔ IsDigit base c d := by
  have hletter : d < 16 → (letterValue c = some d ↔ c = Nat.digitChar d ∨ c = (Nat.digitChar d).toUpper) := by
    intro hd
    obtain ⟨hlower, hupper⟩ := digitChar_toNat hd
    rw [← Char.toNat_inj, ← Char.toNat_inj, hlower, hupper]
    grind [letterValue]
  rw [digitValue, Option.filter_eq_some_iff, decide_eq_true_iff]
  constructor
  · rintro ⟨hvalue, hlt⟩
    exact ⟨hlt, (hletter (Nat.lt_of_lt_of_le hlt hbase)).mp hvalue⟩
  · rintro ⟨hlt, hchar⟩
    exact ⟨(hletter (Nat.lt_of_lt_of_le hlt hbase)).mpr hchar, hlt⟩

theorem Digits.ne_nil (h : Digits base cs n) : cs ≠ [] := by
  cases h <;> simp

theorem Digits.exists_isDigit (h : Digits base cs n) : ∀ c ∈ cs, ∃ d, IsDigit base c d := by
  induction h with
  | single h => exact List.forall_mem_singleton.mpr ⟨_, h⟩
  | concat _ h ih => exact List.forall_mem_append.mpr ⟨ih, List.forall_mem_singleton.mpr ⟨_, h⟩⟩

/-- A sign is no digit. -/
theorem Digits.plus_not_mem (hbase : base ≤ 16) (h : Digits base cs n) : '+' ∉ cs := by
  intro hmem
  obtain ⟨d, hd⟩ := h.exists_isDigit '+' hmem
  have hvalue := (digitValue_eq_some_iff hbase).mpr hd
  rw [digitValue, show letterValue '+' = none from rfl] at hvalue
  cases hvalue

/-! ## Reading -/

/-- Digits are read one after the other. -/
theorem extend_append (value : Nat) (cs ds : List Char) :
    extend base bound value (cs ++ ds) = (extend base bound value cs).bind fun n => extend base bound n ds := by
  induction cs generalizing value with
  | nil => rfl
  | cons c cs ih =>
    rw [List.cons_append, extend, extend]
    split
    · rfl
    · dsimp only
      split_ifs
      · exact ih _
      · rfl

/-- One more digit. -/
theorem extend_single (hbase : base ≤ 16) (h : IsDigit base c d) (value : Nat) :
    extend base bound value [c] = if value * base + d < bound then .ok (value * base + d) else .error .tooLarge := by
  rw [extend, (digitValue_eq_some_iff hbase).mpr h]
  rfl

theorem isDigit_of_extend_single (hbase : base ≤ 16) {value : Nat} (h : extend base bound value [c] = .ok n) :
    ∃ d, IsDigit base c d ∧ value * base + d = n := by
  rw [extend] at h
  split at h
  · cases h
  · next d hd =>
    dsimp only at h
    split_ifs at h
    exact ⟨d, (digitValue_eq_some_iff hbase).mp hd, Except.ok.inj h⟩

/-- **Digits are read** just if their value is below the bound: one more digit never lowers it. -/
theorem Digits.extend_eq (hbase : base ≤ 16) (h : Digits base cs n) :
    extend base bound 0 cs = if n < bound then .ok n else .error .tooLarge := by
  induction h with
  | single h => simpa using extend_single hbase h 0
  | @concat cs n c d _ h ih =>
    rw [extend_append, ih]
    by_cases hlt : n < bound
    · rw [if_pos hlt]
      exact extend_single hbase h n
    · have hbase : 0 < base := Nat.zero_lt_of_lt h.lt
      have hle : n ≤ n * base + d := Nat.le_trans (Nat.le_mul_of_pos_right n hbase) (Nat.le_add_right _ _)
      rw [if_neg hlt, if_neg (fun hsum => hlt (Nat.lt_of_le_of_lt hle hsum))]
      rfl

/-- Nothing but digits is read. -/
theorem digits_of_extend (hbase : base ≤ 16) (hne : cs ≠ []) (h : extend base bound 0 cs = .ok n) :
    Digits base cs n := by
  induction cs using List.reverseRecOn generalizing n with
  | nil => exact absurd rfl hne
  | append_singleton cs c ih =>
    cases cs with
    | nil =>
      obtain ⟨d, hd, rfl⟩ := isDigit_of_extend_single hbase h
      simpa using Digits.single hd
    | cons first rest =>
      rw [extend_append] at h
      cases hread : extend base bound 0 (first :: rest) with
      | error fault =>
        rw [hread] at h
        cases h
      | ok m =>
        rw [hread] at h
        obtain ⟨d, hd, rfl⟩ := isDigit_of_extend_single hbase h
        exact .concat (ih (List.cons_ne_nil first rest) hread) hd

/-- **Numerals are read** just if their value is below the bound. -/
theorem Written.read_eq (hbase : base ≤ 16) (h : Written base cs n) :
    read base bound cs = if n < bound then .ok n else .error .tooLarge := by
  rw [read.eq_def]
  cases h with
  | plain h =>
    split
    · exact absurd rfl h.ne_nil
    · exact absurd List.mem_cons_self (h.plus_not_mem hbase)
    · exact absurd List.mem_cons_self (h.plus_not_mem hbase)
    · exact h.extend_eq hbase
  | plus h =>
    split
    · next heq => cases heq
    · next heq => exact absurd (List.cons.inj heq).2 h.ne_nil
    · next heq => exact (List.cons.inj heq).2 ▸ h.extend_eq hbase
    · next hno => exact absurd rfl (hno _)

/-- Nothing but numerals is read. -/
theorem written_of_read (hbase : base ≤ 16) (h : read base bound cs = .ok n) : Written base cs n := by
  rw [read.eq_def] at h
  split at h
  · cases h
  · cases h
  · next digits hne => exact .plus (digits_of_extend hbase (fun heq => hne (heq ▸ rfl)) h)
  · next hne _ _ => exact .plain (digits_of_extend hbase hne h)

/-! ## Words -/

theorem Written.readWord_eq (hbase : base ≤ 16) (h : Written base cs n) :
    readWord base cs = if n < UInt32.size then .ok (.ofNat n) else .error .tooLarge := by
  rw [readWord, h.read_eq hbase]
  split_ifs <;> rfl

theorem written_of_readWord (hbase : base ≤ 16) {word : UInt32} (h : readWord base cs = .ok word) :
    Written base cs word.toNat := by
  unfold readWord at h
  cases hread : read base UInt32.size cs with
  | error fault =>
    rw [hread] at h
    cases h
  | ok n =>
    have hwritten := written_of_read hbase hread
    rw [hread] at h
    obtain rfl : UInt32.ofNat n = word := Except.ok.inj h
    rw [hwritten.read_eq hbase] at hread
    split_ifs at hread with hlt
    rwa [UInt32.toNat_ofNat_of_lt' hlt]

/-! ## Writing -/

theorem digits_toDigits (hbase : 1 < base) (n : Nat) : Digits base (Nat.toDigits base n) n := by
  induction n using Nat.strongRecOn with
  | _ n ih =>
    rw [Nat.toDigits_eq_if hbase]
    split_ifs with hlt
    · exact .single ⟨hlt, .inl rfl⟩
    · have hhigh := ih (n / base) (Nat.div_lt_self (by omega) hbase)
      have hmore := hhigh.concat ⟨Nat.mod_lt n (by omega), .inl rfl⟩
      rwa [Nat.div_add_mod'] at hmore

/-- Digits have one value. -/
theorem Digits.unique (hbase : base ≤ 16) {m : Nat} (h : Digits base cs m) (h' : Digits base cs n) : m = n := by
  have hm : extend base (max m n + 1) 0 cs = .ok m := by rw [h.extend_eq hbase, if_pos (by omega)]
  have hn : extend base (max m n + 1) 0 cs = .ok n := by rw [h'.extend_eq hbase, if_pos (by omega)]
  exact Except.ok.inj (hm.symm.trans hn)

theorem toDigits_injective (hlt : 1 < base) (hle : base ≤ 16) {m : Nat}
    (h : Nat.toDigits base m = Nat.toDigits base n) : m = n :=
  (h ▸ digits_toDigits hlt m).unique hle (digits_toDigits hlt n)

theorem decimal_injective {m : Nat} (h : decimal m = decimal n) : m = n :=
  toDigits_injective (by decide) (by decide) (String.ofList_injective h)

theorem hex_injective {m : Nat} (h : hex m = hex n) : m = n := by
  have hlist := congrArg String.toList h
  simp only [hex, hexDigits, String.toList_append, String.toList_ofList] at hlist
  exact toDigits_injective (by decide) (by decide) (List.append_cancel_left hlist)

end TimingFleet.Text.Numeral
