import Mathlib.Data.Nat.Bitwise
import TimingFleet.Proofs.Text.Printable
import TimingFleet.Register.BoardIo

/-!
# Design ids as texts

Four bytes go into a word and come out of it again, and zero bytes are no characters.  So a text that fits the words and
has no blank at either end is found again in them, and the words of a design id hold such a text whatever they are.

Main statement: `decode_encode_account`.
-/

namespace TimingFleet.DesignId

open Text

variable {text : String} {bytes : List UInt8} {words more : List UInt32}

/-! ## Bytes and words -/

/-- Nothing of a byte is lost where it is put into a word. -/
theorem toNat_shifted (b : UInt8) {k : UInt32} (hk : k.toNat ≤ 24) :
    (b.toUInt32 <<< k).toNat = 2 ^ k.toNat * b.toNat := by
  have hplace : k.toNat % 32 = k.toNat := Nat.mod_eq_of_lt (by omega)
  have hfits : b.toNat * 2 ^ k.toNat < 2 ^ 32 := calc
    b.toNat * 2 ^ k.toNat < 2 ^ 8 * 2 ^ k.toNat := Nat.mul_lt_mul_of_pos_right b.toNat_lt (Nat.two_pow_pos _)
    _ = 2 ^ (8 + k.toNat) := (Nat.pow_add 2 8 k.toNat).symm
    _ ≤ 2 ^ 32 := Nat.pow_le_pow_right (by decide) (by omega)
  rw [UInt32.toNat_shiftLeft, UInt8.toNat_toUInt32, hplace, Nat.shiftLeft_eq, Nat.mod_eq_of_lt hfits, Nat.mul_comm]

/-- A word is the number with its bytes for digits. -/
theorem toNat_wordOfBytes (a b c d : UInt8) :
    (wordOfBytes a b c d).toNat = ((a.toNat * 256 + b.toNat) * 256 + c.toNat) * 256 + d.toNat := by
  have hb := b.toNat_lt
  have hc := c.toNat_lt
  have hd := d.toNat_lt
  have hfirst : (a.toUInt32 <<< 24).toNat = 2 ^ 24 * a.toNat := toNat_shifted a (by decide)
  have hsecond : (b.toUInt32 <<< 16).toNat = 2 ^ 16 * b.toNat := toNat_shifted b (by decide)
  have hthird : (c.toUInt32 <<< 8).toNat = 2 ^ 8 * c.toNat := toNat_shifted c (by decide)
  rw [wordOfBytes, UInt32.toNat_or, UInt32.toNat_or, UInt32.toNat_or, UInt8.toNat_toUInt32, hfirst, hsecond, hthird]
  -- the shifted bytes are multiples of powers that are greater than what comes after them
  have htwo : 2 ^ 24 * a.toNat ||| 2 ^ 16 * b.toNat = 2 ^ 16 * (2 ^ 8 * a.toNat + b.toNat) := by
    rw [← Nat.two_pow_add_eq_or_of_lt (by omega)]
    omega
  have hthree : 2 ^ 16 * (2 ^ 8 * a.toNat + b.toNat) ||| 2 ^ 8 * c.toNat =
      2 ^ 8 * (2 ^ 8 * (2 ^ 8 * a.toNat + b.toNat) + c.toNat) := by
    rw [← Nat.two_pow_add_eq_or_of_lt (by omega)]
    omega
  rw [htwo, hthree, ← Nat.two_pow_add_eq_or_of_lt hd]
  omega

/-- **Bytes come out of their word again.** -/
theorem bytesOfWord_wordOfBytes (a b c d : UInt8) : bytesOfWord (wordOfBytes a b c d) = [a, b, c, d] := by
  have ha := a.toNat_lt
  have hb := b.toNat_lt
  have hc := c.toNat_lt
  have hd := d.toNat_lt
  have hbyte : ∀ (k : UInt32) (byte : UInt8),
      (((a.toNat * 256 + b.toNat) * 256 + c.toNat) * 256 + d.toNat) / 2 ^ (k.toNat % 32) % 2 ^ 8 = byte.toNat →
        (wordOfBytes a b c d >>> k).toUInt8 = byte := by
    intro k byte h
    rw [← UInt8.toNat_inj, UInt32.toNat_toUInt8, UInt32.toNat_shiftRight, Nat.shiftRight_eq_div_pow,
      toNat_wordOfBytes, h]
  have hlast : (wordOfBytes a b c d).toUInt8 = d := by
    rw [← UInt8.toNat_inj, UInt32.toNat_toUInt8, toNat_wordOfBytes]
    omega
  rw [bytesOfWord, hbyte 24 a, hbyte 16 b, hbyte 8 c, hlast]
  · show _ / 2 ^ 8 % 2 ^ 8 = _
    omega
  · show _ / 2 ^ 16 % 2 ^ 8 = _
    omega
  · show _ / 2 ^ 24 % 2 ^ 8 = _
    omega

theorem length_lt_of_short (h : ∀ a b c d rest, bytes ≠ a :: b :: c :: d :: rest) : bytes.length < 4 := by
  match bytes with
  | [] | [_] | [_, _] | [_, _, _] => simp
  | a :: b :: c :: d :: rest => exact absurd rfl (h a b c d rest)

theorem length_wordsOfBytes (bytes : List UInt8) : (wordsOfBytes bytes).length = bytes.length / 4 := by
  fun_induction wordsOfBytes bytes with
  | case1 a b c d rest ih =>
    rw [List.length_cons, ih]
    simp only [List.length_cons]
    omega
  | case2 bytes hshort => exact (Nat.div_eq_of_lt (length_lt_of_short hshort)).symm

/-- Bytes that fill their words come out of them. -/
theorem flatMap_wordsOfBytes (h : 4 ∣ bytes.length) : (wordsOfBytes bytes).flatMap bytesOfWord = bytes := by
  fun_induction wordsOfBytes bytes with
  | case1 a b c d rest ih =>
    have hrest : 4 ∣ rest.length := by
      simp only [List.length_cons] at h
      omega
    rw [List.flatMap_cons, bytesOfWord_wordOfBytes, ih hrest]
    rfl
  | case2 bytes hshort =>
    have hnil := Nat.eq_zero_of_dvd_of_lt h (length_lt_of_short hshort)
    rw [List.length_eq_zero_iff.mp hnil]
    rfl

/-- The bytes in the words of a text are those of the text, and zeros behind them if there is room. -/
theorem flatMap_encode (text : String) (n : Nat) :
    (encode text n).flatMap bytesOfWord =
      (text.toList.flatMap String.utf8EncodeChar ++
        List.replicate (4 * n - (text.toList.flatMap String.utf8EncodeChar).length) 0).take (4 * n) := by
  refine flatMap_wordsOfBytes ?_
  rw [List.length_take, List.length_append, List.length_replicate]
  omega

theorem length_encode (text : String) (n : Nat) : (encode text n).length = n := by
  rw [encode, length_wordsOfBytes, List.length_take, List.length_append, List.length_replicate]
  omega

/-! ## Characters -/

/-- The printable characters in the words. -/
def shown (words : List UInt32) : List Char :=
  ((words.flatMap bytesOfWord).filter isPrintable).map fun b => Char.ofNat b.toNat

theorem isPrintable_iff {b : UInt8} : isPrintable b = true ↔ 0x20 ≤ b.toNat ∧ b.toNat ≤ 0x7e := by
  rw [isPrintable, Bool.and_eq_true, decide_eq_true_iff, decide_eq_true_iff, UInt8.le_iff_toNat_le,
    UInt8.le_iff_toNat_le]
  rfl

theorem printable_shown (words : List UInt32) : ∀ c ∈ shown words, ' ' ≤ c ∧ c ≤ '~' := by
  intro c hc
  obtain ⟨b, hb, rfl⟩ := List.mem_map.mp hc
  have hprintable := isPrintable_iff.mp (List.mem_filter.mp hb).2
  have hchar : (Char.ofNat b.toNat).toNat = b.toNat := by
    rw [Char.ofNat, dif_pos (.inl (by omega))]
    rfl
  have hlo : 0x20 ≤ (Char.ofNat b.toNat).toNat := hchar.symm ▸ hprintable.1
  have hhi : (Char.ofNat b.toNat).toNat ≤ 0x7e := hchar.symm ▸ hprintable.2
  exact ⟨hlo, hhi⟩

theorem length_shown_le (words : List UInt32) : (shown words).length ≤ 4 * words.length := by
  have hbytes : (words.flatMap bytesOfWord).length = 4 * words.length := by
    rw [List.length_flatMap, show (fun word => (bytesOfWord word).length) = fun _ => 4 from rfl, List.map_const',
      List.sum_replicate_nat, Nat.mul_comm]
  rw [shown, List.length_map, ← hbytes]
  exact List.length_filter_le _ _

/-- Among printable characters it does not matter which blanks are trimmed. -/
theorem dropWhile_eq_trimStart {cs : List Char} (h : ∀ c ∈ cs, ' ' ≤ c ∧ c ≤ '~') :
    cs.dropWhile (· = ' ') = trimStart cs := by
  induction cs with
  | nil => rfl
  | cons c cs ih =>
    obtain ⟨hc, hcs⟩ := List.forall_mem_cons.mp h
    rw [trimStart, List.dropWhile_cons, List.dropWhile_cons, isBlank_of_printable hc, ih hcs, trimStart]

/-- The text is what trimming leaves of the characters. -/
theorem decode_eq (words : List UInt32) : decode words = String.ofList (trim (shown words)) := by
  have hstart := dropWhile_eq_trimStart (printable_shown words)
  have hprintable : ∀ c ∈ (trimStart (shown words)).reverse, ' ' ≤ c ∧ c ≤ '~' := fun c hc =>
    printable_shown words c ((List.dropWhile_sublist _).subset (List.mem_reverse.mp hc))
  have hend := dropWhile_eq_trimStart hprintable
  rw [trim, trimEnd, ← trimStart, ← hend, ← hstart]
  rfl

/-! ## Texts -/

theorem trimmed_decode (words : List UInt32) : Trimmed (decode words) := by
  rw [decode_eq]
  exact trimmed_trim (printable_shown words)

theorem length_decode_le (words : List UInt32) : (decode words).length ≤ 4 * words.length := by
  obtain ⟨before, after, -, -, hshown⟩ := exists_eq_trim (shown words)
  have hlength := congrArg List.length hshown
  rw [List.length_append, List.length_append] at hlength
  rw [decode_eq, String.length_ofList]
  have hle := length_shown_le words
  omega

/-- A zero word has no characters. -/
theorem shown_filter (words : List UInt32) : shown (words.filter (· ≠ 0)) = shown words := by
  have hzero : (bytesOfWord 0).filter isPrintable = [] := by decide
  induction words with
  | nil => rfl
  | cons word words ih =>
    rw [List.filter_cons]
    split
    · have hhead : ∀ rest, shown (word :: rest) = shown [word] ++ shown rest := by
        intro rest
        simp [shown]
      rw [hhead, hhead words, ih]
    · next h =>
      obtain rfl : word = 0 := by simpa using h
      rw [ih, shown, shown, List.flatMap_cons, List.filter_append, hzero, List.nil_append]

/-- **Zero words do not count**, wherever they stand. -/
theorem decode_congr (h : more.filter (· ≠ 0) = words.filter (· ≠ 0)) : decode more = decode words := by
  rw [decode_eq, decode_eq, ← shown_filter more, ← shown_filter words, h]

/-- A printable character is its own byte. -/
theorem utf8_of_printable {cs : List Char} (h : ∀ c ∈ cs, ' ' ≤ c ∧ c ≤ '~') :
    cs.flatMap String.utf8EncodeChar = cs.map Char.toUInt8 := by
  induction cs with
  | nil => rfl
  | cons c cs ih =>
    obtain ⟨hc, hcs⟩ := List.forall_mem_cons.mp h
    have hone : c.utf8Size = 1 := by
      rw [Char.utf8Size_eq_one_iff]
      exact UInt32.le_trans hc.2 (by decide)
    rw [List.flatMap_cons, String.utf8EncodeChar_eq_singleton hone, Char.toUInt8_val, ih hcs]
    rfl

theorem isPrintable_toUInt8 {c : Char} (h : ' ' ≤ c ∧ c ≤ '~') :
    isPrintable c.toUInt8 = true ∧ Char.ofNat c.toUInt8.toNat = c := by
  have hlo : 0x20 ≤ c.toNat := h.1
  have hhi : c.toNat ≤ 0x7e := h.2
  have hbyte : c.toUInt8.toNat = c.toNat := by
    rw [Char.toUInt8, UInt32.toNat_toUInt8]
    exact Nat.mod_eq_of_lt (Nat.lt_of_le_of_lt hhi (by decide))
  rw [isPrintable_iff, hbyte]
  exact ⟨⟨hlo, hhi⟩, Char.ofNat_toNat c⟩

/-- The characters of a text that fits its words are all shown, and nothing else is. -/
theorem shown_encode {n : Nat} (h : Printable text) (hfits : text.length ≤ 4 * n) :
    shown (encode text n) = text.toList := by
  have hlength : (text.toList.map Char.toUInt8).length = text.length := by
    rw [List.length_map, String.length_toList]
  have hzeros : ∀ k, (List.replicate k (0 : UInt8)).filter isPrintable = [] := fun k =>
    List.filter_eq_nil_iff.mpr fun b hb => by
      rw [List.eq_of_mem_replicate hb]
      decide
  have hall : (text.toList.map Char.toUInt8).filter isPrintable = text.toList.map Char.toUInt8 :=
    List.filter_eq_self.mpr fun b hb => by
      obtain ⟨c, hc, rfl⟩ := List.mem_map.mp hb
      exact (isPrintable_toUInt8 (h c hc)).1
  have hcut : (text.toList.map Char.toUInt8 ++
      List.replicate (4 * n - (text.toList.map Char.toUInt8).length) 0).length ≤ 4 * n := by
    rw [List.length_append, List.length_replicate]
    omega
  rw [shown, flatMap_encode, utf8_of_printable h, List.take_of_length_le hcut, List.filter_append, hzeros, hall,
    List.append_nil, List.map_map]
  exact (List.map_congr_left fun c hc => (isPrintable_toUInt8 (h c hc)).2).trans (List.map_id _)

/-- **A text is found again** in the words that it was put into. -/
theorem decode_encode {n : Nat} (h : Trimmed text) (hfits : text.length ≤ 4 * n) : decode (encode text n) = text := by
  have htrim := h.trim_append (rfl : blank []) (rfl : blank [])
  rw [List.nil_append, List.append_nil] at htrim
  rw [decode_eq, shown_encode h.printable hfits, htrim, String.ofList_toList]

/-- **Texts and words.**  A text without a blank at either end is found again in any words that it fits.  Any words hold
such a text, which fits them; zero words more or less do not change it, and packed into as many words it is found
again. -/
theorem decode_encode_account :
    (∀ (text : String) (n : Nat), Trimmed text → text.length ≤ 4 * n → decode (encode text n) = text) ∧
      ∀ words : List UInt32, Trimmed (decode words) ∧ (decode words).length ≤ 4 * words.length ∧
        (∀ more : List UInt32, more.filter (· ≠ 0) = words.filter (· ≠ 0) → decode more = decode words) ∧
        (encode (decode words) words.length).length = words.length ∧
        decode (encode (decode words) words.length) = decode words :=
  ⟨fun _ _ => decode_encode, fun words => ⟨trimmed_decode words, length_decode_le words, fun _ => decode_congr,
    length_encode _ _, decode_encode (trimmed_decode words) (length_decode_le words)⟩⟩

/-- Blanks inside a text are kept, those at its ends are not, and zero words between others are passed over. -/
theorem decode_encode_account_partNumber :
    decode (encode "Si 5345~" 2) = "Si 5345~" ∧
      decode [0, 0x20536900, 0, 0x35332020] = decode [0x20536900, 0x35332020] ∧
      Trimmed (decode [0x20536900, 0x35332020]) :=
  ⟨decode_encode_account.1 "Si 5345~" 2 ⟨by decide, by decide, by decide⟩ (by decide),
    (decode_encode_account.2 [0x20536900, 0x35332020]).2.2.1 [0, 0x20536900, 0, 0x35332020] (by decide),
    (decode_encode_account.2 [0x20536900, 0x35332020]).1⟩

end TimingFleet.DesignId
