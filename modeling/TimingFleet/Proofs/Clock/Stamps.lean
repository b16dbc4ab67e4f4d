import TimingFleet.Clock.Ticks

/-!
# Time stamps in words

The low word of a time stamp counts ticks, the high word how often the low one went round (`toNat_ofWords`,
`toWords_digits`).  So a time stamp and its two words determine each other.  The delay of an echo leads from sending to
receiving on a counter that wraps round (`Echo.delay_eq_iff`).

Main statement: `Ticks.words_account`.
-/

namespace TimingFleet

namespace Ticks

/-- The low word of a time stamp comes first. -/
theorem toNat_ofWords (words : List UInt32) :
    (ofWords words).toNat = (words.getD 0 0).toNat + UInt32.size * (words.getD 1 0).toNat := by
  have hlow := (words.getD 0 0).toNat_lt
  have hhigh : (words.getD 1 0).toNat <<< 32 < UInt64.size := by
    have hword := (words.getD 1 0).toNat_lt
    rw [Nat.shiftLeft_eq, UInt64.size]
    omega
  unfold ofWords
  rw [UInt64.toNat_or, UInt64.toNat_shiftLeft, UInt32.toNat_toUInt64, UInt32.toNat_toUInt64]
  show (words.getD 1 0).toNat <<< 32 % UInt64.size ||| (words.getD 0 0).toNat = _
  rw [Nat.mod_eq_of_lt hhigh, ← Nat.shiftLeft_add_eq_or_of_lt hlow, Nat.shiftLeft_eq, UInt32.size]
  omega

/-- **The words of a time stamp** are its two digits to the base of a word. -/
theorem toWords_digits (ticks : UInt64) : ∃ low high, toWords ticks = [low, high] ∧
    low.toNat = ticks.toNat % UInt32.size ∧ high.toNat = ticks.toNat / UInt32.size := by
  have hfits : ticks.toNat / UInt32.size < UInt32.size := Nat.div_lt_of_lt_mul ticks.toNat_lt
  refine ⟨_, _, rfl, ticks.toNat_toUInt32, ?_⟩
  rw [UInt64.toNat_toUInt32, UInt64.toNat_shiftRight, Nat.shiftRight_eq_div_pow]
  exact Nat.mod_eq_of_lt hfits

/-- The two words of a time stamp make it up. -/
theorem ofWords_toWords (ticks : UInt64) : ofWords (toWords ticks) = ticks := by
  obtain ⟨low, high, hwords, hlow, hhigh⟩ := toWords_digits ticks
  have hticks : (ofWords [low, high]).toNat = low.toNat + UInt32.size * high.toNat := toNat_ofWords [low, high]
  rw [hwords, ← UInt64.toNat_inj, hticks, hlow, hhigh]
  exact Nat.mod_add_div ticks.toNat UInt32.size

theorem toWords_ofWords (words : List UInt32) : toWords (ofWords words) = [words.getD 0 0, words.getD 1 0] := by
  have hword : (words.getD 0 0).toNat < UInt32.size := (words.getD 0 0).toNat_lt
  obtain ⟨low, high, hwords, hlow, hhigh⟩ := toWords_digits (ofWords words)
  -- the first word is below the base, so it is the remainder and nothing of it gets into the quotient
  rw [toNat_ofWords, Nat.add_mul_mod_self_left, Nat.mod_eq_of_lt hword] at hlow
  rw [toNat_ofWords, Nat.add_mul_div_left _ _ (by decide), Nat.div_eq_of_lt hword, Nat.zero_add] at hhigh
  rw [hwords, UInt32.toNat_inj.mp hlow, UInt32.toNat_inj.mp hhigh]

/-- Words that a block lacks read as zero. -/
theorem rightpad_take_two (words : List UInt32) :
    (words.take 2).rightpad 2 0 = [words.getD 0 0, words.getD 1 0] := by
  match words with
  | [] => rfl
  | [_] => rfl
  | _ :: _ :: _ => rfl

end Ticks

/-- **Delays**: an echo is received at the time stamp of its sending plus its delay, on a counter that wraps round. -/
theorem Echo.delay_eq_iff {e : Echo} {ticks : UInt64} :
    e.delay = ticks ↔ e.received.toNat = (e.sent.toNat + ticks.toNat) % UInt64.size := by
  rw [Echo.delay, UInt64.sub_eq_iff_eq_add, UInt64.add_comm, ← UInt64.toNat_inj, UInt64.toNat_add]

/-- **Time stamps and their words.**  A time stamp is read back from its words.  The words of the time stamp in a block
are the first two of the block, with zeros for missing ones.  An echo both of whose time stamps went through words has
the delay that leads from sending to receiving, also when the counter wrapped round in between. -/
theorem Ticks.words_account :
    (∀ ticks, ofWords (toWords ticks) = ticks) ∧
      (∀ words, toWords (ofWords words) = (words.take 2).rightpad 2 0) ∧
      ∀ sent received ticks : UInt64,
        (⟨ofWords (toWords sent), ofWords (toWords received)⟩ : Echo).delay = ticks ↔
          received.toNat = (sent.toNat + ticks.toNat) % UInt64.size := by
  refine ⟨ofWords_toWords, fun words => ?_, fun sent received ticks => ?_⟩
  · rw [toWords_ofWords, rightpad_take_two]
  · rw [ofWords_toWords, ofWords_toWords]
    exact Echo.delay_eq_iff

/-- The counter wraps round during this echo. -/
example : (⟨Ticks.ofWords [0xffffff00, 0xffffffff], Ticks.ofWords [0xa4]⟩ : Echo).delay = 0x1a4 := by decide

end TimingFleet
