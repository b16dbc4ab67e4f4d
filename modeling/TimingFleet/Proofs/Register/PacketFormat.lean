import Mathlib.Data.Nat.Bitwise
import TimingFleet.Proofs.Register.SfpPacket

/-!
# The format of command packets

More packets are read than are written.  Of a packet that is read, the length word may be any, and only some bits count
of the header, the payload and the high part of the address.

- `Commands packet address on`: the packet is read as the command to switch the transmitter at the address.
- `Plain packet`: the bits that do not count are those of a packet that was written.

Main statement: `decode_account`.  A packet is read just if it commands something (`decode_eq_some_iff`), each command
is read from the packet written for it, and among the packets read as one command only that one is plain.
-/

namespace TimingFleet.SfpPacket

variable {low high header payload address : UInt32} {packet : List UInt32} {on : Bool}

/-- The packet has six words, among them the sequence number, the register number in the header and the end mark in the
payload; the lowest bit of the payload is the switch position. -/
inductive Commands : List UInt32 → UInt32 → Bool → Prop where
  | packet {low high header length payload address : UInt32} (hheader : header.toNat % 2 ^ 7 = 0x70)
      (hend : payload.toNat.testBit 8) (haddress : address.toNat = high.toNat * 256 % 2 ^ 32 ||| low.toNat) :
      Commands [low, high, 0xab, header, length, payload] address (payload.toNat.testBit 0)

/-- The parts of the address are no longer than they need be, and no other word has a bit that does not count. -/
inductive Plain : List UInt32 → Prop where
  | packet {low high payload : UInt32} (hlow : low.toNat < 0x100) (hhigh : high.toNat < 2 ^ 24)
      (hpayload : payload = 0x100 ∨ payload = 0x101) : Plain [low, high, 0xab, 0xf0, 0x81, payload]

/-! ## Bits -/

theorem header_iff : header &&& 0x7f = controlRegister ↔ header.toNat % 2 ^ 7 = 0x70 := by
  rw [← UInt32.toNat_inj, UInt32.toNat_and, ← Nat.and_two_pow_sub_one_eq_mod]
  rfl

theorem lastMark_iff : payload &&& lastMark ≠ 0 ↔ payload.toNat.testBit 8 = true := by
  have hmark : (payload &&& lastMark).toNat = (payload.toNat.testBit 8).toNat * 2 ^ 8 := by
    rw [UInt32.toNat_and, ← Nat.and_two_pow]
    rfl
  rw [Ne, ← UInt32.toNat_inj, hmark]
  cases payload.toNat.testBit 8 <;> decide

theorem switch_eq : decide (payload &&& 1 = 1) = payload.toNat.testBit 0 := by
  have hlowest : (payload &&& 1).toNat = (payload.toNat.testBit 0).toNat := by
    rw [UInt32.toNat_and, ← Nat.mul_one (Bool.toNat _), ← Nat.pow_zero 2, ← Nat.and_two_pow]
    rfl
  rw [Bool.eq_iff_iff, decide_eq_true_iff, ← UInt32.toNat_inj, hlowest]
  cases payload.toNat.testBit 0 <;> decide

theorem toNat_join : (high <<< 8 ||| low).toNat = high.toNat * 256 % 2 ^ 32 ||| low.toNat := by
  rw [UInt32.toNat_or, UInt32.toNat_shiftLeft, Nat.shiftLeft_eq]
  rfl

/-- Parts that do not overlap are found again in the address that they make up. -/
theorem split_join (hlow : low.toNat < 0x100) (hhigh : high.toNat < 2 ^ 24) :
    (high <<< 8 ||| low) &&& 0xff = low ∧ (high <<< 8 ||| low) >>> 8 = high := by
  have hsum : (high <<< 8 ||| low).toNat = high.toNat * 256 + low.toNat := by
    rw [toNat_join, Nat.mod_eq_of_lt (by omega), ← Nat.shiftLeft_eq _ 8, ← Nat.shiftLeft_add_eq_or_of_lt hlow]
  constructor
  · rw [← UInt32.toNat_inj, UInt32.toNat_and, hsum]
    have hmask := Nat.and_two_pow_sub_one_eq_mod (high.toNat * 256 + low.toNat) 8
    exact hmask.trans (by omega)
  · rw [← UInt32.toNat_inj, UInt32.toNat_shiftRight, hsum, Nat.shiftRight_eq_div_pow]
    show (high.toNat * 256 + low.toNat) / 2 ^ 8 = high.toNat
    omega

/-! ## Packets -/

/-- **What is read** are the commands. -/
theorem decode_eq_some_iff : decode packet = some (address, on) ↔ Commands packet address on := by
  constructor
  · intro h
    unfold decode at h
    split at h
    · next low high seq header length payload =>
      split_ifs at h with hchecks
      obtain ⟨rfl, hheader, hend⟩ := hchecks
      obtain ⟨rfl, rfl⟩ := Prod.mk.inj (Option.some.inj h)
      rw [switch_eq]
      exact .packet (header_iff.mp hheader) (lastMark_iff.mp hend) toNat_join
    · cases h
  · rintro ⟨hheader, hend, haddress⟩
    rw [decode, if_pos ⟨rfl, header_iff.mpr hheader, lastMark_iff.mpr hend⟩, switch_eq,
      UInt32.toNat_inj.mp (haddress.trans toNat_join.symm)]

/-- What is written is plain. -/
theorem plain_encode (address : UInt32) (on : Bool) : Plain (encode address on) := by
  refine .packet ?_ ?_ ?_
  · rw [UInt32.toNat_and]
    exact Nat.lt_of_le_of_lt Nat.and_le_right (by decide)
  · rw [UInt32.toNat_shiftRight, Nat.shiftRight_eq_div_pow]
    exact Nat.div_lt_of_lt_mul address.toNat_lt
  · cases on <;> decide

/-- A plain packet is the one written for what it commands. -/
theorem eq_encode_of_plain (h : Plain packet) (hcommands : Commands packet address on) :
    packet = encode address on := by
  obtain ⟨hlow, hhigh, hpayload⟩ := h
  obtain ⟨-, -, haddress⟩ := hcommands
  obtain rfl := UInt32.toNat_inj.mp (haddress.trans toNat_join.symm)
  obtain ⟨hlow, hhigh⟩ := split_join hlow hhigh
  rw [encode, hlow, hhigh]
  rcases hpayload with rfl | rfl <;> rfl

theorem encode_injective {address' : UInt32} {on' : Bool} (h : encode address on = encode address' on') :
    address = address' ∧ on = on' := by
  have hread := decode_encode address on
  rw [h, decode_encode] at hread
  obtain ⟨haddress, hon⟩ := Prod.mk.inj (Option.some.inj hread)
  exact ⟨haddress.symm, hon.symm⟩

/-- **Packets and commands.**  Each command is read from its packet, and no other command has that packet.  A packet is
read just if it commands something, and is the one that was written for the command just if it is plain. -/
theorem decode_account :
    (∀ address on, decode (encode address on) = some (address, on)) ∧
      (∀ address on address' on', encode address on = encode address' on' → address = address' ∧ on = on') ∧
      (∀ address on on', address ≠ broadcastAddress → decode (encode address on) ≠ some (broadcastAddress, on')) ∧
      (∀ packet address on, decode packet = some (address, on) ↔ Commands packet address on) ∧
      (∀ packet address on, decode packet = some (address, on) → (packet = encode address on ↔ Plain packet)) := by
  refine ⟨decode_encode, fun _ _ _ _ => encode_injective, fun address on on' hne h => ?_,
    fun _ _ _ => decode_eq_some_iff, fun packet address on h => ⟨?_, fun hplain => ?_⟩⟩
  · rw [decode_encode] at h
    exact hne (Prod.mk.inj (Option.some.inj h)).1
  · rintro rfl
    exact plain_encode address on
  · exact eq_encode_of_plain hplain (decode_eq_some_iff.mp h)

/-- A packet with bits that do not count is read as the command of another packet. -/
theorem decode_account_overlong :
    decode [0x5, 0x1000001, 0xab, 0x12345670, 0, 0x303] = some (0x105, true) ∧
      [0x5, 0x1000001, 0xab, 0x12345670, 0, 0x303] ≠ encode 0x105 true ∧
      decode (encode 0x105 true) ≠ some (broadcastAddress, true) := by
  have hcommands : Commands [0x5, 0x1000001, 0xab, 0x12345670, 0, 0x303] 0x105 true :=
    .packet (by decide) (by decide) (by decide)
  have hread := (decode_account.2.2.2.1 _ _ _).mpr hcommands
  refine ⟨hread, fun h => ?_, decode_account.2.2.1 0x105 true true (by decide)⟩
  cases (decode_account.2.2.2.2 _ _ _ hread).mp h

end TimingFleet.SfpPacket
