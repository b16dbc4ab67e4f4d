import TimingFleet.Device.Basic

/-!
# Command packets for transmitters

Reading a packet gives back what it was written for, so a packet does to the set of switched-on transmitters
what it says.
-/

namespace TimingFleet

namespace SfpPacket

/-- The two parts of an address make it up. -/
theorem join_address (address : UInt32) : (address >>> 8) <<< 8 ||| (address &&& 0xff) = address := by
  apply UInt32.eq_of_toBitVec_eq
  apply BitVec.eq_of_getLsbD_eq
  intro i hi
  have hmask : ∀ i < 32, BitVec.getLsbD (255#32) i = decide (i < 8) := by decide
  simp only [UInt32.toBitVec_or, UInt32.toBitVec_shiftLeft, UInt32.toBitVec_shiftRight, UInt32.toBitVec_and,
    UInt32.toBitVec_ofNat, BitVec.getLsbD_or, BitVec.getLsbD_and]
  rw [hmask i hi]
  by_cases h : i < 8
  · simp [h]
  · have hi' : 8 + (i - 8) = i := by omega
    simp [h, hi, hi']

theorem decode_encode (address : UInt32) (on : Bool) : decode (encode address on) = some (address, on) := by
  have hpayload : ∀ on : Bool, ((if on then 1 else 0 : UInt32) ||| lastMark) &&& lastMark ≠ 0 ∧
      (((if on then 1 else 0 : UInt32) ||| lastMark) &&& 1 = 1 ↔ on = true) := by decide
  have hheader : (writeMark ||| controlRegister) &&& 0x7f = controlRegister := by decide
  simp only [decode, encode, hheader, hpayload, ne_eq, and_self, not_false_eq_true, if_true, join_address,
    Bool.decide_eq_true]

end SfpPacket

namespace Device

variable (sfps : IndexSet)

theorem applyPacket_on (address : UInt32) :
    applyPacket sfps (SfpPacket.encode address true) = sfps.insert address := by
  unfold applyPacket
  rw [SfpPacket.decode_encode]

theorem applyPacket_off {address : UInt32} (h : address ≠ broadcastAddress) :
    applyPacket sfps (SfpPacket.encode address false) = sfps.erase address := by
  unfold applyPacket
  rw [SfpPacket.decode_encode]
  exact if_neg h

theorem applyPacket_all_off : applyPacket sfps (SfpPacket.encode broadcastAddress false) = ∅ := by
  unfold applyPacket
  rw [SfpPacket.decode_encode]
  exact if_pos rfl

/-- The only transmitter that is on is switched off. -/
theorem erase_singleton (address : UInt32) : ({address} : IndexSet).erase address = ∅ := by
  show (Std.ExtTreeSet.insert ∅ address).erase address = ∅
  simp [Std.ExtTreeSet.size_insert]

end Device

end TimingFleet
