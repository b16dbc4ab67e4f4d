import TimingFleet.Proofs.Board.Reset

/-!
# Setting the time of an overlord

Setting the time takes four dispatches: the old time stamp is read, the new one is loaded, it is read back, and its
broadcast is switched on.  So a failure leaves the old time stamp or the new one, and a broadcast as it was
(`syncTimestampAt_outcome`).  The number of ticks is that of the seconds, as far as sixty-four bits go.
-/

namespace TimingFleet

/-- The whole seconds of a time stamp that was made from seconds. -/
theorem Ticks.toNat_ofSeconds_div (seconds : UInt64) :
    (ofSeconds seconds / clockFrequency).toNat = min seconds.toNat 368934881474 := by
  have hfrequency : clockFrequency.toNat = 50000000 := rfl
  have hsize : UInt64.size - 1 = 368934881474 * 50000000 + 9551615 := rfl
  rw [UInt64.toNat_div, toNat_ofSeconds, hfrequency, hsize]
  omega

/-- A device that is told to refuse its dispatch number `n` from here accepts those before. -/
theorem Session.refusedAt_of_failingDispatch {s : Session} {n : Nat} {reason : String}
    (hf : s.device.failure = some reason) (hn : s.device.failingDispatch = some (s.dispatchCount + n)) :
    s.RefusedAt n (.transport s.device.id reason) := by
  have hrefusal : ∀ k, s.device.refusal (s.dispatchCount + k) = if n = k then some reason else none := by
    intro k
    simp only [Device.refusal, hn, hf, Nat.add_left_cancel_iff]
  refine ⟨⟨reason, (hrefusal n).trans (if_pos rfl), rfl⟩, fun k _ hlt => ?_⟩
  exact (hrefusal k).trans (if_neg (Nat.ne_of_gt hlt))

namespace Board

open Procedure

variable {b : Board} {s : Session}

/-- **Setting the time** of an overlord, whatever its registers hold.  The new time stamp is that many seconds in ticks,
or the largest.  If the device accepts the four dispatches, then exactly the two time stamp blocks and the broadcast
flag have been written, and the time stamp reads so afterwards.  If it refuses the `n`-th, then its error is the result
and the broadcast flag is as it was; nothing has been written by the first two, and both time stamp blocks by the
others. -/
theorem syncTimestampAt_outcome (hb : b.role = .overlord) (hs : s.Idle .overlord) (seconds now : UInt64) :
    (Ticks.ofSeconds seconds).toNat = min (seconds.toNat * 50000000) (UInt64.size - 1) ∧
    (Ticks.ofSeconds seconds / 50000000).toNat = min seconds.toNat 368934881474 ∧
    ((∀ n, 0 < n → n ≤ 4 → s.device.refusal (s.dispatchCount + n) = none) →
      ((b.syncTimestampAt seconds).run now s).result = .ok ⟨s.device.timestamp, Ticks.ofSeconds seconds⟩ ∧
      ((b.syncTimestampAt seconds).run now s).state.device =
        ((s.device.setBlock MasterNode.timestampLoad (Ticks.toWords (Ticks.ofSeconds seconds))).setBlock
          MasterNode.timestamp (Ticks.toWords (Ticks.ofSeconds seconds))).setWord MasterNode.broadcastEnable 1 ∧
      (s.device.refusal (s.dispatchCount + 5) = none → ∀ later,
        (b.readTimestamp.run later ((b.syncTimestampAt seconds).run now s).state).result =
          .ok (Ticks.ofSeconds seconds))) ∧
    ∀ n e, 0 < n → n ≤ 4 → s.RefusedAt n e →
      ((b.syncTimestampAt seconds).run now s).result = .error e ∧
      ((b.syncTimestampAt seconds).run now s).state.device.word? MasterNode.broadcastEnable =
        s.device.word? MasterNode.broadcastEnable ∧
      ((b.syncTimestampAt seconds).run now s).state.device.timestamp =
        (if n ≤ 2 then s.device.timestamp else Ticks.ofSeconds seconds) ∧
      ((b.syncTimestampAt seconds).run now s).state.device =
        if n ≤ 2 then s.device
        else (s.device.setBlock MasterNode.timestampLoad (Ticks.toWords (Ticks.ofSeconds seconds))).setBlock
          MasterNode.timestamp (Ticks.toWords (Ticks.ofSeconds seconds)) := by
  have hkind : s.device.kind = .overlord := hs.plays.kind
  obtain ⟨hok, herr⟩ := runs_iff.mp (runs_syncTimestampAt (b := b) (s := s) hb hs seconds)
  refine ⟨Ticks.toNat_ofSeconds seconds, Ticks.toNat_ofSeconds_div seconds, fun haccepted => ?_,
    fun n e hpos hle hrefused => ?_⟩
  · cases hresult : ((b.syncTimestampAt seconds).run now s).result with
    | error e =>
      obtain ⟨-, n, hpos, hle, hrefused, -⟩ := herr e hresult
      obtain ⟨reason, hr, -⟩ := hrefused.refused
      exact nomatch hr.symm.trans (haccepted n hpos hle)
    | ok sync =>
      obtain ⟨hidle, hdev, rfl, hpasses⟩ := hok sync hresult
      refine ⟨rfl, by rw [hdev, Device.syncTime_eq hkind, Device.loadTime_eq hkind], fun hnext later => ?_⟩
      refine (runs_result_iff.mp ((runs_readTimestamp hb hidle).mono ?_ ?_)).symm
      · rintro ticks t tr ⟨-, -, rfl, -⟩
        rw [hdev, Device.timestamp_syncTime hkind]
      · rintro e t tr ⟨-, -, hrefused⟩
        obtain ⟨reason, hr, -⟩ := hrefused.refused
        exact nomatch hr.symm.trans ((hpasses.refusal 1).trans hnext)
  · cases hresult : ((b.syncTimestampAt seconds).run now s).result with
    | ok sync =>
      obtain ⟨-, -, -, hpasses⟩ := hok sync hresult
      exact absurd (hpasses.lt_of_refusedAt hrefused hpos) (Nat.not_lt.mpr hle)
    | error e' =>
      obtain ⟨-, m, hmpos, -, hmrefused, hdev⟩ := herr e' hresult
      obtain ⟨rfl, rfl⟩ := hrefused.unique hmrefused hpos hmpos
      rw [hdev, Device.loadTime_eq hkind]
      refine ⟨rfl, ?_, ?_, rfl⟩
      · split_ifs <;> rfl
      · rw [← Device.loadTime_eq hkind]
        split_ifs
        · rfl
        · exact Device.timestamp_loadTime hkind seconds

/-- An overlord without pauses. -/
def labOverlord : Board := ⟨"OVLD", .overlord, .none⟩

/-- An overlord that accepts every dispatch. -/
def soundOverlord : Session := .ofDevice (.overlord "OVLD")

/-- An overlord that refuses its third dispatch, with which the new time stamp would be read back. -/
def lossyOverlord : Session := .ofDevice ((Device.overlord "OVLD").failingAt 3 "link lost")

/-- The latest time stamp of all is set on the one, and loaded but not broadcast on the other. -/
theorem syncTimestampAt_lossyOverlord :
    soundOverlord.Idle .overlord ∧ lossyOverlord.Idle .overlord ∧
    lossyOverlord.RefusedAt 3 (.transport "OVLD" "link lost") ∧
    ((labOverlord.syncTimestampAt 368934881475).run 0 soundOverlord).result = .ok ⟨0x1000, 0xffffffffffffffff⟩ ∧
    ((labOverlord.syncTimestampAt 368934881475).run 0 lossyOverlord).result = .error (.transport "OVLD" "link lost") ∧
    ((labOverlord.syncTimestampAt 368934881475).run 0 lossyOverlord).state.device.word? MasterNode.broadcastEnable =
      some 0 ∧
    ((labOverlord.syncTimestampAt 368934881475).run 0 lossyOverlord).state.device.timestamp = 0xffffffffffffffff := by
  have hsound : soundOverlord.Idle .overlord := ⟨Device.Plays.overlord "OVLD", rfl⟩
  have hlossy : lossyOverlord.Idle .overlord := ⟨(Device.Plays.overlord "OVLD").extends_of rfl (.refl _), rfl⟩
  have hrefused : lossyOverlord.RefusedAt 3 (.transport "OVLD" "link lost") :=
    Session.refusedAt_of_failingDispatch rfl rfl
  have hold : soundOverlord.device.timestamp = 0x1000 := by decide +kernel
  have hoff : lossyOverlord.device.word? MasterNode.broadcastEnable = some 0 := by decide +kernel
  have hnew : Ticks.ofSeconds 368934881475 = 0xffffffffffffffff := by decide
  obtain ⟨-, -, hset, -⟩ := syncTimestampAt_outcome (b := labOverlord) rfl hsound 368934881475 0
  obtain ⟨-, -, -, hlost⟩ := syncTimestampAt_outcome (b := labOverlord) rfl hlossy 368934881475 0
  obtain ⟨hresult, hbroadcast, htimestamp, -⟩ := hlost 3 _ (by decide) (by decide) hrefused
  refine ⟨hsound, hlossy, hrefused, ?_, hresult, hbroadcast.trans hoff, htimestamp.trans hnew⟩
  rw [(hset fun n _ _ => rfl).1, hold, hnew]

end Board

end TimingFleet
