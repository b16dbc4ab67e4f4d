import TimingFleet.Proofs.Device.ReadoutBuffer
import TimingFleet.Proofs.EndpointGroup.Reports
import TimingFleet.Proofs.Session.Leftovers

/-!
# Readout of buffers

A readout goes through the endpoints of a group in ascending order and takes words out of each buffer.  Where a
dispatch is refused it fails as a whole: the words that it has taken so far have left their buffers and are not
returned.
-/

namespace TimingFleet

open EndpointNode Procedure

/-! ## Shares -/

namespace Registers

/-- The words that a readout takes out of the buffer of endpoint `e`. -/
def share (r : Registers) (mode : ReadoutMode) (e : UInt32) : List UInt32 :=
  (r.buffer e).take (wordsToRead (r.buffer e).length mode)

/-- The words that a readout leaves in the buffer of endpoint `e`. -/
def remainder (r : Registers) (mode : ReadoutMode) (e : UInt32) : List UInt32 :=
  (r.buffer e).drop (wordsToRead (r.buffer e).length mode)

theorem share_append_remainder (r : Registers) (mode : ReadoutMode) (e : UInt32) :
    r.share mode e ++ r.remainder mode e = r.buffer e :=
  List.take_append_drop _ _

/-- What a readout of endpoint `e` reports. -/
def readout (r : Registers) (mode : ReadoutMode) (e : UInt32) : Readback :=
  ⟨e, UInt32.ofNat (r.buffer e).length, wordsToRead (r.buffer e).length mode, r.share mode e⟩

/-- The registers `r'` are `r` after the buffers of `ids` have been read out. -/
structure Drained (mode : ReadoutMode) (ids : List UInt32) (r r' : Registers) : Prop where
  keeps : ∀ e, r.HasBuffer e → r'.HasBuffer e
  taken : ∀ e ∈ ids, r'.buffer e = r.remainder mode e
  kept : ∀ e, e ∉ ids → r'.buffer e = r.buffer e

variable {mode : ReadoutMode} {r r' r'' : Registers} {e : UInt32} {ids : List UInt32}

theorem Drained.nil (mode : ReadoutMode) (r : Registers) : Drained mode [] r r :=
  ⟨fun _ h => h, fun _ h => absurd h List.not_mem_nil, fun _ _ => rfl⟩

theorem Drained.cons (h : Drained mode [e] r r') (hrest : Drained mode ids r' r'') (he : e ∉ ids) :
    Drained mode (e :: ids) r r'' := by
  refine ⟨fun f hf => hrest.keeps f (h.keeps f hf), fun f hf => ?_, fun f hf => ?_⟩
  · rcases List.mem_cons.mp hf with rfl | hf
    · rw [hrest.kept f he]
      exact h.taken f (List.mem_singleton_self f)
    · have hne : f ∉ [e] := fun hmem => he (List.mem_singleton.mp hmem ▸ hf)
      rw [hrest.taken f hf, remainder, h.kept f hne, ← remainder]
  · obtain ⟨hne, hf⟩ := List.ne_and_not_mem_of_not_mem_cons hf
    rw [hrest.kept f hf]
    exact h.kept f fun hmem => hne (List.mem_singleton.mp hmem)

theorem drained_of_nothing (h : wordsToRead (r.buffer e).length mode = 0) : Drained mode [e] r r := by
  refine ⟨fun _ hf => hf, fun f hf => ?_, fun _ _ => rfl⟩
  obtain rfl := List.mem_singleton.mp hf
  rw [remainder, h, List.drop_zero]

theorem drained_takeOut {d : Device} (h : d.registers.HasBuffer e) :
    Drained mode [e] d.registers
      (d.takeOut (data e) (wordsToRead (d.registers.buffer e).length mode)).registers := by
  refine ⟨fun f hf => Device.hasBuffer_takeOut h _ hf, fun f hf => ?_, fun f hf => ?_⟩
  · obtain rfl := List.mem_singleton.mp hf
    rw [Device.buffer_takeOut h, if_pos rfl, remainder]
  · have hne : f ≠ e := fun hfe => hf (List.mem_singleton.mpr hfe)
    rw [Device.buffer_takeOut h, if_neg hne]

/-- What is gone from a buffer after the endpoints `done` have been read out. -/
theorem Drained.gone {done : List UInt32} (h : Drained mode done r r') (e : UInt32) :
    (r.buffer e).take ((r.buffer e).length - (r'.buffer e).length) =
      if e ∈ done then r.share mode e else [] := by
  by_cases he : e ∈ done
  · have hle := wordsToRead_le (r.buffer e).length mode
    have hlength : (r.buffer e).length - (r'.buffer e).length = wordsToRead (r.buffer e).length mode := by
      rw [h.taken e he, remainder, List.length_drop]
      omega
    rw [if_pos he, hlength, share]
  · rw [if_neg he, h.kept e he, Nat.sub_self, List.take_zero]

theorem Drained.share_append {done : List UInt32} (h : Drained mode done r r') (e : UInt32) :
    (if e ∈ done then r.share mode e else []) ++ r'.buffer e = r.buffer e := by
  by_cases he : e ∈ done
  · rw [if_pos he, h.taken e he, share_append_remainder]
  · rw [if_neg he, h.kept e he, List.nil_append]

theorem Drained.readout (h : Drained mode [e] r r') {f : UInt32} (hf : f ≠ e) :
    r'.readout mode f = r.readout mode f := by
  have hbuffer : r'.buffer f = r.buffer f := h.kept f fun hmem => hf (List.mem_singleton.mp hmem)
  simp only [Registers.readout, share, hbuffer]

end Registers

/-! ## One endpoint -/

namespace Device

variable {d d' : Device} {mode : ReadoutMode} {e : UInt32} {report : Readback}

/-- What a readout of endpoint `e` reports and leaves, or why it fails.  It goes by the occupancy register. -/
def readback (d : Device) (mode : ReadoutMode) (e : UInt32) : Except Error (Readback × Device) :=
  let available := (d.word? (count e)).getD 0
  let words := wordsToRead available.toNat mode
  if words = 0 then .ok (⟨e, available, words, []⟩, d)
  else (d.readBlock (data e) words).map fun taken => (⟨e, available, words, taken.1⟩, taken.2)

/-- Where the occupancy register tells how many words there are, a readout takes its share of them. -/
theorem readback_of_hasBuffer (h : d.registers.HasBuffer e) :
    d.readback mode e = .ok (d.registers.readout mode e,
      if wordsToRead (d.registers.buffer e).length mode = 0 then d
      else d.takeOut (data e) (wordsToRead (d.registers.buffer e).length mode)) := by
  have hcount : d.word? (count e) = some (UInt32.ofNat (d.registers.buffer e).length) := h.count
  unfold readback
  simp only [hcount, Option.getD_some, h.toNat_count]
  by_cases hzero : wordsToRead (d.registers.buffer e).length mode = 0
  · rw [if_pos hzero, if_pos hzero]
    simp [Registers.readout, Registers.share, hzero]
  · have henough : ∀ queue, d.registers.fifos[data e]? = some queue →
        wordsToRead (d.registers.buffer e).length mode ≤ queue.length := by
      intro queue hq
      obtain rfl := Option.some.inj (h.queue.symm.trans hq)
      exact wordsToRead_le _ mode
    rw [if_neg hzero, if_neg hzero, readBlock_of_not_short henough, contents_data h]
    rfl

/-- A readout leaves the device as it is, or shortens the buffer at the front. -/
theorem eq_or_setBuffer_of_readback {queue : List UInt32} (hq : d.registers.fifos[data e]? = some queue)
    (h : d.readback mode e = .ok (report, d')) :
    d' = d ∨ ∃ n, d' = { d with registers := d.registers.setBuffer e (queue.drop n) } := by
  unfold readback at h
  dsimp only at h
  split_ifs at h
  · obtain ⟨-, rfl⟩ := Prod.mk.inj (Except.ok.inj h)
    exact Or.inl rfl
  · cases hread : d.readBlock (data e) (wordsToRead ((d.word? (count e)).getD 0).toNat mode) with
    | error err =>
      rw [hread] at h
      cases h
    | ok taken =>
      rw [hread] at h
      obtain ⟨-, rfl⟩ := Prod.mk.inj (Except.ok.inj h)
      exact Or.inr ⟨_, (eq_of_readBlock hread).2.trans (takeOut_data hq _)⟩

end Device

namespace EndpointGroup

open Registers

variable {now : UInt64} {s : Session} {mode : ReadoutMode} {e : UInt32}

/-- **Readout of one endpoint**: it reports and leaves what the registers tell, or fails and takes nothing. -/
theorem runs_readbackOne_or_short (hs : s.Clear) (hc : s.device.registers.words.contains (count e) = true)
    (hd : s.device.registers.isBlock (data e) = true) :
    Runs now (readbackOne mode e) s
      (fun report t _ => t.Clear ∧ s.device.readback mode e = .ok (report, t.device))
      fun err t _ => t.Clear ∧ t.device = s.device ∧ (s.device.readback mode e = .error err ∨ t.JustRefused err) := by
  unfold readbackOne
  refine runs_bind (runs_read hc ?_)
  refine runs_bind (runs_dispatch_or_refused _ (hs.toList_enqueue _) (.read (.nil _)) (fun _ t ht hbench => ?_)
    fun reason hr => ⟨rfl, rfl, Or.inr (Session.justRefused_flushed hr)⟩)
  have hdev : t.device = s.device := congrArg Bench.device hbench
  refine runs_bind (runs_wordValue ((s.device.word? (count e)).getD 0) ?_ ?_)
  · rw [show t.slots = _ from congrArg Bench.slots hbench, Slots.word?_fillWord]
    exact if_pos rfl
  dsimp only
  unfold Device.readback
  by_cases hzero : wordsToRead ((s.device.word? (count e)).getD 0).toNat mode = 0
  · simp only [if_pos hzero]
    exact runs_bind (runs_log (runs_pure ⟨ht, by rw [hdev]⟩))
  simp only [if_neg hzero, show node e bufferData = data e from rfl]
  rw [← hdev] at hd ⊢
  refine runs_blockAlone ht hd (fun words u hu hread => ?_) fun err u hu hdev' hfailed => ⟨hu, hdev', ?_⟩
  · rw [hread]
    exact runs_pure ⟨hu, rfl⟩
  · refine hfailed.imp_left fun hread => ?_
    rw [hread]
    rfl

/-- The same for an endpoint of an endpoint device. -/
theorem runs_readbackOne_onEndpoints {endpoints : List UInt32} (hs : s.OnEndpoints endpoints) (he : e ∈ endpoints) :
    Runs now (readbackOne mode e) s
      (fun report t _ => t.OnEndpoints endpoints ∧ s.device.readback mode e = .ok (report, t.device))
      fun err t _ => t.OnEndpoints endpoints ∧ t.device = s.device ∧
        (s.device.readback mode e = .error err ∨ t.JustRefused err) := by
  have hcount : s.device.registers.words.contains (count e) = true := hs.laid.contains_word he (by decide)
  have hqueue : s.device.registers.fifos.contains (data e) = true := hs.laid.contains_queue he (by decide)
  have hblock : s.device.registers.isBlock (data e) = true := by rw [Registers.isBlock, hqueue, Bool.or_true]
  obtain ⟨queue, hq⟩ := Option.isSome_iff_exists.mp (Std.ExtTreeMap.contains_eq_isSome_getElem?.symm.trans hqueue)
  refine hs.runs ((runs_readbackOne_or_short hs.clear hcount hblock).mono ?_ ?_)
  · rintro report t _ ⟨hclear, hread⟩
    refine ⟨⟨hclear, ?_⟩, hread⟩
    rcases Device.eq_or_setBuffer_of_readback hq hread with hdev | ⟨n, hdev⟩
    · exact hdev ▸ .refl _
    · have hfirst := sameNodes_setFifo hqueue (queue.drop n)
      rw [hdev]
      exact hfirst.trans (sameNodes_setWord ((hfirst.words _).trans hcount) _)
  · rintro err t _ ⟨hclear, hdev, hfailed⟩
    exact ⟨⟨hclear, hdev ▸ .refl _⟩, hdev, hfailed⟩

/-- The same for an endpoint with a readout buffer, whose register tells how many words there are. -/
theorem runs_readbackOne (hs : s.Clear) (h : s.device.registers.HasBuffer e) :
    Runs now (readbackOne mode e) s
      (fun report t _ => t.Clear ∧ Drained mode [e] s.device.registers t.device.registers ∧
        report = s.device.registers.readout mode e)
      (fun err t _ => t.Clear ∧ t.device = s.device ∧ t.JustRefused err) := by
  have hread : s.device.readback mode e = .ok (s.device.registers.readout mode e, _) := Device.readback_of_hasBuffer h
  refine (runs_readbackOne_or_short hs (Device.contains_count h) (Device.isBlock_data h)).mono ?_ ?_
  · rintro report t _ ⟨hclear, hok⟩
    rw [hread] at hok
    obtain ⟨rfl, hdev⟩ := Prod.mk.inj (Except.ok.inj hok)
    refine ⟨hclear, ?_, rfl⟩
    rw [← hdev]
    split_ifs with hzero
    · exact drained_of_nothing hzero
    · exact drained_takeOut h
  · rintro err t _ ⟨hclear, hdev, herr | hrefused⟩
    · rw [hread] at herr
      cases herr
    · exact ⟨hclear, hdev, hrefused⟩

/-! ## A group -/

/-- **Readout of a group**: it reports the words that it takes.  When a dispatch is refused, the buffers of the
endpoints before the one at which it stops have been read out. -/
theorem runs_each_readbackOne {ids : List UInt32} (hs : s.Clear) (hn : ids.Nodup)
    (h : ∀ e ∈ ids, s.device.registers.HasBuffer e) :
    Runs now (each ids (readbackOne mode)) s
      (fun reports t _ => t.Clear ∧ Drained mode ids s.device.registers t.device.registers ∧
        reports = ids.map (s.device.registers.readout mode))
      (fun err t _ => t.Clear ∧ t.JustRefused err ∧ ∃ done stop rest, ids = done ++ stop :: rest ∧
        Drained mode done s.device.registers t.device.registers) := by
  induction ids generalizing s with
  | nil => exact runs_pure ⟨hs, .nil mode _, rfl⟩
  | cons e ids ih =>
    obtain ⟨he, hn⟩ := List.nodup_cons.mp hn
    refine runs_bind ((runs_readbackOne hs (h e List.mem_cons_self)).mono ?_ ?_)
    · rintro report t _ ⟨ht, hfirst, rfl⟩
      have hleft : ∀ f ∈ ids, t.device.registers.HasBuffer f := fun f hf =>
        hfirst.keeps f (h f (List.mem_cons_of_mem e hf))
      refine runs_bind ((ih ht hn hleft).mono ?_ ?_)
      · rintro reports u _ ⟨hu, hrest, rfl⟩
        refine runs_pure ⟨hu, hfirst.cons hrest he, ?_⟩
        have hsame : ids.map (t.device.registers.readout mode) = ids.map (s.device.registers.readout mode) :=
          List.map_congr_left fun f hf => hfirst.readout fun hfe => he (hfe ▸ hf)
        rw [hsame, List.map_cons]
      · rintro err u _ ⟨hu, hrefused, done, stop, rest, rfl, hdone⟩
        have hnot : e ∉ done := fun hmem => he (List.mem_append_left _ hmem)
        exact ⟨hu, hrefused, e :: done, stop, rest, rfl, hfirst.cons hdone hnot⟩
    · rintro err t _ ⟨ht, hdev, hrefused⟩
      refine ⟨ht, hrefused, [], e, ids, rfl, ?_⟩
      rw [hdev]
      exact .nil mode _

end EndpointGroup

end TimingFleet
