import TimingFleet.Proofs.Session.Client
import TimingFleet.Proofs.Session.Effects
import TimingFleet.Proofs.Session.Logic
import TimingFleet.Proofs.Session.Packets

/-!
# What a history of command packets leaves on

For each transmitter the last packet that switches it decides.  A packet to the broadcast address switches all of them
off, but only the transmitter of address zero on; a packet that cannot be decoded switches nothing.

* `SfpPacket.LeftOn packets address`: the packets leave the transmitter at `address` on.
* `Session.carried s rs`: the packets that reach the device while `s` answers the requests `rs`.
* `Session.AllServed s rs`: no dispatch among `rs` fails.

The set of an overlord is the one that the carried packets leave on (`Session.enabledSfps_follow`).  As long as no
dispatch fails, these are all packets that were written; and without a queue to read from none fails.
-/

namespace TimingFleet

/-! ## Packets -/

namespace SfpPacket

/-- The packet switches the transmitter at `address` on. -/
def SwitchesOn (packet : List UInt32) (address : UInt32) : Prop := decode packet = some (address, true)

/-- The packet switches the transmitter at `address` off, alone or with all others. -/
def SwitchesOff (packet : List UInt32) (address : UInt32) : Prop :=
  decode packet = some (address, false) ∨ decode packet = some (broadcastAddress, false)

/-- Some packet switches the transmitter on, and none after it switches it off. -/
def LeftOn (packets : List (List UInt32)) (address : UInt32) : Prop :=
  ∃ before packet after, packets = before ++ packet :: after ∧ SwitchesOn packet address ∧
    ∀ later ∈ after, ¬ SwitchesOff later address

variable {packet : List UInt32} {packets : List (List UInt32)} {address : UInt32} {sfps : IndexSet}

theorem not_leftOn_nil : ¬ LeftOn [] address := by
  rintro ⟨before, packet, after, heq, -⟩
  simp at heq

theorem leftOn_cons : LeftOn (packet :: packets) address ↔
    LeftOn packets address ∨ SwitchesOn packet address ∧ ∀ later ∈ packets, ¬ SwitchesOff later address := by
  constructor
  · rintro ⟨before, p, after, heq, hon, hoff⟩
    cases before with
    | nil =>
      obtain ⟨rfl, rfl⟩ := List.cons.inj heq
      exact .inr ⟨hon, hoff⟩
    | cons first before =>
      obtain ⟨rfl, rfl⟩ := List.cons.inj heq
      exact .inl ⟨before, p, after, rfl, hon, hoff⟩
  · rintro (⟨before, p, after, rfl, hon, hoff⟩ | ⟨hon, hoff⟩)
    · exact ⟨packet :: before, p, after, rfl, hon, hoff⟩
    · exact ⟨[], packet, packets, rfl, hon, hoff⟩

/-- **One packet**: a transmitter is on if the packet switches it on, or if it was on and is not switched off. -/
theorem mem_applyPacket :
    address ∈ Device.applyPacket sfps packet ↔
      SwitchesOn packet address ∨ address ∈ sfps ∧ ¬ SwitchesOff packet address := by
  unfold Device.applyPacket SwitchesOn SwitchesOff
  cases decode packet with
  | none => simp
  | some switch =>
    obtain ⟨target, on⟩ := switch
    cases on with
    | true => simp [Std.ExtTreeSet.mem_insert]
    | false =>
      by_cases hall : target = broadcastAddress
      · simp [hall]
      · simp [hall, Std.ExtTreeSet.mem_erase, and_comm]

/-- **A history of packets**: what it leaves on, and what was on before and is never switched off. -/
theorem mem_foldl_applyPacket :
    address ∈ packets.foldl Device.applyPacket sfps ↔
      LeftOn packets address ∨ address ∈ sfps ∧ ∀ packet ∈ packets, ¬ SwitchesOff packet address := by
  induction packets generalizing sfps with
  | nil => simp [not_leftOn_nil]
  | cons packet packets ih =>
    rw [List.foldl_cons, ih, leftOn_cons, mem_applyPacket, List.forall_mem_cons, or_and_right, or_assoc, and_assoc]

end SfpPacket

/-! ## Packets that are written and packets that are carried -/

/-- The command packet that the request writes, if it writes one. -/
def Request.packet? : Request → Option (List UInt32)
  | .writeBlock path values => if path = MasterNode.commandBuffer then some values else none
  | _ => none

theorem Request.packet?_of_queued? {r : Request} {op : Pending} (h : r.queued? = some op.access) :
    op.packet? = r.packet? := by
  cases op <;> cases r <;> cases h <;> rfl

namespace Session

variable {s : Session} {r : Request} {rs : List Request}

/-- The packets that reach the device while the requests are answered. -/
def carried (s : Session) : List Request → List (List UInt32)
  | [] => []
  | r :: rs => s.packets r ++ (s.answer r).state.carried rs

/-- No dispatch among the requests fails. -/
def AllServed (s : Session) (rs : List Request) : Prop :=
  ∀ x ∈ s.exchanges rs, x.request = .dispatch → x.Succeeds

/-- The packets that wait. -/
def waitingPackets (s : Session) : List (List UInt32) := s.batch.toList.filterMap Pending.packet?

/-- **The transmitters of a run** are those that the carried packets make of the ones at its start. -/
theorem enabledSfps_follow_eq (hk : s.device.kind = .overlord) (rs : List Request) :
    (s.follow rs).device.enabledSfps = (s.carried rs).foldl Device.applyPacket s.device.enabledSfps := by
  induction rs generalizing s with
  | nil => rfl
  | cons r rs ih =>
    have hk' : (s.answer r).state.device.kind = .overlord := (s.answer_evolves r).kind.trans hk
    rw [follow, ih hk', enabledSfps_answer hk, carried, List.foldl_append]

/-! ### One request -/

/-- A dispatch that succeeds carries all that waits. -/
theorem packets_dispatch (h : s.dispatch.result = .ok ()) : s.packets .dispatch = s.waitingPackets := by
  obtain ⟨hn, hall⟩ := dispatch_ok_iff.mp h
  have hserved : s.served = s.batch.toList := by
    rw [served, hn]
    exact Bench.served_of_ok hall
  rw [packets, hserved, waitingPackets]

/-- **One request**: what waited and what is written is carried or waits. -/
theorem waiting_answer (hbuffer : s.device.registers.blocks.contains MasterNode.commandBuffer = true)
    (hr : r = .dispatch → s.dispatch.result = .ok ()) :
    s.waitingPackets ++ r.packet?.toList = s.packets r ++ (s.answer r).state.waitingPackets := by
  cases hq : r.queued? with
  | none =>
    cases r with
    | dispatch =>
      rw [packets_dispatch (hr rfl)]
      simp [Request.packet?, waitingPackets, answer]
    | hasNode path => simp [Request.packet?, packets, answer, Outcome.ok]
    | subNodes path => simp [Request.packet?, packets, answer]
    | wordValue handle => simp [Request.packet?, packets, answer]
    | blockValue handle => simp [Request.packet?, packets, answer]
    | _ => cases hq
  | some a =>
    have hnone : s.packets r = [] := by cases r <;> first | rfl | cases hq
    rw [hnone, List.nil_append]
    cases ha : s.device.registers.admits a with
    | false =>
      -- the buffer is there, so what is turned down is no packet
      have hno : r.packet? = none := by
        cases r with
        | writeBlock path values =>
          refine if_neg ?_
          rintro rfl
          cases hq
          exact absurd (hbuffer.symm.trans ha) (by decide)
        | _ => rfl
      obtain ⟨-, -, -, hs⟩ := answer_of_not_admits hq ha
      rw [hs, hno, Option.toList_none, List.append_nil]
    | true =>
      obtain ⟨-, op, rfl, hs⟩ := answer_of_admits hq ha
      have hbatch : (s.answer r).state.batch.toList = s.batch.toList ++ [op] := by
        rcases hs with ⟨-, hs⟩ | ⟨-, hs⟩ <;> rw [hs] <;> simp
      rw [waitingPackets, waitingPackets, hbatch, List.filterMap_append, ← Request.packet?_of_queued? hq]
      cases hp : op.packet? <;> simp [hp]

/-! ### Runs -/

/-- **What is written is carried**, up to what waits in the end, as long as no dispatch fails. -/
theorem waiting_follow (hbuffer : s.device.registers.blocks.contains MasterNode.commandBuffer = true)
    (hs : s.AllServed rs) :
    s.waitingPackets ++ rs.filterMap Request.packet? = s.carried rs ++ (s.follow rs).waitingPackets := by
  induction rs generalizing s with
  | nil => simp [carried, follow]
  | cons r rs ih =>
    have hdispatch : r = .dispatch → s.dispatch.result = .ok () := by
      rintro rfl
      obtain ⟨⟨⟩, h⟩ := hs _ List.mem_cons_self rfl
      exact h
    have hrest : (s.answer r).state.AllServed rs := fun x hx => hs x (List.mem_cons_of_mem _ hx)
    have hbuffer' := (s.answer_evolves r).registers.blocks _ hbuffer
    have hhead : (r :: rs).filterMap Request.packet? = r.packet?.toList ++ rs.filterMap Request.packet? := by
      cases h : r.packet? <;> simp [h]
    rw [hhead, ← List.append_assoc, waiting_answer hbuffer hdispatch, List.append_assoc, ih hbuffer' hrest, carried,
      follow, List.append_assoc]

/-- Without faults and without queues no dispatch fails. -/
theorem allServed_of_no_queue (hd : s.device.failure = none)
    (hq : ∀ path, s.device.registers.fifos.contains path = false) (rs : List Request) : s.AllServed rs := by
  induction rs generalizing s with
  | nil => exact fun x hx => absurd hx List.not_mem_nil
  | cons r rs ih =>
    intro x hx hdispatch
    have hev := s.answer_evolves r
    rcases List.mem_cons.mp hx with rfl | hx
    · obtain rfl : r = .dispatch := hdispatch
      have hok : s.dispatch.result = .ok () := dispatch_ok_iff.mpr ⟨refusal_of_failure_eq_none hd _,
        (Bench.serveAll_of_suffices (b := s.bench) (Device.suffices_of_no_queue hq _)).1⟩
      exact ⟨(), hok⟩
    · exact ih (hev.failure.trans hd) (fun path => (hev.registers.fifos path).trans (hq path)) x hx hdispatch

/-- **The transmitters of an overlord** after a run of requests that ends with a dispatch, on a device without faults
whose transmitters were off.  They are listed in ascending order and are those that the carried packets leave on.  If no
dispatch of the run fails, these are all packets that were written; and a dispatch can fail only if there is a queue. -/
theorem enabledSfps_follow (hs : s.Idle .overlord) (hd : s.device.failure = none) (he : s.device.enabledSfps = ∅)
    (calls : List Request) :
    let run := calls ++ [.dispatch]
    let sfps := (s.follow run).device.enabledSfps.toList
    sfps.Pairwise (· < ·) ∧ (∀ address, address ∈ sfps ↔ SfpPacket.LeftOn (s.carried run) address) ∧
      (s.AllServed run → s.carried run = calls.filterMap Request.packet?) ∧
      ((∀ path, s.device.registers.fifos.contains path = false) → s.AllServed run) := by
  intro run sfps
  have hbuffer : s.device.registers.blocks.contains MasterNode.commandBuffer = true :=
    hs.plays.block (by decide)
  refine ⟨?_, fun address => ?_, fun hserved => ?_, fun hq => allServed_of_no_queue hd hq run⟩
  · exact Std.ExtTreeSet.ordered_toList.imp fun h => Std.compare_eq_lt.mp h
  · rw [Std.ExtTreeSet.mem_toList, enabledSfps_follow_eq hs.plays.kind, he, SfpPacket.mem_foldl_applyPacket]
    simp
  · have hstart : s.waitingPackets = [] := by rw [waitingPackets, hs.batch]; rfl
    have hend : (s.follow run).waitingPackets = [] := by
      rw [follow_append]
      simp [follow, answer, waitingPackets]
    have hall := waiting_follow hbuffer hserved
    rw [hstart, hend, List.nil_append, List.append_nil] at hall
    rw [← hall]
    simp [run, Request.packet?]

/-- Two transmitters are switched on, a packet is cut short, all are switched off, and one is switched on again. -/
def switchingClient : List Request :=
  [.writeBlock MasterNode.commandBuffer (SfpPacket.encode 5 true),
    .writeBlock MasterNode.commandBuffer (SfpPacket.encode 9 true), .dispatch,
    .writeBlock MasterNode.commandBuffer [7, 0, 171], .writeBlock MasterNode.commandBuffer (SfpPacket.encode 0 false),
    .dispatch, .writeBlock MasterNode.commandBuffer (SfpPacket.encode 9 true)]

theorem enabledSfps_switchingClient :
    let s := ofDevice (Device.overlord "OVLD")
    s.Idle .overlord ∧ s.device.failure = none ∧ s.device.enabledSfps = ∅ ∧
      (s.follow (switchingClient ++ [.dispatch])).device.enabledSfps.toList = [9] ∧
      SfpPacket.LeftOn (switchingClient.filterMap Request.packet?) 9 ∧
      ¬ SfpPacket.LeftOn (switchingClient.filterMap Request.packet?) 5 := by
  intro s
  have hs : s.Idle .overlord := ⟨.overlord "OVLD", rfl⟩
  obtain ⟨-, hmem, hall, hserved⟩ := enabledSfps_follow hs rfl rfl switchingClient
  have hcarried := hall (hserved fun _ => rfl)
  have hsfps : (s.follow (switchingClient ++ [.dispatch])).device.enabledSfps.toList = [9] := by decide +kernel
  rw [hcarried, hsfps] at hmem
  exact ⟨hs, rfl, rfl, hsfps, (hmem 9).mp (by decide), fun h => absurd ((hmem 5).mpr h) (by decide)⟩

/-- A board with a readout buffer besides its own registers still plays its role. -/
theorem plays_withBuffer {d : Device} {role : BoardRole} (h : d.Plays role) {n : UInt32} (words : List UInt32)
    (hn : role.registers.blocks.contains ((EndpointNode.base n).join EndpointNode.bufferData) = false) :
    (d.withBuffer n words).Plays role := by
  refine ⟨h.kind, fun path hpath => ?_, h.blocks, fun path hpath => ?_⟩
  · exact (Registers.Extends.setWord (d.registers.setFifo _ words) _ _).words path (h.words path hpath)
  · have hne : (EndpointNode.base n).join EndpointNode.bufferData ≠ path := by
      rintro rfl
      exact absurd (hpath.symm.trans hn) (by decide)
    show (d.registers.setFifo _ words).fifos.contains path = false
    rw [Registers.setFifo, Std.ExtTreeMap.contains_insert, h.fifos path hpath, Bool.or_false]
    exact beq_eq_false_iff_ne.mpr fun heq => hne (Std.LawfulEqCmp.eq_of_compare heq)

/-- **A packet can be lost**: behind a read that asks an empty readout buffer for a word, a packet that switches a
transmitter on is dropped with the rest of the batch. -/
theorem short_read_drops_packet :
    let s := ofDevice ((Device.overlord "OVLD").withBuffer 0 [])
    let calls := [.readBlock ((EndpointNode.base 0).join EndpointNode.bufferData) 1,
      .writeBlock MasterNode.commandBuffer (SfpPacket.encode 5 true)]
    s.Idle .overlord ∧ s.device.failure = none ∧ s.device.enabledSfps = ∅ ∧
      SfpPacket.LeftOn (calls.filterMap Request.packet?) 5 ∧
      (s.follow (calls ++ [.dispatch])).device.enabledSfps.toList = [] := by
  intro s calls
  have hplays : s.device.Plays .overlord := plays_withBuffer (.overlord "OVLD") [] (by decide +kernel)
  have hwritten : calls.filterMap Request.packet? = [SfpPacket.encode 5 true] := by decide +kernel
  refine ⟨⟨hplays, rfl⟩, rfl, rfl, ?_, by decide +kernel⟩
  rw [hwritten]
  exact ⟨[], _, [], rfl, SfpPacket.decode_encode 5 true, fun later hlater => absurd hlater List.not_mem_nil⟩

end Session

end TimingFleet
