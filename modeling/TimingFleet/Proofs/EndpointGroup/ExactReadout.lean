import Mathlib.Order.Bounds.Defs
import TimingFleet.Proofs.EndpointGroup.Reachable

/-!
# Exact readouts

On an endpoint device without faults a readout returns what it takes, and takes nothing else.

* `ReadoutMode.Takes mode available n`: of `available` words the mode takes `n`.
* `Readback.Accounts mode d d' report`: the report is what the readout of its endpoint took out of `d`, and `d'` holds
  the rest.
* `Device.SameButBuffers ids d d'`: the devices differ in the buffers of `ids` only.

Main statement (`EndpointGroup.readback_exact`): every endpoint is accounted for, nothing else changes, and a second
readout of complete events finds nothing.
-/

namespace TimingFleet

open EndpointNode Procedure

/-! ## What a mode takes -/

/-- Of so many available words the mode takes `n`: all of them, or as many as are in complete events of six words. -/
def ReadoutMode.Takes (available n : Nat) : ReadoutMode → Prop
  | .everything => n = available
  | .completeEvents => IsGreatest {m | 6 ∣ m ∧ m ≤ available} n

theorem takes_wordsToRead (available : Nat) (mode : ReadoutMode) : mode.Takes available (wordsToRead available mode) := by
  cases mode with
  | everything => rfl
  | completeEvents =>
    refine ⟨⟨Nat.dvd_mul_left 6 _, wordsToRead_le available .completeEvents⟩, fun m hm => ?_⟩
    obtain ⟨⟨k, rfl⟩, hle⟩ := hm
    have hk : k ≤ available / 6 := (Nat.le_div_iff_mul_le (by decide)).mpr (by omega)
    show 6 * k ≤ available / 6 * 6
    omega

/-- What a readout leaves is less than an event. -/
theorem length_remainder_lt (r : Registers) (mode : ReadoutMode) (e : UInt32) : (r.remainder mode e).length < 6 := by
  rw [Registers.remainder, List.length_drop]
  cases mode with
  | everything => simp [wordsToRead]
  | completeEvents =>
    show (r.buffer e).length - (r.buffer e).length / 6 * 6 < 6
    omega

theorem wordsToRead_of_lt {available : Nat} (h : available < 6) : wordsToRead available .completeEvents = 0 := by
  show available / 6 * 6 = 0
  rw [Nat.div_eq_of_lt h, Nat.zero_mul]

/-! ## Devices that differ in buffers only -/

namespace Device

variable {d d' d'' : Device} {ids : List UInt32} {e : UInt32}

/-- The devices differ in nothing but the queues of `ids` and their occupancy. -/
structure SameButBuffers (ids : List UInt32) (d d' : Device) : Prop where
  words : ∀ path, (∀ e ∈ ids, count e ≠ path) → d'.word? path = d.word? path
  fifos : ∀ path, (∀ e ∈ ids, data e ≠ path) → d'.registers.fifos[path]? = d.registers.fifos[path]?
  rest : d' = { d with registers :=
    { d.registers with words := d'.registers.words, fifos := d'.registers.fifos } }

theorem SameButBuffers.refl (ids : List UInt32) (d : Device) : SameButBuffers ids d d :=
  ⟨fun _ _ => rfl, fun _ _ => rfl, rfl⟩

theorem SameButBuffers.setBuffer (h : SameButBuffers ids d d') (he : e ∈ ids) (words : List UInt32) :
    SameButBuffers ids d { d' with registers := d'.registers.setBuffer e words } := by
  refine ⟨fun path hpath => ?_, fun path hpath => ?_, ?_⟩
  · rw [word?, Registers.getElem?_words_setBuffer, if_neg (hpath e he)]
    exact h.words path hpath
  · rw [Registers.getElem?_fifos_setBuffer, if_neg (hpath e he)]
    exact h.fifos path hpath
  · rw [h.rest]
    rfl

/-- Where the buffers hold the same too, the devices are equal. -/
theorem SameButBuffers.eq (h : SameButBuffers ids d d') (hd : ∀ e ∈ ids, d.registers.HasBuffer e)
    (hd' : ∀ e ∈ ids, d'.registers.HasBuffer e ∧ d'.registers.buffer e = d.registers.buffer e) : d' = d := by
  have hwords : d'.registers.words = d.registers.words := by
    refine Std.ExtTreeMap.ext_getElem? fun path => ?_
    by_cases hpath : ∃ e ∈ ids, count e = path
    · obtain ⟨e, he, rfl⟩ := hpath
      rw [(hd' e he).1.count, (hd e he).count, (hd' e he).2]
    · exact h.words path fun e he heq => hpath ⟨e, he, heq⟩
  have hfifos : d'.registers.fifos = d.registers.fifos := by
    refine Std.ExtTreeMap.ext_getElem? fun path => ?_
    by_cases hpath : ∃ e ∈ ids, data e = path
    · obtain ⟨e, he, rfl⟩ := hpath
      rw [(hd' e he).1.queue, (hd e he).queue, (hd' e he).2]
    · exact h.fifos path fun e he heq => hpath ⟨e, he, heq⟩
  rw [h.rest, hwords, hfifos]

end Device

/-! ## Accounts -/

namespace Readback

/-- The report is what a readout of its endpoint took out of the buffer in `d`, and in `d'` the rest is left, with an
occupancy register that counts it. -/
structure Accounts (mode : ReadoutMode) (d d' : Device) (report : Readback) : Prop where
  available : d.registers.fifos[data report.id]?.map List.length = some report.available.toNat
  toRead : mode.Takes report.available.toNat report.toRead
  words : d.registers.fifos[data report.id]?.map (List.take report.toRead) = some report.words
  left : d'.registers.fifos[data report.id]? = d.registers.fifos[data report.id]?.map (List.drop report.toRead)
  counted : (d'.word? (count report.id)).map UInt32.toNat = d'.registers.fifos[data report.id]?.map List.length

theorem accounts_readout {mode : ReadoutMode} {d d' : Device} {ids : List UInt32} {e : UInt32}
    (h : d.registers.HasBuffer e) (hdrained : Registers.Drained mode ids d.registers d'.registers) (he : e ∈ ids) :
    (d.registers.readout mode e).Accounts mode d d' := by
  have hafter := hdrained.keeps e h
  have hcount : d'.word? (count e) = _ := hafter.count
  refine ⟨?_, ?_, ?_, ?_, ?_⟩
  all_goals simp only [Registers.readout, h.queue, hafter.queue, hcount, Option.map_some, h.toNat_count,
    hafter.toNat_count]
  · exact takes_wordsToRead _ mode
  · rfl
  · rw [hdrained.taken e he, Registers.remainder]

end Readback

/-! ## Blocks that are read -/

namespace Procedure

/-- What each part asks is told by its result, and so what all of them ask is told by their results. -/
theorem runs_each_asked {ι σ α β : Type} [Stations ι σ] {now : UInt64} {items : List β} {f : β → Procedure ι α}
    {φ : α → σ × ι × Request → Prop}
    (h : ∀ b ∈ items, ∀ t : σ, Runs now (f b) t (fun a _ tr => ∀ x ∈ tr, φ a x) fun _ _ _ => True) (s : σ) :
    Runs now (each items f) s (fun as _ tr => ∀ x ∈ tr, ∃ a ∈ as, φ a x) fun _ _ _ => True := by
  induction items generalizing s with
  | nil => exact runs_pure fun x hx => absurd hx List.not_mem_nil
  | cons b items ih =>
    refine runs_bind ((h b List.mem_cons_self s).mono (fun a t tr ha => ?_) fun _ _ _ _ => trivial)
    have hrest := ih (fun c hc => h c (List.mem_cons_of_mem b hc)) t
    refine runs_bind (hrest.mono (fun as u tr' has => runs_pure fun x hx => ?_) fun _ _ _ _ => trivial)
    rw [List.append_nil] at hx
    rcases List.mem_append.mp hx with hx | hx
    · exact ⟨a, List.mem_cons_self, ha x hx⟩
    · obtain ⟨a', ha', hφ⟩ := has x hx
      exact ⟨a', List.mem_cons_of_mem a ha', hφ⟩

end Procedure

namespace EndpointGroup

open Registers

variable {now : UInt64} {s : Session} {mode : ReadoutMode} {e : UInt32} {g : EndpointGroup} {ids : List UInt32}

/-- A request that reads a block, if it is one, reads what the report says. -/
def ReadsFor (report : Readback) (x : Session × Unit × Request) : Prop :=
  ∀ path words, x.2.2 = .readBlock path words → path = data report.id ∧ words = report.toRead ∧ words ≠ 0

theorem runs_readbackOne_asked (mode : ReadoutMode) (e : UInt32) (now : UInt64) (s : Session) :
    Runs now (readbackOne mode e) s (fun report _ tr => ∀ x ∈ tr, ReadsFor report x) fun _ _ _ => True := by
  unfold readbackOne
  refine runs_bind (runs_request (fun _ _ => ?_) fun _ _ => trivial)
  refine runs_bind (runs_request (fun _ _ => ?_) fun _ _ => trivial)
  refine runs_bind (runs_request (fun available _ => ?_) fun _ _ => trivial)
  by_cases hzero : wordsToRead available.toNat mode = 0
  · simp only [if_pos hzero]
    refine runs_bind (runs_log (runs_pure ?_))
    simp [ReadsFor]
  · simp only [if_neg hzero]
    refine runs_bind (runs_request (fun _ _ => ?_) fun _ _ => trivial)
    refine runs_bind (runs_request (fun _ _ => ?_) fun _ _ => trivial)
    refine runs_bind (runs_request (fun _ _ => runs_pure ?_) fun _ _ => trivial)
    rintro x hx path words hread
    simp only [List.append_nil, List.cons_append, List.nil_append, List.mem_cons, List.not_mem_nil, or_false] at hx
    rcases hx with rfl | rfl | rfl | rfl | rfl | rfl
    all_goals cases hread
    exact ⟨rfl, rfl, hzero⟩

/-! ## Readouts without faults -/

/-- A readout of one endpoint changes its buffer only. -/
theorem keeps_readbackOne_sameButBuffers {d : Device} (he : e ∈ ids) (mode : ReadoutMode) :
    Keeps (fun t : Session => t.Clear ∧ (∀ f ∈ ids, t.device.registers.HasBuffer f) ∧ d.SameButBuffers ids t.device)
      (readbackOne mode e) := by
  refine keeps_iff.mpr fun now s ⟨hs, hbuffers, hsame⟩ => ?_
  have hbuffer := hbuffers e he
  refine (runs_readbackOne_or_short hs (Device.contains_count hbuffer) (Device.isBlock_data hbuffer)).mono
    (fun report t _ ht => ?_) fun err t _ ht => ?_
  · obtain ⟨hclear, hok⟩ := ht
    rcases Device.eq_or_setBuffer_of_readback hbuffer.queue hok with hdev | ⟨n, hdev⟩
    · exact ⟨hclear, hdev ▸ hbuffers, hdev ▸ hsame⟩
    · rw [hdev]
      exact ⟨hclear, fun f hf => (hbuffers f hf).setBuffer (hbuffer.length_drop_lt n), hsame.setBuffer he _⟩
  · obtain ⟨hclear, hdev, -⟩ := ht
    exact ⟨hclear, hdev ▸ hbuffers, hdev ▸ hsame⟩

/-- **Without faults** a readout of a group succeeds, and changes the buffers of its endpoints only. -/
theorem runs_readback (hs : s.Clear) (hfaultless : s.device.failure = none) (hn : g.ids.Nodup)
    (h : ∀ e ∈ g.ids, s.device.registers.HasBuffer e) (mode : ReadoutMode) (now : UInt64) :
    Runs now (g.readback mode) s
      (fun reports t tr => reports = g.ids.map (s.device.registers.readout mode) ∧ t.Clear ∧
        Drained mode g.ids s.device.registers t.device.registers ∧ s.device.SameButBuffers g.ids t.device ∧
        ∀ x ∈ tr, ∃ report ∈ reports, ReadsFor report x)
      fun _ _ _ => False := by
  have hkeeps := keeps_each fun e (he : e ∈ g.ids) => keeps_readbackOne_sameButBuffers (d := s.device) he mode
  have hsame := keeps_iff.mp hkeeps now s ⟨hs, h, .refl g.ids s.device⟩
  have hasked := runs_each_asked (fun e (_ : e ∈ g.ids) => runs_readbackOne_asked mode e now) s
  refine (((runs_each_readbackOne hs hn h).and hsame).and hasked).mono ?_ ?_
  · rintro reports t tr ⟨⟨⟨hclear, hdrained, hreports⟩, -, -, hsame⟩, hreads⟩
    exact ⟨hreports, hclear, hdrained, hsame, hreads⟩
  · rintro err t tr ⟨⟨⟨-, ⟨reason, hrefusal, -⟩, -⟩, -, -, hsame⟩, -⟩
    refine Session.failure_ne_none_of_refusal hrefusal ?_
    rw [hsame.rest]
    exact hfaultless

theorem map_id_readout (r : Registers) (mode : ReadoutMode) (ids : List UInt32) :
    (ids.map (r.readout mode)).map Readback.id = ids := by
  rw [List.map_map]
  exact List.map_id _

section Short

variable (hs : s.Clear) (hfaultless : s.device.failure = none) (hn : g.ids.Nodup)
  (h : ∀ e ∈ g.ids, s.device.registers.HasBuffer e) (hshort : ∀ e ∈ g.ids, (s.device.registers.buffer e).length < 6)

include hs hfaultless hn h hshort

/-- Where less than an event waits in each buffer, no complete one is found and nothing changes. -/
theorem runs_readback_completeEvents_short (now : UInt64) :
    Runs now (g.readback .completeEvents) s
      (fun none t _ => t.Clear ∧ t.device = s.device ∧ none.map Readback.id = g.ids ∧ ∀ report ∈ none, report.words = [])
      fun _ _ _ => False := by
  refine (runs_readback hs hfaultless hn h .completeEvents now).mono (fun none t _ ht => ?_) fun _ _ _ h => h
  obtain ⟨rfl, hclear, hdrained, hsame, -⟩ := ht
  refine ⟨hclear, hsame.eq h fun e he => ⟨hdrained.keeps e (h e he), ?_⟩, map_id_readout _ _ _, fun report hreport => ?_⟩
  · rw [hdrained.taken e he, Registers.remainder, wordsToRead_of_lt (hshort e he), List.drop_zero]
  · obtain ⟨e, he, rfl⟩ := List.mem_map.mp hreport
    show (s.device.registers.buffer e).take (wordsToRead _ .completeEvents) = []
    rw [wordsToRead_of_lt (hshort e he), List.take_zero]

/-- A readout of everything returns the short buffers as they are. -/
theorem runs_readback_everything_short (now : UInt64) :
    Runs now (g.readback .everything) s
      (fun rest _ _ => rest.map Readback.id = g.ids ∧ ∀ report ∈ rest, report.words.length < 6 ∧
        s.device.registers.fifos[data report.id]? = some report.words) fun _ _ _ => False := by
  refine (runs_readback hs hfaultless hn h .everything now).mono (fun rest t _ ht => ?_) fun _ _ _ h => h
  obtain ⟨rfl, -⟩ := ht
  refine ⟨map_id_readout _ _ _, fun report hreport => ?_⟩
  obtain ⟨e, he, rfl⟩ := List.mem_map.mp hreport
  have hall : (s.device.registers.readout .everything e).words = s.device.registers.buffer e := List.take_length
  rw [hall]
  exact ⟨hshort e he, (h e he).queue⟩

end Short

/-! ## Devices that come up -/

end EndpointGroup

namespace EndpointSetting

/-- The setting leaves the occupancy registers right: they are not set themselves, and a buffer is not too long to be
counted. -/
def LeavesCount : EndpointSetting → Prop
  | .buffer words => words.length < UInt32.size
  | .word rel _ => rel ≠ bufferCount
  | _ => True

theorem LeavesCount.hasBuffer {c : EndpointSetting} (hc : c.LeavesCount) {d : Device} {f : UInt32}
    (hf : d.registers.HasBuffer f) (e : UInt32) : (c.apply d e).registers.HasBuffer f := by
  have hword : ∀ (rel : NodePath) (value : UInt32), rel ≠ bufferCount →
      (d.setWord ((base e).join rel) value).registers.HasBuffer f := by
    intro rel value hrel
    have hne : (base e).join rel ≠ count f := fun heq => hrel (join_base_inj.mp heq).2
    exact (hf.of_eq (by rfl) (by rw [Device.setWord, Registers.getElem?_words_setWord, if_neg hne])).1
  cases c with
  | version value => exact hword EndpointNode.version value (by decide)
  | eventCounter count => exact hword EndpointNode.eventCounter count (by decide)
  | timestamp ticks => exact (hf.of_eq (by rfl) (by rfl)).1
  | counters values => exact (hf.of_eq (by rfl) (by rfl)).1
  | buffer words => exact hf.setBuffer hc
  | state code => exact hword EndpointNode.state code (by decide)
  | word rel value => exact hword rel value hc

end EndpointSetting

theorem Device.hasBuffer_prepared {d : Device} {settings : List (UInt32 × EndpointSetting)} {e : UInt32}
    (h : d.registers.HasBuffer e) (hsettings : ∀ c ∈ settings, c.2.LeavesCount) :
    (d.prepared settings).registers.HasBuffer e := by
  induction settings generalizing d with
  | nil => exact h
  | cons c settings ih =>
    refine ih (d := c.2.apply d c.1) ?_ fun c' hc' => hsettings c' (List.mem_cons_of_mem c hc')
    exact (hsettings c List.mem_cons_self).hasBuffer h c.1

namespace EndpointGroup

/-- **Readout is exact.**  On an endpoint device that comes up without faults, with any words in its buffers, a readout
reports every endpoint of the group in its order.  What it reports of an endpoint are the words that it takes out of the
front of the buffer; the rest stays there and is counted, and a block is read only where there is something to take.
Nothing else on the device changes.  A readout of complete events after that finds none and changes nothing, and a
readout of everything, before or after that, returns what has remained, which is less than an event. -/
theorem readback_exact (id : String) (endpoints : List UInt32) (settings : List (UInt32 × EndpointSetting))
    (hsettings : ∀ c ∈ settings, c.2.LeavesCount) (before : Session) {g : EndpointGroup}
    (horder : g.ids.Pairwise (· < ·)) (hg : ∀ e ∈ g.ids, e ∈ endpoints) (mode : ReadoutMode) (now : UInt64) :
    let s := { before with device := (Device.endpoint id endpoints).prepared settings, batch := #[] }
    let o := (g.readback mode).run now s
    ∃ reports, o.result = .ok reports ∧ reports.map Readback.id = g.ids ∧
      (∀ report ∈ reports, report.Accounts mode s.device o.state.device ∧
        (report.toRead = 0 → ∀ x ∈ (g.readback mode).asked now s, ∀ n, x.2.2 ≠ .readBlock (data report.id) n)) ∧
      s.device.SameButBuffers g.ids o.state.device ∧
      ∀ later, let again := (g.readback .completeEvents).run later o.state
        again.state.device = o.state.device ∧
        (∃ none, again.result = .ok none ∧ none.map Readback.id = g.ids ∧ ∀ report ∈ none, report.words = []) ∧
        ∀ t ∈ [o.state, again.state], ∀ last, ∃ rest, ((g.readback .everything).run last t).result = .ok rest ∧
          rest.map Readback.id = g.ids ∧ ∀ report ∈ rest, report.words.length < 6 ∧
            o.state.device.registers.fifos[data report.id]? = some report.words := by
  intro s o
  have hn : g.ids.Nodup := horder.imp UInt32.ne_of_lt
  have hfaultless : s.device.failure = none := by
    show ((Device.endpoint id endpoints).prepared settings).failure = none
    rw [Device.prepared_eq]
    rfl
  have hbuffers : ∀ e ∈ g.ids, s.device.registers.HasBuffer e := fun e he =>
    Device.hasBuffer_prepared (Device.hasBuffer_endpoint id (hg e he)) hsettings
  obtain ⟨_, hresult, rfl, hclear, hdrained, hsame, hreads⟩ :=
    (runs_readback (s := s) (by rfl) hfaultless hn hbuffers mode now).succeeds
  refine ⟨_, hresult, map_id_readout _ mode _, fun report hreport => ?_, hsame, fun later => ?_⟩
  · obtain ⟨e, he, rfl⟩ := List.mem_map.mp hreport
    refine ⟨Readback.accounts_readout (hbuffers e he) hdrained he, fun hzero x hx n hread => ?_⟩
    obtain ⟨report', hreport', hfor⟩ := hreads x hx
    obtain ⟨e', -, rfl⟩ := List.mem_map.mp hreport'
    obtain ⟨hdata, htaken, hne⟩ := hfor _ n hread
    obtain rfl : e = e' := data_inj.mp hdata
    exact hne (htaken.trans hzero)
  -- what is left is less than an event, so that the next readout of complete events finds none
  have hbuffers' : ∀ e ∈ g.ids, o.state.device.registers.HasBuffer e := fun e he => hdrained.keeps e (hbuffers e he)
  have hfaultless' : o.state.device.failure = none := (s.evolves_run now _).failure.trans hfaultless
  have hshort : ∀ e ∈ g.ids, (o.state.device.registers.buffer e).length < 6 := fun e he => by
    rw [hdrained.taken e he]
    exact length_remainder_lt _ mode e
  intro again
  obtain ⟨_, hagain, hclear', hdev, hnone⟩ :=
    (runs_readback_completeEvents_short hclear hfaultless' hn hbuffers' hshort later).succeeds
  refine ⟨hdev, ⟨_, hagain, hnone⟩, fun t ht last => ?_⟩
  have ht' : t.Clear ∧ t.device = o.state.device := by
    rcases List.mem_cons.mp ht with rfl | ht
    · exact ⟨hclear, rfl⟩
    · obtain rfl := List.mem_singleton.mp ht
      exact ⟨hclear', hdev⟩
  obtain ⟨htclear, htdev⟩ := ht'
  rw [← htdev] at hfaultless' hbuffers' hshort ⊢
  exact (runs_readback_everything_short htclear hfaultless' hn hbuffers' hshort last).succeeds

/-- Eight words in the buffer of one endpoint and three in that of another. -/
def eightAndThree : List (UInt32 × EndpointSetting) := [(0, .buffer [1, 2, 3, 4, 5, 6, 7, 8]), (1, .buffer [9, 10, 11])]

/-- Six words are taken of the eight and none of the three, for which no block is read. -/
theorem readback_eightAndThree :
    let s := Session.ofDevice ((Device.endpoint "EPT" [0, 1]).prepared eightAndThree)
    let p := readback ⟨"EPT", [0, 1]⟩ .completeEvents
    let o := p.run 0 s
    o.result = .ok [⟨0, 8, 6, [1, 2, 3, 4, 5, 6]⟩, ⟨1, 3, 0, []⟩] ∧
      s.device.SameButBuffers [0, 1] o.state.device ∧
      (∀ x ∈ p.asked 0 s, ∀ n, x.2.2 ≠ .readBlock (data 1) n) ∧ (p.run 0 o.state).state.device = o.state.device := by
  intro s p o
  have hsettings : ∀ c ∈ eightAndThree, c.2.LeavesCount := by
    simp [eightAndThree, EndpointSetting.LeavesCount, UInt32.size]
  obtain ⟨reports, hresult, -, hreports, hsame, hlater⟩ := readback_exact "EPT" [0, 1] eightAndThree hsettings s
    (g := ⟨"EPT", [0, 1]⟩) (by decide) (fun _ h => h) .completeEvents 0
  have htaken : o.result.toOption = some [⟨0, 8, 6, [1, 2, 3, 4, 5, 6]⟩, ⟨1, 3, 0, []⟩] := by decide +kernel
  obtain rfl := Option.some.inj ((congrArg Except.toOption hresult).symm.trans htaken)
  exact ⟨hresult, hsame, (hreports ⟨1, 3, 0, []⟩ (by decide)).2 rfl, (hlater 0).1⟩

end EndpointGroup

end TimingFleet
